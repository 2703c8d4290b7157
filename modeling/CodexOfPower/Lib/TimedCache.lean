/-
# `CodexOfPower.Lib.TimedCache` — how old an answer may be

A world that moves by itself is looked at now and then; what was computed from it is kept
with the time it was computed at, and given again while that is not too long ago.  What a
reader gets is then right about a moment of the past (`Within`): the ages of caches that
are filled from one another add up, and nothing else is needed of the clock than that the
comparison is done without wrapping.
-/
import Mathlib.Data.List.Basic

namespace CodexOfPower

universe u v

/-- The world, as it was at one reading of the clock. -/
structure Moment (ω : Type u) where
  clock : UInt64
  world : ω

variable {ω : Type u} {α : Type v}

/-! ## Moments that are recent enough -/

/-- There was a moment, at most `age` before `now`, at which `p` held. -/
def Within (past : List (Moment ω)) (age : Nat) (now : UInt64) (p : ω → Prop) : Prop :=
  ∃ moment ∈ past, moment.clock.toNat ≤ now.toNat ∧ now.toNat ≤ moment.clock.toNat + age ∧
    p moment.world

namespace Within

variable {past past' : List (Moment ω)} {age age' : Nat} {now now' : UInt64} {p q : ω → Prop}

/-- What holds at a moment was so within any age of that moment. -/
theorem present {moment : Moment ω} (hmem : moment ∈ past) (h : p moment.world) :
    Within past age moment.clock p :=
  ⟨moment, hmem, Nat.le_refl _, Nat.le_add_right _ _, h⟩

theorem imp (h : Within past age now p) (hpq : ∀ world, p world → q world) :
    Within past age now q := by
  obtain ⟨moment, hmem, hle, hage, hp⟩ := h
  exact ⟨moment, hmem, hle, hage, hpq _ hp⟩

/-- What was so within an age stays so when moments are added. -/
theorem of_subset (h : Within past age now p) (hsub : past ⊆ past') :
    Within past' age now p := by
  obtain ⟨moment, hmem, hrest⟩ := h
  exact ⟨moment, hsub hmem, hrest⟩

/-- Ages add up. -/
theorem later (h : Within past age now p) (hle : now.toNat ≤ now'.toNat)
    (hage : now'.toNat ≤ now.toNat + age') : Within past (age + age') now' p := by
  obtain ⟨moment, hmem, hbefore, hrecent, hp⟩ := h
  refine ⟨moment, hmem, Nat.le_trans hbefore hle, ?_, hp⟩
  omega

end Within

/-! ## A value and the time it is of -/

/-- Not from the future, and not older than `ttl`. -/
def isFresh (ttl builtAt now : UInt64) : Bool := builtAt ≤ now && now - builtAt ≤ ttl

theorem isFresh_iff {ttl builtAt now : UInt64} :
    isFresh ttl builtAt now = true ↔
      builtAt.toNat ≤ now.toNat ∧ now.toNat ≤ builtAt.toNat + ttl.toNat := by
  unfold isFresh
  rw [Bool.and_eq_true, decide_eq_true_eq, decide_eq_true_eq, UInt64.le_iff_toNat_le,
    UInt64.le_iff_toNat_le]
  constructor
  · rintro ⟨hle, hage⟩
    rw [UInt64.toNat_sub_of_le _ _ (UInt64.le_iff_toNat_le.mpr hle)] at hage
    exact ⟨hle, by omega⟩
  · rintro ⟨hle, hage⟩
    rw [UInt64.toNat_sub_of_le _ _ (UInt64.le_iff_toNat_le.mpr hle)]
    exact ⟨hle, by omega⟩

structure TimedCache (α : Type v) where
  value : α
  builtAt : UInt64 := 0

namespace TimedCache

variable {source : ω → α} {past past' : List (Moment ω)} {cache : TimedCache α}
  {moment : Moment ω} {ttl : UInt64}

/-- The cache after it was asked: built anew, unless it is fresh. -/
def refresh (ttl : UInt64) (source : ω → α) (moment : Moment ω) (cache : TimedCache α) :
    TimedCache α :=
  if isFresh ttl cache.builtAt moment.clock then cache
  else { value := source moment.world, builtAt := moment.clock }

/-- The cache holds what a moment of the past gave, or nothing was ever asked of it. -/
def Dated (source : ω → α) (past : List (Moment ω)) (cache : TimedCache α) : Prop :=
  cache.builtAt = 0 ∨
    ∃ moment ∈ past, moment.clock = cache.builtAt ∧ cache.value = source moment.world

theorem Dated.of_subset (h : cache.Dated source past) (hsub : past ⊆ past') :
    cache.Dated source past' := by
  rcases h with hnever | ⟨moment, hmem, hrest⟩
  · exact .inl hnever
  · exact .inr ⟨moment, hsub hmem, hrest⟩

theorem Dated.refresh (h : cache.Dated source past) (hmem : moment ∈ past) :
    (cache.refresh ttl source moment).Dated source past := by
  unfold TimedCache.refresh
  split_ifs
  · exact h
  · exact .inr ⟨moment, hmem, rfl, rfl⟩

/-- What a cache answers was so at most `ttl` ago; the first answer is to be given after the
clock has passed `ttl`. -/
theorem Dated.answer (h : cache.Dated source past) (hmem : moment ∈ past)
    (hstarted : ttl.toNat < moment.clock.toNat) :
    Within past ttl.toNat moment.clock fun world =>
      (cache.refresh ttl source moment).value = source world := by
  unfold TimedCache.refresh
  split_ifs with hfresh
  · obtain ⟨hle, hage⟩ := isFresh_iff.mp hfresh
    rcases h with hnever | ⟨old, hold, hclock, hvalue⟩
    · rw [hnever] at hage
      simp at hage
      omega
    · refine ⟨old, hold, ?_, ?_, hvalue⟩
      · rw [hclock]
        exact hle
      · rw [hclock]
        exact hage
  · exact .present hmem rfl

end TimedCache

end CodexOfPower
