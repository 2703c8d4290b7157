/-
# `CodexOfPower.Lib.Chain` — following links to their end

A partial function leads from an element to the next one, if there is one.  `Links n x y`
says that `n` links lead from `x` to `y`, `EndsAt x y` that the chain from `x` ends in
`y`: an end is unique, and shared by all elements of the chain.  A walk that takes a
limited number of links gets to the end of every chain that is no longer than that
(`endsAt_walk`).
-/
import Mathlib.Logic.Relation

namespace CodexOfPower

universe u

variable {α : Type u} {next : α → Option α} {x y z : α} {n m : Nat}

/-- So many links lead from one element to the other. -/
inductive Links (next : α → Option α) : Nat → α → α → Prop
  | zero (x : α) : Links next 0 x x
  | succ {n : Nat} {x y z : α} (h : next x = some y) (hrest : Links next n y z) :
      Links next (n + 1) x z

/-- The chain from one element ends in the other. -/
def EndsAt (next : α → Option α) (x y : α) : Prop := ∃ n, Links next n x y ∧ next y = none

/-- No chain has more links than the limit. -/
def ChainsWithin (next : α → Option α) (limit : Nat) : Prop :=
  ∀ n x y, Links next n x y → n ≤ limit

/-- One element leads to the other, by any number of links. -/
def OnChain (next : α → Option α) : α → α → Prop :=
  Relation.ReflTransGen fun x y => next x = some y

/-- No element leads back to itself. -/
def Acyclic (next : α → Option α) : Prop :=
  ∀ x, ¬ Relation.TransGen (fun x y => next x = some y) x x

/-- Follows at most so many links, from the start on. -/
def walk (next : α → Option α) : Nat → α → α
  | 0, x => x
  | limit + 1, x =>
    match next x with
    | none => x
    | some y => walk next limit y

theorem EndsAt.self (h : next x = none) : EndsAt next x x := ⟨0, .zero x, h⟩

theorem EndsAt.step (h : next x = some y) (hend : EndsAt next y z) : EndsAt next x z := by
  obtain ⟨n, hlinks, hlast⟩ := hend
  exact ⟨n + 1, .succ h hlinks, hlast⟩

/-- A chain has one end. -/
theorem EndsAt.unique (h : EndsAt next x y) (h' : EndsAt next x z) : y = z := by
  obtain ⟨n, hlinks, hlast⟩ := h
  obtain ⟨m, hlinks', hlast'⟩ := h'
  revert m
  induction hlinks with
  | zero x =>
    intro m hlinks'
    cases hlinks' with
    | zero => rfl
    | succ hnext _ => rw [hlast] at hnext; cases hnext
  | succ hnext _ ih =>
    intro m hlinks'
    cases hlinks' with
    | zero => rw [hnext] at hlast'; cases hlast'
    | succ hnext' hrest =>
      rw [hnext] at hnext'
      obtain rfl := Option.some.inj hnext'
      exact ih hlast _ hrest

/-- The last link of a chain, or none. -/
theorem Links.last (h : Links next n x y) : x = y ∨ ∃ z, next z = some y := by
  induction h with
  | zero x => exact .inl rfl
  | succ hnext _ ih =>
    rcases ih with rfl | hlast
    · exact .inr ⟨_, hnext⟩
    · exact .inr hlast

/-- A walk takes all the links it may, or gets to the end. -/
theorem links_walk (next : α → Option α) (limit : Nat) (x : α) :
    ∃ n, Links next n x (walk next limit x) ∧
      (n = limit ∨ next (walk next limit x) = none) := by
  induction limit generalizing x with
  | zero => exact ⟨0, .zero x, .inl rfl⟩
  | succ limit ih =>
    rw [walk]
    cases hnext : next x with
    | none => exact ⟨0, .zero x, .inr hnext⟩
    | some y =>
      obtain ⟨n, hlinks, hstop⟩ := ih y
      exact ⟨n + 1, .succ hnext hlinks, hstop.imp (congrArg (· + 1)) id⟩

theorem Links.snoc (h : Links next n x y) (hnext : next y = some z) :
    Links next (n + 1) x z := by
  induction h with
  | zero x => exact .succ hnext (.zero z)
  | succ hfirst _ ih => exact .succ hfirst (ih hnext)

/-- Where no chain is longer than the walk may be, it gets to the end. -/
theorem endsAt_walk {limit : Nat} (h : ChainsWithin next limit) (x : α) :
    EndsAt next x (walk next limit x) := by
  obtain ⟨n, hlinks, hstop⟩ := links_walk next limit x
  cases hnext : next (walk next limit x) with
  | none => exact ⟨n, hlinks, hnext⟩
  | some y =>
    have hlimit : n = limit := hstop.resolve_right (by rw [hnext]; nofun)
    have hlonger := h _ _ _ (hlinks.snoc hnext)
    rw [hlimit] at hlonger
    exact absurd hlonger (Nat.not_succ_le_self limit)

/-- A link that leads to itself makes chains of any length. -/
theorem ne_of_chainsWithin {limit : Nat} (h : ChainsWithin next limit) (hnext : next x = some y) :
    y ≠ x := by
  rintro rfl
  have hloop : ∀ n, Links next n y y := by
    intro n
    induction n with
    | zero => exact .zero y
    | succ n ih => exact .succ hnext ih
  exact absurd (h _ _ _ (hloop (limit + 1))) (Nat.not_succ_le_self limit)

/-- What every link keeps is the same all along a chain. -/
theorem OnChain.congr {β : Type*} {f : α → β} (h : OnChain next x y)
    (hlink : ∀ x y, next x = some y → f x = f y) : f x = f y := by
  induction h with
  | refl => rfl
  | tail _ hnext ih => exact ih.trans (hlink _ _ hnext)

/-- Links that raise a rank lead to no cycle. -/
theorem acyclic_of_rank {rank : α → Nat} (h : ∀ x y, next x = some y → rank x < rank y) :
    Acyclic next := by
  have hraised : ∀ x y, Relation.TransGen (fun x y => next x = some y) x y → rank x < rank y := by
    intro x y hpath
    induction hpath with
    | single hnext => exact h _ _ hnext
    | tail _ hnext ih => exact Nat.lt_trans ih (h _ _ hnext)
  exact fun x hpath => absurd (hraised x x hpath) (Nat.lt_irrefl _)

/-- Links that raise a rank, and none beyond the limit, make short chains. -/
theorem chainsWithin_of_rank {rank : α → Nat} {limit : Nat}
    (h : ∀ x y, next x = some y → rank x < rank y ∧ rank y ≤ limit) : ChainsWithin next limit := by
  have hraised : ∀ n x y, Links next n x y → rank x + n ≤ rank y ∧ (n = 0 ∨ rank y ≤ limit) := by
    intro n x y hlinks
    induction hlinks with
    | zero x => exact ⟨Nat.le_refl _, .inl rfl⟩
    | succ hnext _ ih =>
      obtain ⟨hlt, hle⟩ := h _ _ hnext
      obtain ⟨hrank, hlimit⟩ := ih
      refine ⟨by omega, .inr ?_⟩
      rcases hlimit with rfl | hlimit
      · rename_i hrest
        cases hrest
        exact hle
      · exact hlimit
  intro n x y hlinks
  obtain ⟨hrank, hlimit⟩ := hraised n x y hlinks
  omega

end CodexOfPower
