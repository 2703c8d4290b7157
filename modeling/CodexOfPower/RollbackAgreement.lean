/-
# `CodexOfPower.RollbackAgreement` — taking reward deltas back, on both sides

An old undo record lists what its registration gave.  Taking it back lowers the tracked
totals and adjusts the player by what the totals gave up, truncation and caps included.
Delta by delta the two sides stay within 0.002 of each other, as long as the actor
value is tracked.

The store is changed before that is asked.  A delta for an actor value that is not
tracked, or no longer, leaves the store with a negative total that the player never
had; the adjustment is then skipped (`rollback_agrees_iff`).

## What is not said

The arithmetic is exact.  Where a list has several deltas for one actor value the condition
is shown to be enough, and not to be necessary: totals that come up wrongly may cancel each
other again.
-/
import CodexOfPower.CleanupExactness

namespace CodexOfPower.Rewards

open RE Registration RewardStateStore

/-! ## What should agree -/

/-- What the player has from an actor value's total: nothing when it is untracked. -/
def appliedAmount (av : ActorValue) (total : Option ℚ) : ℚ :=
  total.elim 0 (actorAppliedRewardTotal av)

def netAdjustment (av : ActorValue) (adjustments : List (RewardDelta ℚ)) : ℚ :=
  ((adjustments.filter fun adjustment => adjustment.av = av).map RewardDelta.delta).sum

/-- The player was adjusted by what the totals gave up, and no total came up. -/
structure Agrees (state : RuntimeState ℚ) (deltas : List (RewardDelta ℚ))
    (result : RuntimeState ℚ × List (RewardDelta ℚ)) : Prop where
  adjusted : ∀ av, |netAdjustment av result.2 -
    (appliedAmount av (result.1.rewardTotals.lookup av) -
      appliedAmount av (state.rewardTotals.lookup av))| ≤ 2 / 1000 * deltas.length
  untracked : ∀ av, av ∉ state.rewardTotals → av ∉ result.1.rewardTotals

/-- What a delta leaves of a total. -/
def remaining (av : ActorValue) (total : Option ℚ) (delta : ℚ) : Option ℚ :=
  if |delta| ≤ 1 / 1000 then total
  else if |clampRewardTotal av (total.getD 0 - delta)| ≤ 1 / 1000 then none
  else some (clampRewardTotal av (total.getD 0 - delta))

/-- The total outlasts its deltas: each of more than 0.001 finds it tracked. -/
def Outlasts (av : ActorValue) : Option ℚ → List (RewardDelta ℚ) → Prop
  | _, [] => True
  | total, entry :: deltas =>
    if entry.av = av then
      (1 / 1000 < |entry.delta| → total.isSome = true) ∧
        Outlasts av (remaining av total entry.delta) deltas
    else Outlasts av total deltas

/-! ## Small totals -/

section Small

variable {av : ActorValue} {total : ℚ}

theorem clampRewardTotal_of_small (h : |total| ≤ 1 / 1000) : clampRewardTotal av total = total := by
  rw [clampRewardTotal_eq_self_iff_rat]
  intro cap hcap
  have hlarge := lt_of_tryGetRewardCap hcap
  have hle := (abs_le.mp h).2
  linarith

theorem round_of_small (h : |total| ≤ 1 / 1000) : FloatType.round total = (0 : ℚ) := by
  obtain ⟨hlower, hupper⟩ := abs_le.mp h
  show (if total < 0 then -((⌊-total + 1 / 2⌋ : ℤ) : ℚ) else ((⌊total + 1 / 2⌋ : ℤ) : ℚ)) = 0
  split_ifs
  · have hfloor : ⌊-total + 1 / 2⌋ = 0 := Int.floor_eq_iff.mpr ⟨by norm_num; linarith, by
      norm_num; linarith⟩
    rw [hfloor, Int.cast_zero, neg_zero]
  · have hfloor : ⌊total + 1 / 2⌋ = 0 := Int.floor_eq_iff.mpr ⟨by norm_num; linarith, by
      norm_num; linarith⟩
    rw [hfloor, Int.cast_zero]

theorem trunc_of_small (h : |total| ≤ 1 / 1000) : FloatType.trunc total = (0 : ℚ) := by
  obtain ⟨hlower, hupper⟩ := abs_le.mp h
  show (if total < 0 then ((⌈total⌉ : ℤ) : ℚ) else ((⌊total⌋ : ℤ) : ℚ)) = 0
  split_ifs with hneg
  · have hceil : ⌈total⌉ = 0 := Int.ceil_eq_iff.mpr ⟨by norm_num; linarith, by
      norm_num; exact hneg.le⟩
    rw [hceil, Int.cast_zero]
  · have hfloor : ⌊total⌋ = 0 := Int.floor_eq_iff.mpr ⟨by norm_num; linarith, by
      norm_num; linarith⟩
    rw [hfloor, Int.cast_zero]

/-- A total that is dropped as small gives at most that much. -/
theorem abs_applied_of_small (h : |total| ≤ 1 / 1000) :
    |actorAppliedRewardTotal av total| ≤ 1 / 1000 := by
  unfold actorAppliedRewardTotal
  rw [clampRewardTotal_of_small h]
  dsimp only
  split_ifs
  · exact h
  · rw [round_of_small h, trunc_of_small (by norm_num), abs_zero]
    norm_num
  · rw [trunc_of_small h, abs_zero]
    norm_num

theorem small_of_clampRewardTotal (h : |clampRewardTotal av total| ≤ 1 / 1000) :
    |total| ≤ 1 / 1000 := by
  rw [clampRewardTotal_rat] at h
  cases hcap : tryGetRewardCap (F := ℚ) av with
  | none =>
    rw [hcap] at h
    exact h
  | some cap =>
    rw [hcap, Option.elim_some] at h
    split_ifs at h
    · have hlarge := lt_of_tryGetRewardCap hcap
      exact absurd (abs_le.mp h).2 (not_le.mpr hlarge)
    · exact h

end Small

/-! ## One delta -/

section Step

variable {totals : UnorderedMap ActorValue ℚ} {entry : RewardDelta ℚ} {av : ActorValue}

/-- The store after one delta, and what it says of the actor value before and after. -/
theorem adjustClamped_spec (totals : UnorderedMap ActorValue ℚ) (av : ActorValue) (delta : ℚ) :
    (adjustClamped totals av (-delta)).2.existedBefore = (totals.lookup av).isSome ∧
    (adjustClamped totals av (-delta)).2.previousTotal = (totals.lookup av).getD 0 ∧
    (adjustClamped totals av (-delta)).2.nextTotal =
      clampRewardTotal av ((totals.lookup av).getD 0 - delta) ∧
    ∀ other, (adjustClamped totals av (-delta)).1.lookup other =
      if av = other then
        if |clampRewardTotal av ((totals.lookup av).getD 0 - delta)| ≤ 1 / 1000 then none
        else some (clampRewardTotal av ((totals.lookup av).getD 0 - delta))
      else totals.lookup other := by
  have hzero : (0.0 : ℚ) = 0 := by norm_num
  have habs : ∀ x : ℚ, FloatType.abs x = |x| := fun _ => rfl
  unfold adjustClamped
  dsimp only
  rw [hzero, ← sub_eq_add_neg, kRewardCapEpsilon_rat, habs]
  split_ifs with hsmall htracked
  · refine ⟨rfl, rfl, rfl, fun other => ?_⟩
    rw [UnorderedMap.lookup_erase_eq]
    exact if_congr eq_comm rfl rfl
  · refine ⟨rfl, rfl, rfl, fun other => ?_⟩
    split_ifs with hother
    · subst hother
      exact Option.not_isSome_iff_eq_none.mp htracked
    · rfl
  · refine ⟨rfl, rfl, rfl, fun other => ?_⟩
    rw [UnorderedMap.lookup_insert_eq]
    exact if_congr eq_comm rfl rfl

theorem rollbackRewardDelta_of_small (h : |entry.delta| ≤ 1 / 1000) :
    rollbackRewardDelta totals entry = (totals, none) := by
  rw [← kRewardCapEpsilon_rat] at h
  exact if_pos h

/-- The store is adjusted whether or not the actor value was tracked. -/
theorem rollbackRewardDelta_fst (h : ¬ |entry.delta| ≤ 1 / 1000) :
    (rollbackRewardDelta totals entry).1 = (adjustClamped totals entry.av (-entry.delta)).1 := by
  have hlarge : ¬ FloatType.abs entry.delta ≤ kRewardCapEpsilon := by
    rw [kRewardCapEpsilon_rat]
    exact h
  unfold rollbackRewardDelta
  dsimp only
  rw [if_neg hlarge]
  split_ifs <;> rfl

/-- The player is adjusted by what the total gave up. -/
theorem rollbackRewardDelta_snd (h : ¬ |entry.delta| ≤ 1 / 1000) {previous next : ℚ}
    (hprevious : totals.lookup entry.av = some previous)
    (hnext : clampRewardTotal entry.av (previous - entry.delta) = next) :
    (rollbackRewardDelta totals entry).2 =
      if 1 / 1000 <
          |actorAppliedRewardTotal entry.av next - actorAppliedRewardTotal entry.av previous| then
        some { av := entry.av
               delta := actorAppliedRewardTotal entry.av next -
                 actorAppliedRewardTotal entry.av previous }
      else none := by
  have hlarge : ¬ FloatType.abs entry.delta ≤ kRewardCapEpsilon := by
    rw [kRewardCapEpsilon_rat]
    exact h
  have habs : ∀ x : ℚ, FloatType.abs x = |x| := fun _ => rfl
  obtain ⟨hexisted, hbefore, hafter, -⟩ := adjustClamped_spec totals entry.av entry.delta
  rw [hprevious] at hexisted hbefore hafter
  rw [Option.getD_some] at hbefore hafter
  unfold rollbackRewardDelta
  dsimp only
  rw [if_neg hlarge, hexisted, hbefore, hafter, hnext, kRewardCapEpsilon_rat, habs,
    Option.isSome_some, Bool.not_true, if_neg Bool.false_ne_true]
  split_ifs <;> rfl

/-- The total of an actor value after one delta. -/
theorem lookup_rollbackRewardDelta (totals : UnorderedMap ActorValue ℚ) (entry : RewardDelta ℚ)
    (av : ActorValue) :
    (rollbackRewardDelta totals entry).1.lookup av =
      if entry.av = av then remaining av (totals.lookup av) entry.delta else totals.lookup av := by
  obtain ⟨-, -, -, hlookup⟩ := adjustClamped_spec totals entry.av entry.delta
  unfold remaining
  by_cases hsmall : |entry.delta| ≤ 1 / 1000
  · rw [rollbackRewardDelta_of_small hsmall, if_pos hsmall, ite_self]
  · rw [rollbackRewardDelta_fst hsmall, if_neg hsmall, hlookup]
    by_cases hav : entry.av = av
    · subst hav
      rfl
    · rw [if_neg hav, if_neg hav]

/-- Nothing is done to the player for any other actor value. -/
theorem netAdjustment_of_ne (h : entry.av ≠ av) :
    netAdjustment av (rollbackRewardDelta totals entry).2.toList = 0 := by
  unfold rollbackRewardDelta
  dsimp only
  split_ifs
  · rfl
  · rfl
  · simp [netAdjustment, h]
  · rfl

/-- A delta that finds the actor value tracked: store and player change alike. -/
theorem adjusted_step
    (htracked : 1 / 1000 < |entry.delta| → (totals.lookup entry.av).isSome = true) :
    |netAdjustment entry.av (rollbackRewardDelta totals entry).2.toList -
      (appliedAmount entry.av ((rollbackRewardDelta totals entry).1.lookup entry.av) -
        appliedAmount entry.av (totals.lookup entry.av))| ≤ 2 / 1000 := by
  by_cases hsmall : |entry.delta| ≤ 1 / 1000
  · rw [rollbackRewardDelta_of_small hsmall, sub_self]
    norm_num [netAdjustment]
  obtain ⟨previous, hprevious⟩ := Option.isSome_iff_exists.mp (htracked (not_le.mp hsmall))
  generalize hnext : clampRewardTotal entry.av (previous - entry.delta) = next
  have hafter : (rollbackRewardDelta totals entry).1.lookup entry.av =
      if |next| ≤ 1 / 1000 then none else some next := by
    rw [lookup_rollbackRewardDelta, if_pos rfl, remaining, if_neg hsmall, hprevious,
      Option.getD_some, hnext]
  rw [rollbackRewardDelta_snd hsmall hprevious hnext, hafter, hprevious]
  -- what is dropped from the store, and what is too small to take from the player
  have hdropped : |actorAppliedRewardTotal entry.av next -
      appliedAmount entry.av (if |next| ≤ 1 / 1000 then none else some next)| ≤ 1 / 1000 := by
    split_ifs with hgone
    · show |actorAppliedRewardTotal entry.av next - 0| ≤ 1 / 1000
      rw [sub_zero]
      exact abs_applied_of_small hgone
    · show |actorAppliedRewardTotal entry.av next - actorAppliedRewardTotal entry.av next| ≤ _
      rw [sub_self, abs_zero]
      norm_num
  have hbefore : appliedAmount entry.av (some previous) =
      actorAppliedRewardTotal entry.av previous := rfl
  rw [hbefore]
  generalize appliedAmount entry.av (if |next| ≤ 1 / 1000 then none else some next) = after
    at hdropped ⊢
  generalize actorAppliedRewardTotal entry.av next = applied at hdropped ⊢
  generalize actorAppliedRewardTotal entry.av previous = before
  obtain ⟨hlower, hupper⟩ := abs_le.mp hdropped
  split_ifs with hvisible
  · have hnet : netAdjustment entry.av (some ({ av := entry.av, delta := applied - before } :
        RewardDelta ℚ)).toList = applied - before := by simp [netAdjustment]
    rw [hnet, abs_le]
    constructor <;> linarith
  · have hnet : netAdjustment entry.av (none : Option (RewardDelta ℚ)).toList = 0 := rfl
    obtain ⟨hleast, hmost⟩ := abs_le.mp (not_lt.mp hvisible)
    rw [hnet, abs_le]
    constructor <;> linarith

end Step

/-! ## The whole list -/

section Run

variable {av : ActorValue} {total : Option ℚ} {deltas : List (RewardDelta ℚ)}

def remainingAfter (av : ActorValue) : Option ℚ → List (RewardDelta ℚ) → Option ℚ
  | total, [] => total
  | total, entry :: deltas =>
    remainingAfter av (if entry.av = av then remaining av total entry.delta else total) deltas

def rollbackStep (acc : UnorderedMap ActorValue ℚ × List (RewardDelta ℚ))
    (entry : RewardDelta ℚ) : UnorderedMap ActorValue ℚ × List (RewardDelta ℚ) :=
  ((rollbackRewardDelta acc.1 entry).1, acc.2 ++ (rollbackRewardDelta acc.1 entry).2.toList)

theorem rollbackRewardDeltas_eq (state : RuntimeState ℚ) (deltas : List (RewardDelta ℚ)) :
    rollbackRewardDeltas true state deltas =
      ({ state with rewardTotals := (deltas.foldl rollbackStep (state.rewardTotals, [])).1 },
        (deltas.foldl rollbackStep (state.rewardTotals, [])).2) := by
  cases deltas with
  | nil => rfl
  | cons entry deltas => rfl

theorem netAdjustment_append (av : ActorValue) (adjustments adjustments' : List (RewardDelta ℚ)) :
    netAdjustment av (adjustments ++ adjustments') =
      netAdjustment av adjustments + netAdjustment av adjustments' := by
  unfold netAdjustment
  rw [List.filter_append, List.map_append, List.sum_append]

theorem lookup_foldl (acc : UnorderedMap ActorValue ℚ × List (RewardDelta ℚ)) :
    (deltas.foldl rollbackStep acc).1.lookup av = remainingAfter av (acc.1.lookup av) deltas := by
  induction deltas generalizing acc with
  | nil => rfl
  | cons entry deltas ih =>
    rw [List.foldl_cons, ih, remainingAfter]
    congr 1
    exact lookup_rollbackRewardDelta acc.1 entry av

/-- As long as the total outlasts its deltas, each costs at most 0.002 of agreement. -/
theorem adjusted_foldl (acc : UnorderedMap ActorValue ℚ × List (RewardDelta ℚ))
    (h : Outlasts av (acc.1.lookup av) deltas) :
    |netAdjustment av (deltas.foldl rollbackStep acc).2 - netAdjustment av acc.2 -
      (appliedAmount av ((deltas.foldl rollbackStep acc).1.lookup av) -
        appliedAmount av (acc.1.lookup av))| ≤ 2 / 1000 * deltas.length := by
  induction deltas generalizing acc with
  | nil => simp
  | cons entry deltas ih =>
    have hstep : |netAdjustment av (rollbackRewardDelta acc.1 entry).2.toList -
        (appliedAmount av ((rollbackRewardDelta acc.1 entry).1.lookup av) -
          appliedAmount av (acc.1.lookup av))| ≤ 2 / 1000 := by
      by_cases hav : entry.av = av
      · subst hav
        rw [Outlasts, if_pos rfl] at h
        exact adjusted_step h.1
      · rw [netAdjustment_of_ne hav, lookup_rollbackRewardDelta, if_neg hav, sub_self, sub_zero,
          abs_zero]
        norm_num
    have hrest : Outlasts av ((rollbackStep acc entry).1.lookup av) deltas := by
      show Outlasts av ((rollbackRewardDelta acc.1 entry).1.lookup av) deltas
      rw [lookup_rollbackRewardDelta]
      rw [Outlasts] at h
      split_ifs at h ⊢
      · exact h.2
      · exact h
    have hnext := ih (rollbackStep acc entry) hrest
    have happend : netAdjustment av (rollbackStep acc entry).2 = netAdjustment av acc.2 +
        netAdjustment av (rollbackRewardDelta acc.1 entry).2.toList := netAdjustment_append _ _ _
    have hlookup : (rollbackStep acc entry).1.lookup av =
        (rollbackRewardDelta acc.1 entry).1.lookup av := rfl
    rw [happend, hlookup] at hnext
    rw [List.foldl_cons, List.length_cons, Nat.cast_add, Nat.cast_one]
    obtain ⟨hstepLower, hstepUpper⟩ := abs_le.mp hstep
    obtain ⟨hnextLower, hnextUpper⟩ := abs_le.mp hnext
    rw [abs_le]
    constructor <;> linarith

theorem remaining_of_small {delta : ℚ} (h : |delta| ≤ 1 / 1000) :
    remaining av total delta = total := if_pos h

/-- An untracked actor value comes up with its first delta. -/
theorem remaining_none_ne {delta : ℚ} (h : ¬ |delta| ≤ 1 / 1000) :
    remaining av none delta ≠ none := by
  unfold remaining
  rw [if_neg h, Option.getD_none, zero_sub]
  split_ifs with hsmall
  · exact fun _ => h (abs_neg delta ▸ small_of_clampRewardTotal hsmall)
  · nofun

theorem outlasts_of_small (h : ∀ entry ∈ deltas, entry.av = av → |entry.delta| ≤ 1 / 1000) :
    Outlasts av total deltas ∧ remainingAfter av total deltas = total := by
  induction deltas with
  | nil => exact ⟨trivial, rfl⟩
  | cons entry deltas ih =>
    obtain ⟨hentry, hdeltas⟩ := List.forall_mem_cons.mp h
    rw [Outlasts, remainingAfter]
    split_ifs with hav
    · have hsmall := hentry hav
      rw [remaining_of_small hsmall]
      exact ⟨⟨fun hlarge => absurd hsmall (not_le.mpr hlarge), (ih hdeltas).1⟩, (ih hdeltas).2⟩
    · exact ih hdeltas

theorem remainingAfter_none (h : Outlasts av none deltas) :
    remainingAfter av none deltas = none := by
  induction deltas with
  | nil => rfl
  | cons entry deltas ih =>
    rw [Outlasts] at h
    rw [remainingAfter]
    split_ifs at h ⊢ with hav
    · by_cases hsmall : |entry.delta| ≤ 1 / 1000
      · rw [remaining_of_small hsmall] at h ⊢
        exact ih h.2
      · exact absurd (h.1 (not_le.mp hsmall)) (by simp)
    · exact ih h

/-- The actor values of the deltas that count. -/
def countedActorValues (deltas : List (RewardDelta ℚ)) : List ActorValue :=
  (deltas.filter fun entry => 1 / 1000 < |entry.delta|).map RewardDelta.av

/-- With at most one delta that counts, an actor value that does not come up had its
total outlast its deltas. -/
theorem outlasts_of_nodup (hnodup : (countedActorValues deltas).Nodup)
    (h : total = none → remainingAfter av total deltas = none) : Outlasts av total deltas := by
  induction deltas generalizing total with
  | nil => trivial
  | cons entry deltas ih =>
    rw [remainingAfter] at h
    rw [Outlasts]
    by_cases hsmall : |entry.delta| ≤ 1 / 1000
    · have hrest : countedActorValues (entry :: deltas) = countedActorValues deltas := by
        simp only [countedActorValues, List.filter_cons, decide_eq_false (not_lt.mpr hsmall),
          Bool.false_eq_true, if_false]
      rw [hrest] at hnodup
      rw [remaining_of_small hsmall] at h ⊢
      rw [ite_self] at h
      split_ifs
      · exact ⟨fun hlarge => absurd hsmall (not_le.mpr hlarge), ih hnodup h⟩
      · exact ih hnodup h
    · have hcounted : countedActorValues (entry :: deltas) =
          entry.av :: countedActorValues deltas := by
        simp only [countedActorValues, List.filter_cons, decide_eq_true (not_le.mp hsmall), if_true,
          List.map_cons]
      rw [hcounted, List.nodup_cons] at hnodup
      split_ifs at h ⊢ with hav
      · -- the one delta that counts finds the total, and the others are small
        subst hav
        have hothers : ∀ other ∈ deltas, other.av = entry.av → |other.delta| ≤ 1 / 1000 := by
          intro other hmem hsame
          by_contra hlarge
          refine hnodup.1 (List.mem_map.mpr ⟨other, List.mem_filter.mpr ⟨hmem, ?_⟩, hsame⟩)
          exact decide_eq_true (not_le.mp hlarge)
        rw [(outlasts_of_small hothers).2] at h
        refine ⟨fun _ => ?_, (outlasts_of_small hothers).1⟩
        cases total with
        | none => exact absurd (h rfl) (remaining_none_ne hsmall)
        | some previous => rfl
      · exact ih hnodup.2 h

end Run

/-! ## The rollback -/

/-- Without the player's actor values nothing happens; with them every total has to
outlast its deltas. -/
def RollbackCovered (avOwner : Bool) (state : RuntimeState ℚ) (deltas : List (RewardDelta ℚ)) :
    Prop :=
  avOwner = true → ∀ av, Outlasts av (state.rewardTotals.lookup av) deltas

section Rollback

variable {avOwner : Bool} {state : RuntimeState ℚ} {deltas : List (RewardDelta ℚ)}

theorem agrees_of_covered (h : RollbackCovered avOwner state deltas) :
    Agrees state deltas (rollbackRewardDeltas avOwner state deltas) := by
  cases avOwner with
  | false =>
    have hsame : rollbackRewardDeltas false state deltas = (state, []) := by
      cases deltas with
      | nil => rfl
      | cons entry deltas => rfl
    rw [hsame]
    refine ⟨fun av => ?_, fun av hav => hav⟩
    rw [sub_self, sub_zero, netAdjustment, List.filter_nil, List.map_nil, List.sum_nil, abs_zero]
    positivity
  | true =>
    rw [rollbackRewardDeltas_eq]
    refine ⟨fun av => ?_, fun av hav => ?_⟩
    · have hrun := adjusted_foldl (state.rewardTotals, []) (h rfl av)
      have hnone : netAdjustment av [] = 0 := rfl
      rw [hnone, sub_zero] at hrun
      exact hrun
    · have hnone : state.rewardTotals.lookup av = none := AList.lookup_eq_none.mpr hav
      have houtlasts := h rfl av
      rw [hnone] at houtlasts
      refine AList.lookup_eq_none.mp ?_
      show (deltas.foldl rollbackStep (state.rewardTotals, [])).1.lookup av = none
      rw [lookup_foldl, hnone]
      exact remainingAfter_none houtlasts

theorem covered_of_agrees (hnodup : (countedActorValues deltas).Nodup)
    (h : Agrees state deltas (rollbackRewardDeltas avOwner state deltas)) :
    RollbackCovered avOwner state deltas := by
  rintro rfl av
  rw [rollbackRewardDeltas_eq] at h
  refine outlasts_of_nodup hnodup fun hnone => ?_
  have hafter := AList.lookup_eq_none.mpr (h.untracked av (AList.lookup_eq_none.mp hnone))
  rw [← hafter]
  exact (lookup_foldl (state.rewardTotals, [])).symm

/-- The rollback keeps totals and player in agreement if every total outlasts the deltas
listed for it; where no actor value has more than one delta that counts, only then. -/
theorem rollback_agrees_iff (avOwner : Bool) (state : RuntimeState ℚ)
    (deltas : List (RewardDelta ℚ)) :
    (RollbackCovered avOwner state deltas →
      Agrees state deltas (rollbackRewardDeltas avOwner state deltas)) ∧
    ((countedActorValues deltas).Nodup →
      (Agrees state deltas (rollbackRewardDeltas avOwner state deltas) ↔
        RollbackCovered avOwner state deltas)) := by
  refine ⟨agrees_of_covered, fun hnodup => ?_⟩
  exact ⟨covered_of_agrees hnodup, agrees_of_covered⟩

end Rollback

/-- Five points of health taken back out of twenty. -/
theorem rollback_agrees_iff_health :
    let state : RuntimeState ℚ :=
      { rewardTotals := (∅ : UnorderedMap ActorValue ℚ).insert .kHealth 20 }
    let deltas : List (RewardDelta ℚ) := [{ av := .kHealth, delta := 5 }]
    Agrees state deltas (rollbackRewardDeltas true state deltas) ∧
      RollbackCovered true state deltas := by
  intro state deltas
  have hcovered : RollbackCovered true state deltas := by
    intro _ av
    rw [Outlasts]
    split_ifs with hav
    · subst hav
      exact ⟨fun _ => rfl, trivial⟩
    · trivial
  have hagrees := (rollback_agrees_iff true state deltas).1 hcovered
  have hnodup : (countedActorValues deltas).Nodup := by decide +kernel
  exact ⟨hagrees, ((rollback_agrees_iff true state deltas).2 hnodup).mp hagrees⟩

/-- Five points of health that are not tracked: the store says −5 then, and the player
was not adjusted. -/
theorem not_rollback_agrees : ¬ ∀ (avOwner : Bool) (state : RuntimeState ℚ)
    (deltas : List (RewardDelta ℚ)),
    Agrees state deltas (rollbackRewardDeltas avOwner state deltas) := by
  intro h
  have hagrees := h true {} [{ av := .kHealth, delta := 5 }]
  have hcovered := covered_of_agrees (by decide +kernel) hagrees rfl .kHealth
  rw [Outlasts, if_pos rfl] at hcovered
  exact absurd (hcovered.1 (by norm_num)) (by decide)

end CodexOfPower.Rewards
