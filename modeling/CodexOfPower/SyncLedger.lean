/-
# `CodexOfPower.SyncLedger` — the ledger and the player agree, whatever the history

A history is a sequence of changes to slots and points, each followed by a sync
that reads whatever the player's actor values are.  Arithmetic is exact here
(`ℚ`): what is at stake is whether deltas that are skipped, entries that are
erased and shout recovery that is given in part can add up to a drift.

They cannot, because of two facts about every reachable ledger: an entry never
vanishes, so erasing one loses nothing, and shout recovery is never positive, so
what is left after a partial decrease is never near zero.

## What is not said

What single precision adds to this is not bounded.  The player takes each delta whole, and
between two syncs his readings may change in any way; where they change, the second sync of
`ledger_accurate` is not the one that is meant.
-/
import CodexOfPower.SyncOutcome
import CodexOfPower.Lib.Transition
import Mathlib.Tactic.Linarith
import Mathlib.Tactic.NormNum

namespace CodexOfPower.Builds

open RE Rewards

/-! ## Exact arithmetic -/

theorem totalOf_rat (totals : UnorderedMap ActorValue ℚ) (av : ActorValue) :
    totalOf totals av = (totals.lookup av).getD 0 := by
  have hzero : (0.0 : ℚ) = 0 := by norm_num
  show (totals.lookup av).getD (0.0 : ℚ) = _
  rw [hzero]

theorem keptTotal_rat (total : ℚ) :
    keptTotal total = if |total| ≤ 1 / 1000 then none else some total := by
  rw [← kRewardCapEpsilon_rat]
  rfl

/-- Every value is finite, so only shout recovery is held back. -/
theorem clamp_rat (av : ActorValue) (reading delta : ℚ) :
    clampBuildSyncDeltaForActorValue av reading delta =
      if av ≠ .kShoutRecoveryMult ∨ 0 ≤ delta then delta
      else if reading ≤ 301 / 1000 then 0
      else if reading + delta < 3 / 10 then 3 / 10 - reading else delta := by
  have hfloor : (0.30 : ℚ) = 3 / 10 := by norm_num
  have hzero : (0.0 : ℚ) = 0 := by norm_num
  have hthreshold : (0.30 : ℚ) + kRewardCapEpsilon = 301 / 1000 := by
    rw [kRewardCapEpsilon_rat]
    norm_num
  have hclamp : clampBuildSyncDeltaForActorValue av reading delta =
      if av ≠ .kShoutRecoveryMult ∨ (0.0 : ℚ) ≤ delta then delta
      else if reading ≤ (0.30 : ℚ) + kRewardCapEpsilon then (0.0 : ℚ)
      else if reading + delta < (0.30 : ℚ) then (0.30 : ℚ) - reading else delta := rfl
  rw [hclamp, hthreshold, hfloor, hzero]

/-! ## What the player is given -/

/-- The sum of the deltas for one actor value. -/
def restoredTotal (calls : List (ActorValue × ℚ)) (av : ActorValue) : ℚ :=
  (calls.map fun call => if call.1 = av then call.2 else 0).sum

theorem restoredTotal_append (calls calls' : List (ActorValue × ℚ)) (av : ActorValue) :
    restoredTotal (calls ++ calls') av = restoredTotal calls av + restoredTotal calls' av := by
  simp [restoredTotal]

section Calls

variable (desired current : UnorderedMap ActorValue ℚ) (reading : ActorValue → ℚ)

def givenDelta (av : ActorValue) : ℚ :=
  if |syncedDelta desired current reading av| ≤ 1 / 1000 then 0
  else syncedDelta desired current reading av

theorem restoredTotal_syncedCalls (av av' : ActorValue) :
    restoredTotal (syncedCalls desired current reading av') av =
      if av' = av then givenDelta desired current reading av else 0 := by
  have hcalls : syncedCalls desired current reading av' =
      if |syncedDelta desired current reading av'| ≤ 1 / 1000 then []
      else [(av', syncedDelta desired current reading av')] := by
    rw [← kRewardCapEpsilon_rat]
    rfl
  rw [hcalls]
  by_cases hav : av' = av
  · subst hav
    rw [if_pos rfl, givenDelta]
    split_ifs
    · rfl
    · simp [restoredTotal]
  · rw [if_neg hav]
    split_ifs
    · rfl
    · simp [restoredTotal, hav]

theorem restoredTotal_flatMap {avs : List ActorValue} (hnodup : avs.Nodup) (av : ActorValue) :
    restoredTotal (avs.flatMap (syncedCalls desired current reading)) av =
      if av ∈ avs then givenDelta desired current reading av else 0 := by
  induction avs with
  | nil => rfl
  | cons head avs ih =>
    rw [List.nodup_cons] at hnodup
    rw [List.flatMap_cons, restoredTotal_append, restoredTotal_syncedCalls, ih hnodup.2]
    by_cases hav : head = av
    · subst hav
      simp [hnodup.1]
    · simp [hav, Ne.symm hav]

end Calls

/-! ## The facts that carry the ledger -/

/-- No vanishing entry, and no positive one for shout recovery. -/
structure LedgerSound (totals : UnorderedMap ActorValue ℚ) : Prop where
  visible : ∀ av total, totals.lookup av = some total → ¬ |total| ≤ 1 / 1000
  shout : totalOf totals .kShoutRecoveryMult ≤ 0

theorem ledgerSound_empty : LedgerSound ∅ where
  visible av total h := by
    rw [UnorderedMap.lookup_empty] at h
    cases h
  shout := by
    rw [totalOf_rat, UnorderedMap.lookup_empty]
    exact le_rfl

/-- A total that is all but zero is zero. -/
theorem LedgerSound.eq_zero {totals : UnorderedMap ActorValue ℚ} (h : LedgerSound totals)
    {av : ActorValue} (hsmall : |totalOf totals av| ≤ 1 / 1000) : totalOf totals av = 0 := by
  rw [totalOf_rat] at hsmall ⊢
  cases hlookup : totals.lookup av with
  | none => rfl
  | some total =>
    rw [hlookup] at hsmall
    exact absurd hsmall (h.visible av total hlookup)

/-- The only option that moves shout recovery. -/
def echo : BuildOptionDef ℚ :=
  makeOption "build.utility.echo" .Utility 35 .SameOrWildcard
    .ActorValue "shout_recovery_mult" (.float (-0.007)) (.float (-0.002))

theorem eq_echo : ∀ option ∈ getBuildOptionCatalog (F := ℚ),
    ActorValue.kShoutRecoveryMult ∈ (optionEntries option 0).map Prod.fst → option = echo := by
  decide +kernel

/-- The only option that moves shout recovery lowers it. -/
theorem entry_shout_nonpos {option : BuildOptionDef ℚ}
    (hoption : option ∈ getBuildOptionCatalog (F := ℚ)) {pointsCenti : BuildPointCenti}
    {entry : ActorValue × ℚ} (hentry : entry ∈ optionEntries option pointsCenti)
    (hav : entry.1 = .kShoutRecoveryMult) : entry.2 ≤ 0 := by
  have hmem : ActorValue.kShoutRecoveryMult ∈ (optionEntries option 0).map Prod.fst := by
    rw [actorValues_option option 0 pointsCenti, ← hav]
    exact List.mem_map_of_mem hentry
  obtain rfl := eq_echo option hoption hmem
  have hentries : optionEntries echo pointsCenti =
      [(.kShoutRecoveryMult, (-0.007 : ℚ) + (-0.002) *
        ((getBuildPointsTier pointsCenti).toNat : ℚ))] := rfl
  rw [hentries, List.mem_singleton] at hentry
  have htier : (0 : ℚ) ≤ ((getBuildPointsTier pointsCenti).toNat : ℚ) := Nat.cast_nonneg _
  rw [hentry]
  norm_num
  linarith

theorem sumFrom_nonpos {amounts : List ℚ} {total : Option ℚ} (htotal : total.getD 0 ≤ 0)
    (hamounts : ∀ amount ∈ amounts, amount ≤ 0) : (sumFrom total amounts).getD 0 ≤ 0 := by
  induction amounts generalizing total with
  | nil => exact htotal
  | cons amount amounts ih =>
    refine ih ?_ fun a ha => hamounts a (List.mem_cons_of_mem _ ha)
    have hzero : (0.0 : ℚ) = 0 := by norm_num
    have hamount := hamounts amount List.mem_cons_self
    show total.getD (0.0 : ℚ) + amount ≤ 0
    rw [hzero]
    linarith

/-- What the slots are worth is a sound ledger. -/
theorem ledgerSound_desiredTotals (state : RuntimeState ℚ) :
    LedgerSound (desiredTotals state) where
  visible av total h := by
    rw [← kRewardCapEpsilon_rat]
    exact ((lookup_desiredTotals state av total).mp h).2
  shout := by
    set snapshot := snapshotCurrentBuildRuntime state with hsnapshot
    have hsum : ((accumulatedTotals (F := ℚ) snapshot).lookup .kShoutRecoveryMult).getD 0 ≤ 0 := by
      rw [accumulatedTotals_eq, lookup_foldl_addDelta]
      refine sumFrom_nonpos (by simp) fun amount hamount => ?_
      obtain ⟨entry, hentry, rfl⟩ := List.mem_map.mp hamount
      obtain ⟨hentry, hav⟩ := List.mem_filter.mp hentry
      obtain ⟨option, hoption, hentry⟩ := List.mem_flatMap.mp hentry
      exact entry_shout_nonpos (mem_catalog_of_mem_optionsInEffect hoption) hentry
        (of_decide_eq_true hav)
    rw [totalOf_rat]
    cases hlookup : (desiredTotals state).lookup .kShoutRecoveryMult with
    | none => exact le_rfl
    | some total =>
      rw [((lookup_desiredTotals state _ total).mp hlookup).1] at hsum
      exact hsum

/-! ## One sync -/

section OneSync

variable {desired current : UnorderedMap ActorValue ℚ} {reading : ActorValue → ℚ}

/-- The delta is all of the difference, or a part of a decrease of shout recovery. -/
theorem syncedDelta_cases (desired current : UnorderedMap ActorValue ℚ)
    (reading : ActorValue → ℚ) (av : ActorValue) :
    syncedDelta desired current reading av = totalOf desired av - totalOf current av ∨
      av = .kShoutRecoveryMult ∧ totalOf desired av - totalOf current av < 0 ∧
        (reading av ≤ 301 / 1000 ∧ syncedDelta desired current reading av = 0 ∨
          301 / 1000 < reading av ∧
            reading av + (totalOf desired av - totalOf current av) < 3 / 10 ∧
            syncedDelta desired current reading av = 3 / 10 - reading av) := by
  rw [syncedDelta, clamp_rat]
  split_ifs with hall hlow hpart
  · exact .inl rfl
  · rw [not_or, not_not, not_le] at hall
    exact .inr ⟨hall.1, hall.2, .inl ⟨hlow, rfl⟩⟩
  · rw [not_or, not_not, not_le] at hall
    exact .inr ⟨hall.1, hall.2, .inr ⟨not_le.mp hlow, hpart, rfl⟩⟩
  · exact .inl rfl

/-- Adding the delta never leaves a remainder that is all but zero and not zero. -/
theorem add_syncedDelta_eq_zero (hdesired : LedgerSound desired) (hcurrent : LedgerSound current)
    {av : ActorValue} (hgiven : ¬ |syncedDelta desired current reading av| ≤ 1 / 1000)
    (hsmall : |totalOf current av + syncedDelta desired current reading av| ≤ 1 / 1000) :
    totalOf current av + syncedDelta desired current reading av = 0 := by
  rcases syncedDelta_cases desired current reading av with
    hall | ⟨rfl, -, ⟨-, hzero⟩ | ⟨hreading, -, hpart⟩⟩
  · rw [hall, add_sub_cancel] at hsmall ⊢
    exact hdesired.eq_zero hsmall
  · rw [hzero] at hgiven
    exact absurd (by norm_num) hgiven
  · -- what is given is below the epsilon already, and the total is not positive
    have hnonpos := hcurrent.shout
    rw [hpart] at hsmall
    have hbound := (abs_le.mp hsmall).1
    linarith

/-- The ledger moves by what the player is given. -/
theorem getD_syncedTotal (hdesired : LedgerSound desired) (hcurrent : LedgerSound current)
    (av : ActorValue) :
    (syncedTotal desired current reading av).getD 0 =
      totalOf current av + givenDelta desired current reading av := by
  have hsynced : syncedTotal desired current reading av =
      if |syncedDelta desired current reading av| ≤ 1 / 1000 then keptTotal (totalOf current av)
      else keptTotal (totalOf current av + syncedDelta desired current reading av) := by
    rw [← kRewardCapEpsilon_rat]
    rfl
  rw [hsynced, givenDelta, keptTotal_rat, keptTotal_rat]
  split_ifs with hskip hvanish hvanish
  · simp [hcurrent.eq_zero hvanish]
  · simp
  · simp [add_syncedDelta_eq_zero hdesired hcurrent hskip hvanish]
  · simp

/-- A delta within the epsilon is not given; any other is. -/
theorem givenDelta_cases (desired current : UnorderedMap ActorValue ℚ)
    (reading : ActorValue → ℚ) (av : ActorValue) :
    |syncedDelta desired current reading av| ≤ 1 / 1000 ∧
        givenDelta desired current reading av = 0 ∨
      ¬ |syncedDelta desired current reading av| ≤ 1 / 1000 ∧
        givenDelta desired current reading av = syncedDelta desired current reading av := by
  unfold givenDelta
  split_ifs with hskip
  · exact .inl ⟨hskip, rfl⟩
  · exact .inr ⟨hskip, rfl⟩

/-- Outside shout recovery the ledger is where the slots want it, up to the epsilon. -/
theorem abs_ledger_sub_desired {av : ActorValue} (hav : av ≠ .kShoutRecoveryMult) :
    |totalOf current av + givenDelta desired current reading av - totalOf desired av| ≤
      1 / 1000 := by
  have hall : syncedDelta desired current reading av = totalOf desired av - totalOf current av := by
    rcases syncedDelta_cases desired current reading av with hall | ⟨hshout, -⟩
    · exact hall
    · exact absurd hshout hav
  rcases givenDelta_cases desired current reading av with ⟨hskip, hgiven⟩ | ⟨-, hgiven⟩
  · rw [hgiven, add_zero, abs_sub_comm, ← hall]
    exact hskip
  · rw [hgiven, hall]
    norm_num

/-- A second sync, with the readings moved by what was given, gives nothing. -/
theorem abs_syncedDelta_again {next : UnorderedMap ActorValue ℚ} {reading' : ActorValue → ℚ}
    {av : ActorValue} (hnext : totalOf next av = totalOf current av +
      givenDelta desired current reading av)
    (hreading : reading' av = reading av + givenDelta desired current reading av) :
    |syncedDelta desired next reading' av| ≤ 1 / 1000 := by
  rcases givenDelta_cases desired current reading av with ⟨hskip, hgiven⟩ | ⟨hskip, hgiven⟩
  · -- nothing was given: both syncs see the same
    have hsame : syncedDelta desired next reading' av = syncedDelta desired current reading av := by
      rw [syncedDelta, syncedDelta, hnext, hreading, hgiven, add_zero, add_zero]
    rw [hsame]
    exact hskip
  · rcases syncedDelta_cases desired current reading av with
      hall | ⟨rfl, -, ⟨-, hzero⟩ | ⟨-, hover, hpart⟩⟩
    · -- all was given: no difference is left
      have hleft : totalOf desired av - totalOf next av = 0 := by
        rw [hnext, hgiven, hall]
        ring
      rw [syncedDelta, hleft, clamp_rat]
      norm_num
    · rw [hzero] at hskip
      exact absurd (by norm_num) hskip
    · -- a part was given: shout recovery is at its floor and stays there
      have hfloor : reading' .kShoutRecoveryMult = 3 / 10 := by
        rw [hreading, hgiven, hpart]
        ring
      have hleft : totalOf desired .kShoutRecoveryMult - totalOf next .kShoutRecoveryMult < 0 := by
        rw [hnext, hgiven, hpart]
        linarith
      rw [syncedDelta, clamp_rat, hfloor, if_neg (by simpa using hleft), if_pos (by norm_num)]
      norm_num

/-- Shout recovery at or above its floor is not taken under it. -/
theorem floor_le_reading_add (hreading : 3 / 10 ≤ reading .kShoutRecoveryMult) :
    3 / 10 ≤ reading .kShoutRecoveryMult +
      givenDelta desired current reading .kShoutRecoveryMult := by
  rcases givenDelta_cases desired current reading .kShoutRecoveryMult with
    ⟨-, hgiven⟩ | ⟨-, hgiven⟩
  · rw [hgiven, add_zero]
    exact hreading
  · rw [hgiven, syncedDelta, clamp_rat]
    split_ifs with hall hlow hpart
    · have hrise := hall.resolve_left fun hne => hne rfl
      linarith
    · linarith
    · linarith
    · exact not_lt.mp hpart

/-- The ledger stays sound. -/
theorem ledgerSound_synced {next : UnorderedMap ActorValue ℚ} (hdesired : LedgerSound desired)
    (hcurrent : LedgerSound current)
    (hnext : ∀ av, next.lookup av = syncedTotal desired current reading av) :
    LedgerSound next where
  visible av total h := by
    rw [hnext] at h
    have hkept : ∀ t : ℚ, keptTotal t = some total → ¬ |total| ≤ 1 / 1000 := by
      intro t ht
      rw [keptTotal_rat] at ht
      split_ifs at ht with hsmall
      exact Option.some.inj ht ▸ hsmall
    unfold syncedTotal at h
    split_ifs at h
    · exact hkept _ h
    · exact hkept _ h
  shout := by
    rw [totalOf_rat, hnext, getD_syncedTotal hdesired hcurrent]
    have hnow := hcurrent.shout
    have hgoal := hdesired.shout
    rcases givenDelta_cases desired current reading .kShoutRecoveryMult with
      ⟨-, hgiven⟩ | ⟨-, hgiven⟩
    · rw [hgiven, add_zero]
      exact hnow
    · rcases syncedDelta_cases desired current reading .kShoutRecoveryMult with
        hall | ⟨-, -, ⟨-, hzero⟩ | ⟨hreading, -, hpart⟩⟩
      · rw [hgiven, hall]
        linarith
      · rw [hgiven, hzero]
        linarith
      · rw [hgiven, hpart]
        linarith

end OneSync

/-! ## The whole sync -/

section Sync

variable (reading : ActorValue → ℚ) (state : RuntimeState ℚ)

theorem syncedDelta_of_notMem {desired current : UnorderedMap ActorValue ℚ} {av : ActorValue}
    (hmem : av ∉ syncedActorValues current desired) :
    totalOf current av = 0 ∧ syncedDelta desired current reading av = 0 := by
  rw [mem_syncedActorValues, not_or] at hmem
  have hcurrent : totalOf current av = 0 := by
    rw [totalOf_rat, AList.lookup_eq_none.mpr hmem.1]
    rfl
  have hdesired : totalOf desired av = 0 := by
    rw [totalOf_rat, AList.lookup_eq_none.mpr hmem.2]
    rfl
  refine ⟨hcurrent, ?_⟩
  rw [syncedDelta, hcurrent, hdesired, sub_zero, clamp_rat]
  simp

theorem lookup_sync_rat (av : ActorValue) :
    (syncCurrentBuildEffectsToPlayer (some reading) state).1.buildAppliedEffectTotals.lookup av =
      syncedTotal (desiredTotals state) state.buildAppliedEffectTotals reading av := by
  rw [lookup_sync]
  split_ifs with hmem
  · rfl
  · obtain ⟨hcurrent, hdelta⟩ := syncedDelta_of_notMem reading hmem
    have hsmall : FloatType.abs (0 : ℚ) ≤ kRewardCapEpsilon := by
      rw [kRewardCapEpsilon_rat]
      show |(0 : ℚ)| ≤ 1 / 1000
      norm_num
    rw [syncedTotal, hdelta, hcurrent, if_pos hsmall, keptTotal_rat]
    norm_num

theorem restoredTotal_sync (av : ActorValue) :
    restoredTotal (syncCurrentBuildEffectsToPlayer (some reading) state).2 av =
      givenDelta (desiredTotals state) state.buildAppliedEffectTotals reading av := by
  rw [snd_sync, restoredTotal_flatMap _ _ _ (nodup_syncedActorValues _ _)]
  split_ifs with hmem
  · rfl
  · obtain ⟨-, hdelta⟩ := syncedDelta_of_notMem reading hmem
    rw [givenDelta, hdelta]
    simp

/-- The ledger moves by the sum of the calls. -/
theorem totalOf_sync (hsound : LedgerSound state.buildAppliedEffectTotals) (av : ActorValue) :
    totalOf (syncCurrentBuildEffectsToPlayer (some reading) state).1.buildAppliedEffectTotals av =
      totalOf state.buildAppliedEffectTotals av +
        givenDelta (desiredTotals state) state.buildAppliedEffectTotals reading av := by
  rw [totalOf_rat, lookup_sync_rat]
  exact getD_syncedTotal (ledgerSound_desiredTotals state) hsound av

end Sync

/-! ## Histories -/

structure BuildChange where
  attackBuildPointsCenti : BuildPointCenti
  defenseBuildPointsCenti : BuildPointCenti
  utilityBuildPointsCenti : BuildPointCenti
  activeBuildSlots : ActiveBuildSlots

def BuildChange.apply (change : BuildChange) (state : RuntimeState ℚ) : RuntimeState ℚ :=
  { state with
    attackBuildPointsCenti := change.attackBuildPointsCenti
    defenseBuildPointsCenti := change.defenseBuildPointsCenti
    utilityBuildPointsCenti := change.utilityBuildPointsCenti
    activeBuildSlots := change.activeBuildSlots }

/-- The state, and every call made to `RestoreActorValue` so far. -/
structure SyncHistory where
  state : RuntimeState ℚ
  restored : List (ActorValue × ℚ)

/-- The calls of the sync that follows a change. -/
def SyncHistory.calls (history : SyncHistory) (change : BuildChange) (reading : ActorValue → ℚ) :
    List (ActorValue × ℚ) :=
  (syncCurrentBuildEffectsToPlayer (some reading) (change.apply history.state)).2

def SyncHistory.next (history : SyncHistory) (change : BuildChange) (reading : ActorValue → ℚ) :
    SyncHistory where
  state := (syncCurrentBuildEffectsToPlayer (some reading) (change.apply history.state)).1
  restored := history.restored ++ history.calls change reading

/-- Any change, then a sync against any readings. -/
def syncing : TransitionSystem SyncHistory where
  init history := history.state.buildAppliedEffectTotals = ∅ ∧ history.restored = []
  step history history' := ∃ change reading, history' = history.next change reading

/-- The ledger is sound and says what was given. -/
structure HistorySound (history : SyncHistory) : Prop where
  sound : LedgerSound history.state.buildAppliedEffectTotals
  agrees : ∀ av, totalOf history.state.buildAppliedEffectTotals av =
    restoredTotal history.restored av

theorem HistorySound.next {history : SyncHistory} (h : HistorySound history)
    (change : BuildChange) (reading : ActorValue → ℚ) :
    HistorySound (history.next change reading) where
  sound := ledgerSound_synced (ledgerSound_desiredTotals _) h.sound
    (lookup_sync_rat reading (change.apply history.state))
  agrees av := by
    show _ = restoredTotal (history.restored ++ history.calls change reading) av
    rw [restoredTotal_append, ← h.agrees av, SyncHistory.calls, restoredTotal_sync]
    exact totalOf_sync reading (change.apply history.state) h.sound av

theorem historySound_invariant : syncing.Invariant HistorySound where
  init history h := by
    refine ⟨h.1 ▸ ledgerSound_empty, fun av => ?_⟩
    rw [h.1, h.2, totalOf_rat, UnorderedMap.lookup_empty]
    rfl
  step history history' h hstep := by
    obtain ⟨change, reading, rfl⟩ := hstep
    exact h.next change reading

theorem sync_eq_nil {reading : ActorValue → ℚ} {state : RuntimeState ℚ}
    (h : ∀ av, |syncedDelta (desiredTotals state) state.buildAppliedEffectTotals reading av| ≤
      1 / 1000) : (syncCurrentBuildEffectsToPlayer (some reading) state).2 = [] := by
  rw [snd_sync, List.flatMap_eq_nil_iff]
  intro av _
  refine if_pos ?_
  rw [kRewardCapEpsilon_rat]
  exact h av

/-- Whatever the history of changes and readings, after the next change and sync the
ledger says what the player was given; it is what the slots are worth, shout recovery
aside; a repeated sync gives nothing; and shout recovery is not taken under its floor. -/
theorem ledger_accurate {history : SyncHistory} (h : syncing.Reachable history)
    (change : BuildChange) (reading : ActorValue → ℚ) :
    (∀ av, totalOf (history.next change reading).state.buildAppliedEffectTotals av =
      restoredTotal (history.next change reading).restored av) ∧
    (∀ av, av ≠ .kShoutRecoveryMult →
      |totalOf (history.next change reading).state.buildAppliedEffectTotals av -
        totalOf (desiredTotals (history.next change reading).state) av| ≤ 1 / 1000) ∧
    (∀ reading' : ActorValue → ℚ,
      (∀ av, reading' av = reading av + restoredTotal (history.calls change reading) av) →
      (syncCurrentBuildEffectsToPlayer (some reading')
        (history.next change reading).state).2 = []) ∧
    (3 / 10 ≤ reading .kShoutRecoveryMult →
      3 / 10 ≤ reading .kShoutRecoveryMult +
        restoredTotal (history.calls change reading) .kShoutRecoveryMult) := by
  have hsound := historySound_invariant.reachable h
  have hledger := totalOf_sync reading (change.apply history.state) hsound.sound
  have hcalls := restoredTotal_sync reading (change.apply history.state)
  have hdesired : desiredTotals (history.next change reading).state =
      desiredTotals (change.apply history.state) := desiredTotals_sync _ _
  refine ⟨(hsound.next change reading).agrees, ?_, ?_, ?_⟩
  · intro av hav
    rw [hdesired, SyncHistory.next, hledger av]
    exact abs_ledger_sub_desired hav
  · intro reading' hreading
    refine sync_eq_nil fun av => ?_
    rw [hdesired]
    exact abs_syncedDelta_again (hledger av)
      ((hreading av).trans (congrArg (reading av + ·) (hcalls av)))
  · intro hfloor
    rw [SyncHistory.calls, hcalls]
    exact floor_le_reading_add hfloor

def unearned : SyncHistory := ⟨{}, []⟩

/-- So much utility that shout recovery would become negative. -/
def loudEcho : BuildChange where
  attackBuildPointsCenti := 0
  defenseBuildPointsCenti := 0
  utilityBuildPointsCenti := 400000
  activeBuildSlots := ActiveBuildSlots.set (fun _ => []) .Utility1 (utf8 "build.utility.echo")

/-- Shout recovery goes from 1 to its floor, and a second sync leaves it there. -/
theorem ledger_accurate_loudEcho :
    unearned.calls loudEcho (fun _ => 1) = [(.kShoutRecoveryMult, -7 / 10)] ∧
      totalOf (unearned.next loudEcho fun _ => 1).state.buildAppliedEffectTotals
        .kShoutRecoveryMult = -7 / 10 ∧
      (syncCurrentBuildEffectsToPlayer
        (some fun av => 1 + restoredTotal (unearned.calls loudEcho fun _ => 1) av)
        (unearned.next loudEcho fun _ => 1).state).2 = [] := by
  have hcalls : unearned.calls loudEcho (fun _ => 1) = [(.kShoutRecoveryMult, -7 / 10)] := by
    decide +kernel
  obtain ⟨hledger, -, hagain, -⟩ :=
    ledger_accurate (.of_init ⟨rfl, rfl⟩ : syncing.Reachable unearned) loudEcho fun _ => 1
  refine ⟨hcalls, ?_, hagain _ fun av => rfl⟩
  rw [hledger]
  show restoredTotal ([] ++ unearned.calls loudEcho fun _ => 1) _ = _
  rw [hcalls]
  norm_num [restoredTotal]

end CodexOfPower.Builds
