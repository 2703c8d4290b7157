/-
# `CodexOfPower.LegacyMigration` — what normalising a snapshot does

A snapshot of the current version keeps its totals: its slot texts are brought up
to date, its slots emptied if a cleanup is pending, its legacy reward deltas
dropped if the migration is complete.  An older snapshot has no totals of its own:
its slots are emptied and its totals recomputed from the registered items, each
of which is worth a fixed `derivedCredit` that depends on nothing else.

## What is not said

The notice is kept as data; the text that the page makes of it is not modelled.  That the
loop adds up what it should is `CodexOfPower.MigrationTotals`, where no total overflows.
-/
import CodexOfPower.BuildProgression

namespace CodexOfPower.BuildProgression

open RE Builds Registration SerializationStateStore

variable {F : Type} {lookupFormType : FormTypeLookup} {resolver : Option LegacyDisciplineResolver}
  {snapshot : Snapshot F}

/-! ## Retired option ids -/

/-- The retired ids that became the elemental ward. -/
def IsRetiredWard (text : Text) : Prop :=
  text = utf8 "build.defense.fireward" ∨ text = utf8 "build.defense.frostward" ∨
    text = utf8 "build.defense.stormward"

/-- The retired ids that became the purification. -/
def IsRetiredCure (text : Text) : Prop :=
  text = utf8 "build.defense.antidote" ∨ text = utf8 "build.defense.purity"

section Remap

variable {text : Text}

theorem remap_of_ward (h : IsRetiredWard text) :
    remapLegacyOptionId text = utf8 "build.defense.elementalWard" := if_pos h

theorem remap_of_cure (hward : ¬ IsRetiredWard text) (h : IsRetiredCure text) :
    remapLegacyOptionId text = utf8 "build.defense.purification" :=
  (if_neg hward).trans (if_pos h)

theorem remap_of_current (hward : ¬ IsRetiredWard text) (hcure : ¬ IsRetiredCure text) :
    remapLegacyOptionId text = text :=
  (if_neg hward).trans (if_neg hcure)

theorem remapLegacyOptionId_ne_nil (h : text ≠ []) : remapLegacyOptionId text ≠ [] := by
  unfold remapLegacyOptionId
  split_ifs
  · decide
  · decide
  · exact h

end Remap

/-! ## Snapshots of the current version -/

theorem normalize_of_pending (hversion : kBuildMigrationVersion ≤ snapshot.buildMigrationVersion)
    (hstate : snapshot.buildMigrationState = .kPendingCleanup) :
    normalizeLoadedSnapshot lookupFormType resolver snapshot =
      clearActiveSlots (normalizeActiveSlotOptionIds snapshot) := by
  unfold normalizeLoadedSnapshot
  exact (if_pos hversion).trans (if_pos hstate)

theorem normalize_of_complete (hversion : kBuildMigrationVersion ≤ snapshot.buildMigrationVersion)
    (hstate : snapshot.buildMigrationState = .kComplete) :
    normalizeLoadedSnapshot lookupFormType resolver snapshot =
      stripLegacyUndoRewardDeltas (normalizeActiveSlotOptionIds snapshot) := by
  have hnot : snapshot.buildMigrationState ≠ .kPendingCleanup := by rw [hstate]; decide
  unfold normalizeLoadedSnapshot
  exact (if_pos hversion).trans ((if_neg hnot).trans (if_pos hstate))

theorem normalize_of_other (hversion : kBuildMigrationVersion ≤ snapshot.buildMigrationVersion)
    (hpending : snapshot.buildMigrationState ≠ .kPendingCleanup)
    (hcomplete : snapshot.buildMigrationState ≠ .kComplete) :
    normalizeLoadedSnapshot lookupFormType resolver snapshot =
      normalizeActiveSlotOptionIds snapshot := by
  unfold normalizeLoadedSnapshot
  exact (if_pos hversion).trans ((if_neg hpending).trans (if_neg hcomplete))

/-- Outside a pending cleanup, normalising a current snapshot brings its slot texts up to
date, and keeps its points. -/
theorem normalize_current (lookupFormType : FormTypeLookup)
    (resolver : Option LegacyDisciplineResolver)
    (hversion : kBuildMigrationVersion ≤ snapshot.buildMigrationVersion)
    (hpending : snapshot.buildMigrationState ≠ .kPendingCleanup) :
    (normalizeLoadedSnapshot lookupFormType resolver snapshot).activeBuildSlots =
        (normalizeActiveSlotOptionIds snapshot).activeBuildSlots ∧
      (normalizeLoadedSnapshot lookupFormType resolver snapshot).pointsCenti =
        snapshot.pointsCenti := by
  by_cases hcomplete : snapshot.buildMigrationState = .kComplete
  · rw [normalize_of_complete hversion hcomplete]
    exact ⟨rfl, rfl⟩
  · rw [normalize_of_other hversion hpending hcomplete]
    exact ⟨rfl, rfl⟩

/-! ## Older snapshots -/

/-- What a registered item is worth to the migration: by form type where the form is
known and worth points, else by its group and the fallback points. -/
def derivedCredit (lookupFormType : FormTypeLookup) (resolver : Option LegacyDisciplineResolver)
    (item : FormID × UInt32) : Option (BuildDiscipline × BuildPointCenti) :=
  let byFormType := if resolver.isNone then
    (lookupFormType item.1).bind fun formType =>
      (tryResolveDisciplineFromFormType formType).bind fun discipline =>
        if 0 < resolveBuildPointsForFormType formType then
          some (discipline, resolveBuildPointsForFormType formType) else none
  else none
  byFormType.or ((tryResolveLegacyDiscipline lookupFormType item.1 item.2 resolver).map
    fun discipline => (discipline, resolveFallbackBuildPointsCenti discipline))

theorem deriveRegistration_eq (acc : Snapshot F × UInt32) (item : FormID × UInt32) :
    (deriveRegistration lookupFormType resolver acc item).1 =
      match derivedCredit lookupFormType resolver item with
      | some (discipline, points) => applyDerivedContribution acc.1 discipline points
      | none => acc.1 := by
  obtain ⟨snapshot, unresolved⟩ := acc
  obtain ⟨formId, group⟩ := item
  unfold deriveRegistration derivedCredit
  dsimp only
  split
  · rename_i heq
    rw [heq]
    rfl
  · rename_i heq
    rw [heq, Option.none_or]
    cases tryResolveLegacyDiscipline lookupFormType formId group resolver <;> rfl

def creditScore (lookupFormType : FormTypeLookup) (resolver : Option LegacyDisciplineResolver)
    (d : BuildDiscipline) (item : FormID × UInt32) : UInt32 :=
  match derivedCredit lookupFormType resolver item with
  | some (discipline, _) => if discipline = d then 1 else 0
  | none => 0

def creditPoints (lookupFormType : FormTypeLookup) (resolver : Option LegacyDisciplineResolver)
    (d : BuildDiscipline) (item : FormID × UInt32) : BuildPointCenti :=
  match derivedCredit lookupFormType resolver item with
  | some (discipline, points) => if discipline = d then points else 0
  | none => 0

/-- The body of the migration loop adds an item's credit, and touches nothing else. -/
structure Credited (snapshot snapshot' : Snapshot F)
    (addedScore addedPoints : BuildDiscipline → UInt32) : Prop where
  elsewhere : SameElsewhere snapshot snapshot'
  activeBuildSlots : snapshot'.activeBuildSlots = snapshot.activeBuildSlots
  score : ∀ d : BuildDiscipline, d.IsDeclared → snapshot'.score d = snapshot.score d + addedScore d
  points : ∀ d : BuildDiscipline, d.IsDeclared →
    snapshot'.pointsCenti d = snapshot.pointsCenti d + addedPoints d

theorem credited_deriveRegistration (lookupFormType : FormTypeLookup)
    (resolver : Option LegacyDisciplineResolver) (acc : Snapshot F × UInt32)
    (item : FormID × UInt32) :
    Credited acc.1 (deriveRegistration lookupFormType resolver acc item).1
      (creditScore lookupFormType resolver · item)
      (creditPoints lookupFormType resolver · item) := by
  rw [deriveRegistration_eq]
  unfold creditScore creditPoints
  cases derivedCredit lookupFormType resolver item with
  | none => exact ⟨.refl _, rfl, fun _ _ => (UInt32.add_zero _).symm,
      fun _ _ => (UInt32.add_zero _).symm⟩
  | some credit =>
    obtain ⟨discipline, points⟩ := credit
    dsimp only
    unfold applyDerivedContribution applyDerivedScore applyDerivedBuildPoints
    refine ⟨(sameElsewhere_setScore _ _ _).trans (sameElsewhere_setBuildPointsCenti _ _ _), ?_,
      fun d hd => ?_, fun d hd => ?_⟩
    · rw [activeBuildSlots_setBuildPointsCenti, activeBuildSlots_setScore]
    · rw [score_setBuildPointsCenti]
      by_cases heq : d = discipline
      · subst heq
        rw [score_setScore_self _ hd, if_pos rfl]
      · rw [score_setScore_of_ne _ heq, if_neg (Ne.symm heq), UInt32.add_zero]
    · by_cases heq : d = discipline
      · subst heq
        rw [pointsCenti_setBuildPointsCenti_self _ hd, if_pos rfl, pointsCenti_setScore]
      · rw [pointsCenti_setBuildPointsCenti_of_ne _ heq, if_neg (Ne.symm heq), UInt32.add_zero,
          pointsCenti_setScore]

theorem credited_foldl (lookupFormType : FormTypeLookup)
    (resolver : Option LegacyDisciplineResolver) (items : List (FormID × UInt32))
    (acc : Snapshot F × UInt32) :
    Credited acc.1 (items.foldl (deriveRegistration lookupFormType resolver) acc).1
      (fun d => (items.map (creditScore lookupFormType resolver d)).sum)
      (fun d => (items.map (creditPoints lookupFormType resolver d)).sum) := by
  induction items generalizing acc with
  | nil => exact ⟨.refl _, rfl, fun _ _ => (UInt32.add_zero _).symm,
      fun _ _ => (UInt32.add_zero _).symm⟩
  | cons item items ih =>
    have hstep := credited_deriveRegistration lookupFormType resolver acc item
    have hrest := ih (deriveRegistration lookupFormType resolver acc item)
    refine ⟨hstep.elsewhere.trans hrest.elsewhere,
      hrest.activeBuildSlots.trans hstep.activeBuildSlots, fun d hd => ?_, fun d hd => ?_⟩
    · rw [List.foldl_cons, hrest.score d hd, hstep.score d hd, List.map_cons, List.sum_cons,
        UInt32.add_assoc]
    · rw [List.foldl_cons, hrest.points d hd, hstep.points d hd, List.map_cons, List.sum_cons,
        UInt32.add_assoc]

def derivedScore (lookupFormType : FormTypeLookup) (resolver : Option LegacyDisciplineResolver)
    (registeredItems : UnorderedMap FormID UInt32) (d : BuildDiscipline) : UInt32 :=
  (registeredItems.toPairs.map (creditScore lookupFormType resolver d)).sum

def derivedPoints (lookupFormType : FormTypeLookup) (resolver : Option LegacyDisciplineResolver)
    (registeredItems : UnorderedMap FormID UInt32) (d : BuildDiscipline) : BuildPointCenti :=
  (registeredItems.toPairs.map (creditPoints lookupFormType resolver d)).sum

structure Migrated (lookupFormType : FormTypeLookup) (resolver : Option LegacyDisciplineResolver)
    (snapshot snapshot' : Snapshot F) : Prop where
  registeredItems : snapshot'.registeredItems = snapshot.registeredItems
  rewardTotals : snapshot'.rewardTotals = snapshot.rewardTotals
  undoNextActionId : snapshot'.undoNextActionId = snapshot.undoNextActionId
  activeBuildSlots : ∀ slotId, snapshot'.activeBuildSlots slotId = []
  buildMigrationVersion : snapshot'.buildMigrationVersion = kBuildMigrationVersion
  /-- Complete, and no legacy reward deltas left; or pending, and the history as it was. -/
  state : (snapshot'.buildMigrationState = .kComplete ∧
      snapshot'.undoHistory = (stripLegacyUndoRewardDeltas snapshot).undoHistory) ∨
    (snapshot'.buildMigrationState = .kPendingCleanup ∧
      snapshot'.undoHistory = snapshot.undoHistory)
  score : ∀ d : BuildDiscipline, d.IsDeclared →
    snapshot'.score d = derivedScore lookupFormType resolver snapshot.registeredItems d
  points : ∀ d : BuildDiscipline, d.IsDeclared →
    snapshot'.pointsCenti d = derivedPoints lookupFormType resolver snapshot.registeredItems d

/-- Whatever notice and outcome the migration settles on, the totals are those of the loop. -/
theorem migrated_of_loop {loop : Snapshot F}
    (hloop : Credited (migrationStart (normalizeActiveSlotOptionIds snapshot)) loop
      (derivedScore lookupFormType resolver snapshot.registeredItems)
      (derivedPoints lookupFormType resolver snapshot.registeredItems))
    (notice : BuildMigrationNoticeSnapshot) (state : BuildMigrationState)
    (history : List (UndoRecord F))
    (hstate : (state = .kComplete ∧
        history = (stripLegacyUndoRewardDeltas snapshot).undoHistory) ∨
      (state = .kPendingCleanup ∧ history = snapshot.undoHistory)) :
    Migrated lookupFormType resolver snapshot
      { loop with
        buildMigrationVersion := kBuildMigrationVersion
        buildMigrationNotice := notice
        buildMigrationState := state
        undoHistory := history } where
  registeredItems := hloop.elsewhere.registeredItems
  rewardTotals := hloop.elsewhere.rewardTotals
  undoNextActionId := hloop.elsewhere.undoNextActionId
  activeBuildSlots := fun slotId => congrFun hloop.activeBuildSlots slotId
  buildMigrationVersion := rfl
  state := hstate
  score := fun d hd => by
    have hzero : (migrationStart (normalizeActiveSlotOptionIds snapshot)).score d = 0 := by
      cases d <;> rfl
    exact (hloop.score d hd).trans (by rw [hzero, UInt32.zero_add])
  points := fun d hd => by
    have hzero : (migrationStart (normalizeActiveSlotOptionIds snapshot)).pointsCenti d = 0 := by
      cases d <;> rfl
    exact (hloop.points d hd).trans (by rw [hzero, UInt32.zero_add])

/-- Without legacy reward deltas there is nothing to strip. -/
theorem stripLegacyUndoRewardDeltas_of_none (h : hasLegacyUndoRewardDeltas snapshot = false) :
    (stripLegacyUndoRewardDeltas snapshot).undoHistory = snapshot.undoHistory := by
  refine (List.map_congr_left fun record hrecord => ?_).trans (List.map_id _)
  have hnil := List.any_eq_false.mp h record hrecord
  rw [Bool.not_eq_true, Bool.not_eq_false', List.isEmpty_iff] at hnil
  rw [← hnil]
  rfl

theorem normalize_of_old (h : snapshot.buildMigrationVersion < kBuildMigrationVersion) :
    Migrated lookupFormType resolver snapshot
      (normalizeLoadedSnapshot lookupFormType resolver snapshot) := by
  have hloop := credited_foldl lookupFormType resolver snapshot.registeredItems.toPairs
    (migrationStart (normalizeActiveSlotOptionIds snapshot), 0)
  have hmigrated := migrated_of_loop hloop
  unfold normalizeLoadedSnapshot
  have hversion : ¬ kBuildMigrationVersion ≤
      (normalizeActiveSlotOptionIds snapshot).buildMigrationVersion := UInt32.not_le.mpr h
  dsimp only
  rw [if_neg hversion]
  change Migrated _ _ _ (settleMigration _ (hasLegacyRewardTotals snapshot)
    (hasLegacyUndoRewardDeltas snapshot) (snapshot.registeredItems.toPairs.foldl
      (deriveRegistration lookupFormType resolver)
      (migrationStart (normalizeActiveSlotOptionIds snapshot), 0)))
  generalize (decide ((normalizeActiveSlotOptionIds snapshot).registeredItems.size ≠ 0)) = hadItems
  generalize snapshot.registeredItems.toPairs.foldl (deriveRegistration lookupFormType resolver)
    (migrationStart (normalizeActiveSlotOptionIds snapshot), 0) = derived at hloop hmigrated ⊢
  obtain ⟨loop, unresolved⟩ := derived
  have hhistory : loop.undoHistory = snapshot.undoHistory := hloop.elsewhere.undoHistory
  have hstrip : loop.undoHistory.map (fun record => { record with rewardDeltas := [] }) =
      (stripLegacyUndoRewardDeltas snapshot).undoHistory := by rw [hhistory]; rfl
  unfold settleMigration
  dsimp only
  cases hrewards : hasLegacyRewardTotals snapshot with
  | true =>
    rw [Bool.or_true, Bool.true_or, Bool.not_true, if_neg Bool.false_ne_true, if_pos rfl]
    exact hmigrated _ _ loop.undoHistory (.inr ⟨rfl, hhistory⟩)
  | false =>
    by_cases hperformed : (!(hadItems || false || hasLegacyUndoRewardDeltas snapshot)) = true
    · rw [if_pos hperformed]
      have hundo : hasLegacyUndoRewardDeltas snapshot = false := by
        simp only [Bool.not_eq_true', Bool.or_eq_false_iff] at hperformed
        exact hperformed.2
      exact hmigrated _ _ loop.undoHistory
        (.inl ⟨rfl, hhistory.trans (stripLegacyUndoRewardDeltas_of_none hundo).symm⟩)
    · rw [if_neg hperformed, if_neg Bool.false_ne_true]
      exact hmigrated _ _ _ (.inl ⟨rfl, hstrip⟩)

/-- The cleanup is pending exactly if reward totals were found. -/
theorem state_normalize_of_old (h : snapshot.buildMigrationVersion < kBuildMigrationVersion) :
    (normalizeLoadedSnapshot lookupFormType resolver snapshot).buildMigrationState =
      if snapshot.rewardTotals.size ≠ 0 then .kPendingCleanup else .kComplete := by
  have hsettled : ∀ (hadItems hadRewards hadUndo : Bool) (derived : Snapshot F × UInt32),
      (settleMigration hadItems hadRewards hadUndo derived).buildMigrationState =
        if hadRewards then .kPendingCleanup else .kComplete := by
    intro hadItems hadRewards hadUndo derived
    cases hadRewards with
    | true =>
      unfold settleMigration
      dsimp only
      rw [Bool.or_true, Bool.true_or, Bool.not_true, if_neg Bool.false_ne_true, if_pos rfl]
      rfl
    | false =>
      unfold settleMigration
      dsimp only
      by_cases hperformed : (!(hadItems || false || hadUndo)) = true
      · rw [if_pos hperformed]
        rfl
      · rw [if_neg hperformed, if_neg Bool.false_ne_true]
        rfl
  have hversion : ¬ kBuildMigrationVersion ≤
      (normalizeActiveSlotOptionIds snapshot).buildMigrationVersion := UInt32.not_le.mpr h
  unfold normalizeLoadedSnapshot
  dsimp only
  rw [if_neg hversion, hsettled]
  exact if_congr decide_eq_true_iff rfl rfl

/-! ## What no normalisation touches -/

theorem settleMigration_frame (hadItems hadRewards hadUndo : Bool) (derived : Snapshot F × UInt32) :
    ∃ notice state history, settleMigration hadItems hadRewards hadUndo derived =
      { derived.1 with
        buildMigrationVersion := kBuildMigrationVersion
        buildMigrationNotice := notice
        buildMigrationState := state
        undoHistory := history } := by
  unfold settleMigration
  dsimp only
  split_ifs <;> exact ⟨_, _, _, rfl⟩

theorem items_normalize (lookupFormType : FormTypeLookup)
    (resolver : Option LegacyDisciplineResolver) (snapshot : Snapshot F) :
    (normalizeLoadedSnapshot lookupFormType resolver snapshot).registeredItems =
        snapshot.registeredItems ∧
      (normalizeLoadedSnapshot lookupFormType resolver snapshot).blockedItems =
        snapshot.blockedItems := by
  unfold normalizeLoadedSnapshot
  dsimp only
  split_ifs
  · exact ⟨rfl, rfl⟩
  · exact ⟨rfl, rfl⟩
  · exact ⟨rfl, rfl⟩
  · obtain ⟨notice, state, history, heq⟩ := settleMigration_frame
      (decide ((normalizeActiveSlotOptionIds snapshot).registeredItems.size ≠ 0))
      (hasLegacyRewardTotals (normalizeActiveSlotOptionIds snapshot))
      (hasLegacyUndoRewardDeltas (normalizeActiveSlotOptionIds snapshot))
      ((migrationStart (normalizeActiveSlotOptionIds snapshot)).registeredItems.toPairs.foldl
        (deriveRegistration lookupFormType resolver)
        (migrationStart (normalizeActiveSlotOptionIds snapshot), 0))
    have hloop := (credited_foldl lookupFormType resolver
      (migrationStart (normalizeActiveSlotOptionIds snapshot)).registeredItems.toPairs
      (migrationStart (normalizeActiveSlotOptionIds snapshot), 0)).elsewhere
    rw [heq]
    exact ⟨hloop.registeredItems, hloop.blockedItems⟩

end CodexOfPower.BuildProgression
