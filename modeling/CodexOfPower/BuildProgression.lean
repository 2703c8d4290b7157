/-
# `CodexOfPower.BuildProgression` — points for registrations, and migration

Three parts of one source file: what a registration contributes and how that is
applied and taken back; how a loaded snapshot is normalised (old saves carry no
build totals, so these are recomputed from the registered items); and how a
pending migration is finished.

Game lookups are parameters: `lookupFormType` is `LookupByID` followed by
`GetFormType`, and a `LegacyDisciplineResolver` is the optional override.

## What is not said

The cleanup of the legacy rewards works on the player and is an argument here, `cleanup`; it
is modelled in `CodexOfPower.LegacyCleanup`.  The log is left out.
-/
import CodexOfPower.StateStores
import Mathlib.Data.UInt

namespace CodexOfPower.BuildProgression

open RE Builds Registration SerializationStateStore

variable {F : Type}

def kBuildMigrationVersion : UInt32 := 2

/-- `RE::TESForm::LookupByID(formId)->GetFormType()`, where the form exists. -/
abbrev FormTypeLookup := FormID → Option FormType

abbrev LegacyDisciplineResolver := FormID → Option BuildDiscipline

/-! ## Disciplines and points of a registration -/

def convertLegacyGroupToDiscipline (legacyGroup : UInt32) : BuildDiscipline :=
  if legacyGroup = 0 then .Attack
  else if legacyGroup = 1 then .Defense
  else .Utility

theorem isDeclared_convertLegacyGroup (group : UInt32) :
    (convertLegacyGroupToDiscipline group).IsDeclared := by
  unfold convertLegacyGroupToDiscipline
  split_ifs <;> trivial

def resolveBuildPointsForFormType : FormType → BuildPointCenti
  | .Weapon => 70
  | .Ammo => 20
  | .Armor => 30
  | .AlchemyItem => 25
  | .Ingredient => 10
  | .Book => 8
  | .Scroll => 18
  | .SoulGem => 30
  | .Misc => 5
  | .other => 0

def tryResolveDisciplineFromFormType : FormType → Option BuildDiscipline
  | .Weapon | .Ammo => some .Attack
  | .Armor => some .Defense
  | .AlchemyItem | .Ingredient | .Book | .Scroll | .SoulGem | .Misc => some .Utility
  | .other => none

def defaultResolveLegacyDiscipline (lookupFormType : FormTypeLookup) : LegacyDisciplineResolver :=
  fun formId => (lookupFormType formId).bind tryResolveDisciplineFromFormType

def tryResolveLegacyDiscipline (lookupFormType : FormTypeLookup) (regKey : FormID)
    (legacyGroup : UInt32) (resolver : Option LegacyDisciplineResolver) :
    Option BuildDiscipline :=
  if legacyGroup ≤ 5 then some (convertLegacyGroupToDiscipline legacyGroup)
  else (resolver.getD (defaultResolveLegacyDiscipline lookupFormType)) regKey

def resolveFallbackBuildPointsCenti : BuildDiscipline → BuildPointCenti
  | .Attack => 50
  | .Defense => 30
  | .Utility => 10
  | .unnamed _ => 0

/-! ## Contributions -/

def currentScore (state : RuntimeState F) (discipline : BuildDiscipline) : UInt32 :=
  state.score discipline

def setScore (state : RuntimeState F) (discipline : BuildDiscipline) (score : UInt32) :
    RuntimeState F :=
  match discipline with
  | .Attack => { state with attackScore := score }
  | .Defense => { state with defenseScore := score }
  | .Utility => { state with utilityScore := score }
  | .unnamed _ => state

def currentBuildPointsCenti (state : RuntimeState F) (discipline : BuildDiscipline) :
    BuildPointCenti :=
  state.pointsCenti discipline

def setBuildPointsCenti (state : RuntimeState F) (discipline : BuildDiscipline)
    (pointsCenti : BuildPointCenti) : RuntimeState F :=
  match discipline with
  | .Attack => { state with attackBuildPointsCenti := pointsCenti }
  | .Defense => { state with defenseBuildPointsCenti := pointsCenti }
  | .Utility => { state with utilityBuildPointsCenti := pointsCenti }
  | .unnamed _ => state

@[simp] theorem currentScore_eq (state : RuntimeState F) (discipline : BuildDiscipline) :
    currentScore state discipline = state.score discipline := rfl

@[simp] theorem currentBuildPointsCenti_eq (state : RuntimeState F)
    (discipline : BuildDiscipline) :
    currentBuildPointsCenti state discipline = state.pointsCenti discipline := rfl

@[simp] theorem pointsCenti_setScore (state : RuntimeState F) (d d' : BuildDiscipline)
    (score : UInt32) : (setScore state d score).pointsCenti d' = state.pointsCenti d' := by
  cases d <;> cases d' <;> rfl

@[simp] theorem score_setBuildPointsCenti (state : RuntimeState F) (d d' : BuildDiscipline)
    (points : BuildPointCenti) :
    (setBuildPointsCenti state d points).score d' = state.score d' := by
  cases d <;> cases d' <;> rfl

theorem score_setScore_self (state : RuntimeState F) {d : BuildDiscipline} (hd : d.IsDeclared)
    (score : UInt32) : (setScore state d score).score d = score := by
  cases d with
  | unnamed value => exact hd.elim
  | _ => rfl

theorem score_setScore_of_ne (state : RuntimeState F) {d d' : BuildDiscipline} (h : d' ≠ d)
    (score : UInt32) : (setScore state d score).score d' = state.score d' := by
  cases d <;> cases d' <;> first | rfl | exact absurd rfl h

theorem pointsCenti_setBuildPointsCenti_self (state : RuntimeState F) {d : BuildDiscipline}
    (hd : d.IsDeclared) (points : BuildPointCenti) :
    (setBuildPointsCenti state d points).pointsCenti d = points := by
  cases d with
  | unnamed value => exact hd.elim
  | _ => rfl

theorem pointsCenti_setBuildPointsCenti_of_ne (state : RuntimeState F) {d d' : BuildDiscipline}
    (h : d' ≠ d) (points : BuildPointCenti) :
    (setBuildPointsCenti state d points).pointsCenti d' = state.pointsCenti d' := by
  cases d <;> cases d' <;> first | rfl | exact absurd rfl h

/-- Everything but scores, points, slots and the ledger of applied effects is the same. -/
structure SameElsewhere (state state' : RuntimeState F) : Prop where
  registeredItems : state'.registeredItems = state.registeredItems
  blockedItems : state'.blockedItems = state.blockedItems
  notifiedItems : state'.notifiedItems = state.notifiedItems
  rewardTotals : state'.rewardTotals = state.rewardTotals
  buildMigrationVersion : state'.buildMigrationVersion = state.buildMigrationVersion
  buildMigrationState : state'.buildMigrationState = state.buildMigrationState
  buildMigrationNotice : state'.buildMigrationNotice = state.buildMigrationNotice
  undoHistory : state'.undoHistory = state.undoHistory
  undoNextActionId : state'.undoNextActionId = state.undoNextActionId

theorem SameElsewhere.refl (state : RuntimeState F) : SameElsewhere state state :=
  ⟨rfl, rfl, rfl, rfl, rfl, rfl, rfl, rfl, rfl⟩

theorem SameElsewhere.trans {s s' s'' : RuntimeState F} (h : SameElsewhere s s')
    (h' : SameElsewhere s' s'') : SameElsewhere s s'' where
  registeredItems := h'.registeredItems.trans h.registeredItems
  blockedItems := h'.blockedItems.trans h.blockedItems
  notifiedItems := h'.notifiedItems.trans h.notifiedItems
  rewardTotals := h'.rewardTotals.trans h.rewardTotals
  buildMigrationVersion := h'.buildMigrationVersion.trans h.buildMigrationVersion
  buildMigrationState := h'.buildMigrationState.trans h.buildMigrationState
  buildMigrationNotice := h'.buildMigrationNotice.trans h.buildMigrationNotice
  undoHistory := h'.undoHistory.trans h.undoHistory
  undoNextActionId := h'.undoNextActionId.trans h.undoNextActionId

theorem sameElsewhere_setScore (state : RuntimeState F) (d : BuildDiscipline) (score : UInt32) :
    SameElsewhere state (setScore state d score) := by
  cases d <;> exact ⟨rfl, rfl, rfl, rfl, rfl, rfl, rfl, rfl, rfl⟩

theorem sameElsewhere_setBuildPointsCenti (state : RuntimeState F) (d : BuildDiscipline)
    (points : BuildPointCenti) : SameElsewhere state (setBuildPointsCenti state d points) := by
  cases d <;> exact ⟨rfl, rfl, rfl, rfl, rfl, rfl, rfl, rfl, rfl⟩

@[simp] theorem activeBuildSlots_setScore (state : RuntimeState F) (d : BuildDiscipline)
    (score : UInt32) : (setScore state d score).activeBuildSlots = state.activeBuildSlots := by
  cases d <;> rfl

@[simp] theorem activeBuildSlots_setBuildPointsCenti (state : RuntimeState F)
    (d : BuildDiscipline) (points : BuildPointCenti) :
    (setBuildPointsCenti state d points).activeBuildSlots = state.activeBuildSlots := by
  cases d <;> rfl

def makeRegistrationContribution (group : UInt32) (formType : FormType) :
    Option BuildScoreContribution :=
  if 5 < group then none
  else
    let pointsCenti := resolveBuildPointsForFormType formType
    if pointsCenti = 0 then none
    else some {
      discipline := convertLegacyGroupToDiscipline group
      recordDelta := 1
      pointsDeltaCenti := pointsCenti.toInt32 }

def saturatingAdd (current delta : UInt32) : UInt32 :=
  if 0xFFFFFFFF - delta < current then 0xFFFFFFFF else current + delta

def saturatingSub (current delta : UInt32) : UInt32 :=
  if delta < current then current - delta else 0

def applyRegistrationContribution (state : RuntimeState F)
    (contribution : BuildScoreContribution) : RuntimeState F × Bool :=
  if contribution.recordDelta ≤ 0 ∨ contribution.pointsDeltaCenti ≤ 0 then (state, false)
  else
    let nextScore := saturatingAdd (currentScore state contribution.discipline)
      contribution.recordDelta.toUInt32
    let state := setScore state contribution.discipline nextScore
    let nextPoints := saturatingAdd (currentBuildPointsCenti state contribution.discipline)
      contribution.pointsDeltaCenti.toUInt32
    (setBuildPointsCenti state contribution.discipline nextPoints, true)

theorem toNat_saturatingAdd (current delta : UInt32) :
    (saturatingAdd current delta).toNat = min (current.toNat + delta.toNat) (2 ^ 32 - 1) := by
  have hc := current.toNat_lt
  have hd := delta.toNat_lt
  have hmax : (0xFFFFFFFF - delta : UInt32).toNat = 2 ^ 32 - 1 - delta.toNat :=
    UInt32.toNat_sub_of_le _ _ (UInt32.le_iff_toNat_le.mpr (by
      show delta.toNat ≤ 4294967295
      omega))
  unfold saturatingAdd
  by_cases h : (0xFFFFFFFF - delta : UInt32) < current
  · rw [if_pos h]
    rw [UInt32.lt_iff_toNat_lt, hmax] at h
    show 4294967295 = _
    omega
  · rw [if_neg h, UInt32.toNat_add]
    rw [UInt32.lt_iff_toNat_lt, hmax] at h
    omega

theorem toNat_saturatingSub (current delta : UInt32) :
    (saturatingSub current delta).toNat = current.toNat - delta.toNat := by
  unfold saturatingSub
  by_cases h : delta < current
  · rw [if_pos h, UInt32.toNat_sub_of_le _ _ (UInt32.le_of_lt h)]
  · rw [if_neg h]
    have := UInt32.le_iff_toNat_le.mp (UInt32.not_lt.mp h)
    show 0 = _
    omega

/-- A contribution that counts: the ones that do not are ignored, applied or rolled back. -/
def Effective (contribution : BuildScoreContribution) : Prop :=
  0 < contribution.recordDelta ∧ 0 < contribution.pointsDeltaCenti

instance (contribution : BuildScoreContribution) : Decidable (Effective contribution) :=
  inferInstanceAs (Decidable (_ ∧ _))

theorem not_effective_iff (contribution : BuildScoreContribution) :
    ¬ Effective contribution ↔
      contribution.recordDelta ≤ 0 ∨ contribution.pointsDeltaCenti ≤ 0 := by
  rw [Effective, not_and_or, Int32.not_lt, Int32.not_lt]

section Apply

variable {state : RuntimeState F} {c : BuildScoreContribution}

/-- Applying a contribution that counts sets the score, then the points. -/
theorem applyRegistrationContribution_eq (h : Effective c) :
    (applyRegistrationContribution state c).1 =
      setBuildPointsCenti
        (setScore state c.discipline
          (saturatingAdd (state.score c.discipline) c.recordDelta.toUInt32))
        c.discipline
        (saturatingAdd (state.pointsCenti c.discipline) c.pointsDeltaCenti.toUInt32) := by
  unfold applyRegistrationContribution
  rw [if_neg (fun h' => (not_effective_iff c).mpr h' h)]
  simp

theorem score_applyRegistrationContribution (h : Effective c) {d : BuildDiscipline}
    (hd : d.IsDeclared) :
    (applyRegistrationContribution state c).1.score d =
      if d = c.discipline then saturatingAdd (state.score d) c.recordDelta.toUInt32
      else state.score d := by
  rw [applyRegistrationContribution_eq h, score_setBuildPointsCenti]
  by_cases heq : d = c.discipline
  · subst heq; rw [if_pos rfl, score_setScore_self _ hd]
  · rw [if_neg heq, score_setScore_of_ne _ heq]

theorem pointsCenti_applyRegistrationContribution (h : Effective c) {d : BuildDiscipline}
    (hd : d.IsDeclared) :
    (applyRegistrationContribution state c).1.pointsCenti d =
      if d = c.discipline then saturatingAdd (state.pointsCenti d) c.pointsDeltaCenti.toUInt32
      else state.pointsCenti d := by
  rw [applyRegistrationContribution_eq h]
  by_cases heq : d = c.discipline
  · subst heq; rw [if_pos rfl, pointsCenti_setBuildPointsCenti_self _ hd]
  · rw [if_neg heq, pointsCenti_setBuildPointsCenti_of_ne _ heq, pointsCenti_setScore]

theorem le_saturatingAdd (current delta : UInt32) : current ≤ saturatingAdd current delta := by
  rw [UInt32.le_iff_toNat_le, toNat_saturatingAdd]
  exact Nat.le_min.mpr ⟨Nat.le_add_right _ _, Nat.le_sub_one_of_lt (UInt32.toNat_lt _)⟩

/-- A contribution lowers nothing. -/
theorem le_applyRegistrationContribution (state : RuntimeState F) (c : BuildScoreContribution)
    (d : BuildDiscipline) :
    state.score d ≤ (applyRegistrationContribution state c).1.score d ∧
      state.pointsCenti d ≤ (applyRegistrationContribution state c).1.pointsCenti d := by
  by_cases hc : Effective c
  · by_cases hd : d.IsDeclared
    · rw [score_applyRegistrationContribution hc hd,
        pointsCenti_applyRegistrationContribution hc hd]
      split_ifs
      · exact ⟨le_saturatingAdd _ _, le_saturatingAdd _ _⟩
      · exact ⟨UInt32.le_refl _, UInt32.le_refl _⟩
    · cases d with
      | unnamed value => exact ⟨UInt32.le_refl _, UInt32.le_refl _⟩
      | _ => exact absurd trivial hd
  · rw [applyRegistrationContribution, if_pos ((not_effective_iff c).mp hc)]
    exact ⟨UInt32.le_refl _, UInt32.le_refl _⟩

theorem sameElsewhere_applyRegistrationContribution (state : RuntimeState F)
    (c : BuildScoreContribution) :
    SameElsewhere state (applyRegistrationContribution state c).1 := by
  by_cases h : Effective c
  · rw [applyRegistrationContribution_eq h]
    exact (sameElsewhere_setScore _ _ _).trans (sameElsewhere_setBuildPointsCenti _ _ _)
  · rw [applyRegistrationContribution, if_pos ((not_effective_iff c).mp h)]
    exact .refl state

theorem activeBuildSlots_applyRegistrationContribution (state : RuntimeState F)
    (c : BuildScoreContribution) :
    (applyRegistrationContribution state c).1.activeBuildSlots = state.activeBuildSlots := by
  by_cases h : Effective c
  · rw [applyRegistrationContribution_eq h, activeBuildSlots_setBuildPointsCenti,
      activeBuildSlots_setScore]
  · rw [applyRegistrationContribution, if_pos ((not_effective_iff c).mp h)]

end Apply

structure RollbackContributionResult where
  scoreChanged : Bool := false
  deactivatedSlots : Nat := 0
deriving DecidableEq

section Rollback

variable [FloatType F]

def findOption (optionId : Text) : Option (BuildOptionDef F) := Builds.findOption optionId

def isSlotCompatible (option : BuildOptionDef F) (slotId : BuildSlotId) : Bool :=
  Builds.isSlotCompatible option slotId

def slotIsStale (state : RuntimeState F) (slotId : BuildSlotId) : Bool :=
  match BuildStateStore.getActiveSlot state slotId with
  | none => false
  | some activeOption =>
    match findOption (F := F) activeOption with
    | none => true
    | some option =>
      !isSlotCompatible option slotId ||
        currentBuildPointsCenti state option.discipline < option.unlockPointsCenti

/-- The loop over the slots: clear each stale one and count it. -/
def deactivateStaleSlots : List BuildSlotId → RuntimeState F → Nat → RuntimeState F × Nat
  | [], state, deactivated => (state, deactivated)
  | slotId :: slotIds, state, deactivated =>
    if slotIsStale state slotId then
      deactivateStaleSlots slotIds (BuildStateStore.clearActiveSlot state slotId) (deactivated + 1)
    else deactivateStaleSlots slotIds state deactivated

def rollbackRegistrationContributionDetailed (state : RuntimeState F)
    (contribution : BuildScoreContribution) : RuntimeState F × RollbackContributionResult :=
  if contribution.recordDelta ≤ 0 ∨ contribution.pointsDeltaCenti ≤ 0 then (state, {})
  else
    let score := currentScore state contribution.discipline
    let nextScore := saturatingSub score contribution.recordDelta.toUInt32
    let state := setScore state contribution.discipline nextScore
    let points := currentBuildPointsCenti state contribution.discipline
    let nextPoints := saturatingSub points contribution.pointsDeltaCenti.toUInt32
    let state := setBuildPointsCenti state contribution.discipline nextPoints
    let (state, deactivatedSlots) := deactivateStaleSlots getInitialBuildSlotLayout state 0
    (state, { scoreChanged := nextScore ≠ score ∨ nextPoints ≠ points, deactivatedSlots })

/-- Whether a slot is stale depends on its text and on the points alone. -/
theorem slotIsStale_congr {state state' : RuntimeState F} {id : BuildSlotId}
    (hslot : state'.activeBuildSlots id = state.activeBuildSlots id)
    (hpoints : state'.pointsCenti = state.pointsCenti) :
    slotIsStale state' id = slotIsStale state id := by
  unfold slotIsStale BuildStateStore.getActiveSlot currentBuildPointsCenti
  rw [hslot, hpoints]

/-- The slots after the loop: the stale ones among those visited are empty. -/
theorem deactivateStaleSlots_eq (slotIds : List BuildSlotId) (state : RuntimeState F) (n : Nat) :
    (deactivateStaleSlots slotIds state n).1 =
      { state with activeBuildSlots := fun id =>
          if id ∈ slotIds ∧ slotIsStale state id = true then []
          else state.activeBuildSlots id } := by
  induction slotIds generalizing state n with
  | nil => simp [deactivateStaleSlots]
  | cons slotId slotIds ih =>
    rw [deactivateStaleSlots]
    by_cases hstale : slotIsStale state slotId = true
    · rw [if_pos hstale, ih]
      -- clearing one slot does not change whether another is stale
      have hother : ∀ id, id ≠ slotId →
          slotIsStale (BuildStateStore.clearActiveSlot state slotId) id = slotIsStale state id := by
        exact fun id hne => slotIsStale_congr (ActiveBuildSlots.set_of_ne _ hne _) rfl
      refine congrArg (fun slots => { state with activeBuildSlots := slots }) (funext fun id => ?_)
      by_cases hid : id = slotId
      · subst hid
        simp [BuildStateStore.clearActiveSlot, hstale]
      · rw [hother id hid]
        simp [BuildStateStore.clearActiveSlot, ActiveBuildSlots.set_of_ne _ hid, hid]
    · rw [if_neg hstale, ih]
      refine congrArg (fun slots => { state with activeBuildSlots := slots }) (funext fun id => ?_)
      by_cases hid : id = slotId
      · subst hid
        simp [hstale]
      · simp [hid]

section RollbackFacts

variable {state : RuntimeState F} {c : BuildScoreContribution}

/-- The state between the subtraction and the check of the slots. -/
def subtractContribution (state : RuntimeState F) (c : BuildScoreContribution) : RuntimeState F :=
  let scored := setScore state c.discipline
    (saturatingSub (state.score c.discipline) c.recordDelta.toUInt32)
  setBuildPointsCenti scored c.discipline
    (saturatingSub (scored.pointsCenti c.discipline) c.pointsDeltaCenti.toUInt32)

/-- Rolling back a contribution that counts: subtract it, then empty the stale slots. -/
theorem rollbackRegistrationContributionDetailed_eq (h : Effective c) :
    (rollbackRegistrationContributionDetailed state c).1 =
      { subtractContribution state c with
        activeBuildSlots := fun id =>
          if slotIsStale (subtractContribution state c) id = true then []
          else state.activeBuildSlots id } := by
  unfold rollbackRegistrationContributionDetailed
  rw [if_neg (fun h' => (not_effective_iff c).mpr h' h)]
  have hslots : (subtractContribution state c).activeBuildSlots = state.activeBuildSlots := by
    simp [subtractContribution]
  have hsub := deactivateStaleSlots_eq getInitialBuildSlotLayout (subtractContribution state c) 0
  rw [hslots] at hsub
  refine hsub.trans (congrArg
    (fun slots => { subtractContribution state c with activeBuildSlots := slots })
    (funext fun id => ?_))
  -- the loop visits every slot
  by_cases hstale : slotIsStale (subtractContribution state c) id = true
  · rw [if_pos ⟨mem_getInitialBuildSlotLayout id, hstale⟩, if_pos hstale]
  · rw [if_neg fun h => hstale h.2, if_neg hstale]

theorem rollbackRegistrationContributionDetailed_of_not_effective (h : ¬ Effective c) :
    (rollbackRegistrationContributionDetailed state c).1 = state := by
  rw [rollbackRegistrationContributionDetailed, if_pos ((not_effective_iff c).mp h)]

theorem score_rollback (h : Effective c) {d : BuildDiscipline} (hd : d.IsDeclared) :
    (rollbackRegistrationContributionDetailed state c).1.score d =
      if d = c.discipline then saturatingSub (state.score d) c.recordDelta.toUInt32
      else state.score d := by
  rw [rollbackRegistrationContributionDetailed_eq h]
  show (subtractContribution state c).score d = _
  rw [subtractContribution, score_setBuildPointsCenti]
  by_cases heq : d = c.discipline
  · subst heq; rw [if_pos rfl, score_setScore_self _ hd]
  · rw [if_neg heq, score_setScore_of_ne _ heq]

theorem pointsCenti_rollback (h : Effective c) {d : BuildDiscipline} (hd : d.IsDeclared) :
    (rollbackRegistrationContributionDetailed state c).1.pointsCenti d =
      if d = c.discipline then saturatingSub (state.pointsCenti d) c.pointsDeltaCenti.toUInt32
      else state.pointsCenti d := by
  rw [rollbackRegistrationContributionDetailed_eq h]
  show (subtractContribution state c).pointsCenti d = _
  rw [subtractContribution]
  by_cases heq : d = c.discipline
  · subst heq; rw [if_pos rfl, pointsCenti_setBuildPointsCenti_self _ hd, pointsCenti_setScore]
  · rw [if_neg heq, pointsCenti_setBuildPointsCenti_of_ne _ heq, pointsCenti_setScore]

theorem sameElsewhere_rollback (state : RuntimeState F) (c : BuildScoreContribution) :
    SameElsewhere state (rollbackRegistrationContributionDetailed state c).1 := by
  by_cases h : Effective c
  · rw [rollbackRegistrationContributionDetailed_eq h]
    have hsub : SameElsewhere state (subtractContribution state c) :=
      (sameElsewhere_setScore _ _ _).trans (sameElsewhere_setBuildPointsCenti _ _ _)
    exact hsub.trans ⟨rfl, rfl, rfl, rfl, rfl, rfl, rfl, rfl, rfl⟩
  · rw [rollbackRegistrationContributionDetailed_of_not_effective h]
    exact .refl state

/-- A rollback empties slots, and sets none. -/
theorem activeBuildSlots_rollback (state : RuntimeState F) (c : BuildScoreContribution)
    (slotId : BuildSlotId) :
    (rollbackRegistrationContributionDetailed state c).1.activeBuildSlots slotId = [] ∨
      (rollbackRegistrationContributionDetailed state c).1.activeBuildSlots slotId =
        state.activeBuildSlots slotId := by
  by_cases h : Effective c
  · rw [rollbackRegistrationContributionDetailed_eq h]
    by_cases hstale : slotIsStale (subtractContribution state c) slotId = true
    · exact .inl (if_pos hstale)
    · exact .inr (if_neg hstale)
  · rw [rollbackRegistrationContributionDetailed_of_not_effective h]
    exact .inr rfl

end RollbackFacts

end Rollback

/-! ## Normalising a loaded snapshot -/

def hasLegacyRewardTotals (snapshot : Snapshot F) : Bool := snapshot.rewardTotals.size ≠ 0

def hasLegacyUndoRewardDeltas (snapshot : Snapshot F) : Bool :=
  snapshot.undoHistory.any fun record => !record.rewardDeltas.isEmpty

def clearActiveSlots (snapshot : Snapshot F) : Snapshot F :=
  { snapshot with activeBuildSlots := fun _ => [] }

def stripLegacyUndoRewardDeltas (snapshot : Snapshot F) : Snapshot F :=
  { snapshot with
    undoHistory := snapshot.undoHistory.map fun record => { record with rewardDeltas := [] } }

def remapLegacyOptionId (optionId : Text) : Text :=
  if optionId = utf8 "build.defense.fireward" ∨ optionId = utf8 "build.defense.frostward" ∨
      optionId = utf8 "build.defense.stormward" then
    utf8 "build.defense.elementalWard"
  else if optionId = utf8 "build.defense.antidote" ∨
      optionId = utf8 "build.defense.purity" then
    utf8 "build.defense.purification"
  else optionId

def normalizeActiveSlotOptionIds (snapshot : Snapshot F) : Snapshot F :=
  { snapshot with
    activeBuildSlots := fun slotId =>
      let slot := snapshot.activeBuildSlots slotId
      if slot = [] then slot else remapLegacyOptionId slot }

def applyDerivedScore (snapshot : Snapshot F) (discipline : BuildDiscipline) : Snapshot F :=
  setScore snapshot discipline (snapshot.score discipline + 1)

def applyDerivedBuildPoints (snapshot : Snapshot F) (discipline : BuildDiscipline)
    (pointsCenti : BuildPointCenti) : Snapshot F :=
  setBuildPointsCenti snapshot discipline (snapshot.pointsCenti discipline + pointsCenti)

def applyDerivedContribution (snapshot : Snapshot F) (discipline : BuildDiscipline)
    (pointsCenti : BuildPointCenti) : Snapshot F :=
  applyDerivedBuildPoints (applyDerivedScore snapshot discipline) discipline pointsCenti

/-- The body of the migration loop, for one registered item: by form type where
the form is known, else by the stored group with fallback points, else it counts
as unresolved. -/
def deriveRegistration (lookupFormType : FormTypeLookup)
    (resolver : Option LegacyDisciplineResolver) (acc : Snapshot F × UInt32)
    (item : FormID × UInt32) : Snapshot F × UInt32 :=
  let (snapshot, unresolved) := acc
  let (formId, group) := item
  let byFormType : Option (BuildDiscipline × BuildPointCenti) :=
    if resolver.isNone then
      (lookupFormType formId).bind fun formType =>
        let pointsCenti := resolveBuildPointsForFormType formType
        (tryResolveDisciplineFromFormType formType).bind fun discipline =>
          if 0 < pointsCenti then some (discipline, pointsCenti) else none
    else none
  match byFormType with
  | some (discipline, pointsCenti) =>
    (applyDerivedContribution snapshot discipline pointsCenti, unresolved)
  | none =>
    match tryResolveLegacyDiscipline lookupFormType formId group resolver with
    | none => (snapshot, unresolved + 1)
    | some discipline =>
      (applyDerivedContribution snapshot discipline
        (resolveFallbackBuildPointsCenti discipline), unresolved)

/-- The snapshot the migration loop starts from: no totals, no slots. -/
def migrationStart (snapshot : Snapshot F) : Snapshot F :=
  clearActiveSlots { snapshot with
    attackScore := 0
    defenseScore := 0
    utilityScore := 0
    attackBuildPointsCenti := 0
    defenseBuildPointsCenti := 0
    utilityBuildPointsCenti := 0 }

/-- What follows the migration loop: version, notice, and whether a cleanup of legacy
rewards is still to come. -/
def settleMigration (hadLegacyRegistrations hadLegacyRewards hadLegacyUndo : Bool)
    (derived : Snapshot F × UInt32) : Snapshot F :=
  let (snapshot, unresolvedHistoricalRegistrations) := derived
  let snapshot := { snapshot with
    buildMigrationVersion := kBuildMigrationVersion
    buildMigrationNotice := {} }
  let performedMigration := hadLegacyRegistrations || hadLegacyRewards || hadLegacyUndo
  if !performedMigration then { snapshot with buildMigrationState := .kComplete }
  else
    let snapshot := { snapshot with
      buildMigrationNotice := {
        needsNotice := true
        legacyRewardsMigrated := hadLegacyRewards
        unresolvedHistoricalRegistrations := unresolvedHistoricalRegistrations } }
    if hadLegacyRewards then { snapshot with buildMigrationState := .kPendingCleanup }
    else stripLegacyUndoRewardDeltas { snapshot with buildMigrationState := .kComplete }

def normalizeLoadedSnapshot (lookupFormType : FormTypeLookup)
    (resolver : Option LegacyDisciplineResolver) (snapshot : Snapshot F) : Snapshot F :=
  let snapshot := normalizeActiveSlotOptionIds snapshot
  if kBuildMigrationVersion ≤ snapshot.buildMigrationVersion then
    if snapshot.buildMigrationState = .kPendingCleanup then clearActiveSlots snapshot
    else if snapshot.buildMigrationState = .kComplete then stripLegacyUndoRewardDeltas snapshot
    else snapshot
  else
    let hadLegacyRegistrations : Bool := snapshot.registeredItems.size ≠ 0
    let hadLegacyRewards := hasLegacyRewardTotals snapshot
    let hadLegacyUndo := hasLegacyUndoRewardDeltas snapshot
    let snapshot := migrationStart snapshot
    settleMigration hadLegacyRegistrations hadLegacyRewards hadLegacyUndo
      (snapshot.registeredItems.toPairs.foldl (deriveRegistration lookupFormType resolver)
        (snapshot, 0))

/-! ## Finishing a pending migration -/

def tryFinalizePendingMigration (cleanup : Option (Snapshot F → Bool)) (snapshot : Snapshot F) :
    Snapshot F × Bool :=
  if snapshot.buildMigrationVersion < kBuildMigrationVersion then (snapshot, false)
  else if snapshot.buildMigrationState ≠ .kPendingCleanup then
    (if snapshot.buildMigrationState = .kComplete then stripLegacyUndoRewardDeltas snapshot
      else snapshot, false)
  else
    let snapshot := clearActiveSlots snapshot
    let cleaned := snapshot.rewardTotals.size = 0 || cleanup.any fun cleanup => cleanup snapshot
    if !cleaned then (snapshot, false)
    else
      (stripLegacyUndoRewardDeltas { snapshot with
        rewardTotals := ∅
        buildMigrationVersion := kBuildMigrationVersion
        buildMigrationState := .kComplete }, true)

def consumeMigrationNotice (snapshot : Snapshot F) :
    Snapshot F × Option BuildMigrationNoticeSnapshot :=
  if !snapshot.buildMigrationNotice.needsNotice then (snapshot, none)
  else
    ({ snapshot with
        buildMigrationNotice := { snapshot.buildMigrationNotice with needsNotice := false } },
      some snapshot.buildMigrationNotice)

/-- `ProcessBuildMigrationState`, run after a load and at a new game.  The legacy
cleanup works on the player; its outcome decides whether the migration ends. -/
def processBuildMigrationState (lookupFormType : FormTypeLookup) (cleanup : Snapshot F → Bool)
    (state : RuntimeState F) : RuntimeState F × Option BuildMigrationNoticeSnapshot :=
  let snapshot := snapshotState state
  let snapshot := normalizeLoadedSnapshot lookupFormType none snapshot
  let (snapshot, _) := tryFinalizePendingMigration (some cleanup) snapshot
  let (snapshot, notice) := consumeMigrationNotice snapshot
  (replaceState state snapshot, notice)

end CodexOfPower.BuildProgression
