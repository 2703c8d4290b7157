/-
# `CodexOfPower.StateStores` — the two stores over the runtime state

Each function is one critical section of the source: it reads the state, and
returns the new state with the result.  The build store owns scores, points and
slots; the registration store owns the registered map, the blocked set and the
undo history.  The lemmas beside each function say what it leaves alone.
-/
import CodexOfPower.State
import CodexOfPower.BuildOptionCatalog

namespace CodexOfPower

open RE Builds Registration

variable {F : Type}

/-! ## The build store -/

namespace BuildStateStore

def findOption [FloatType F] (optionId : Text) : Option (BuildOptionDef F) :=
  Builds.findOption optionId

def slotKindForId : BuildSlotId → BuildSlotKind := Builds.slotKindForId

def isSlotCompatible (option : BuildOptionDef F) (slotId : BuildSlotId) : Bool :=
  Builds.isSlotCompatible option slotId

def scoreForDiscipline (state : RuntimeState F) (discipline : BuildDiscipline) : UInt32 :=
  state.score discipline

def buildPointsForDiscipline (state : RuntimeState F) (discipline : BuildDiscipline) :
    BuildPointCenti :=
  state.pointsCenti discipline

def getActiveSlot (state : RuntimeState F) (slotId : BuildSlotId) : Option Text :=
  let value := state.activeBuildSlots slotId
  if value = [] then none else some value

def setActiveSlot [FloatType F] (state : RuntimeState F) (slotId : BuildSlotId)
    (optionId : Text) : RuntimeState F × Bool :=
  if state.buildMigrationState = .kPendingCleanup then (state, false)
  else
    match findOption (F := F) optionId with
    | none => (state, false)
    | some option =>
      if !isSlotCompatible option slotId then (state, false)
      else if buildPointsForDiscipline state option.discipline < option.unlockPointsCenti then
        (state, false)
      else
        ({ state with activeBuildSlots := state.activeBuildSlots.set slotId optionId }, true)

def clearActiveSlot (state : RuntimeState F) (slotId : BuildSlotId) : RuntimeState F :=
  { state with activeBuildSlots := state.activeBuildSlots.set slotId [] }

/-- `SetActiveSlot` either changes nothing, or puts a compatible unlocked option of
the catalog into the slot, which only happens outside a pending cleanup. -/
theorem setActiveSlot_cases [FloatType F] (state : RuntimeState F) (slotId : BuildSlotId)
    (optionId : Text) :
    setActiveSlot state slotId optionId = (state, false) ∨
    ∃ option : BuildOptionDef F, Builds.findOption optionId = some option ∧
      Builds.isSlotCompatible option slotId = true ∧
      option.unlockPointsCenti ≤ state.pointsCenti option.discipline ∧
      state.buildMigrationState ≠ .kPendingCleanup ∧
      setActiveSlot state slotId optionId =
        ({ state with activeBuildSlots := state.activeBuildSlots.set slotId optionId }, true) := by
  unfold setActiveSlot
  by_cases hpending : state.buildMigrationState = .kPendingCleanup
  · exact .inl (if_pos hpending)
  rw [if_neg hpending]
  cases hfind : findOption (F := F) optionId with
  | none => exact .inl rfl
  | some option =>
    dsimp only
    by_cases hcompat : isSlotCompatible option slotId = true
    · rw [hcompat, Bool.not_true, if_neg Bool.false_ne_true]
      by_cases hlock : buildPointsForDiscipline state option.discipline < option.unlockPointsCenti
      · exact .inl (if_pos hlock)
      · rw [if_neg hlock]
        exact .inr ⟨option, hfind, hcompat, UInt32.not_lt.mp hlock, hpending, rfl⟩
    · rw [Bool.not_eq_true] at hcompat
      rw [hcompat]
      exact .inl rfl

theorem setActiveSlot_frame [FloatType F] (state : RuntimeState F) (slotId : BuildSlotId)
    (optionId : Text) :
    ∃ slots, (setActiveSlot state slotId optionId).1 =
      { state with activeBuildSlots := slots } := by
  rcases setActiveSlot_cases state slotId optionId with heq | ⟨_, -, -, -, -, heq⟩
  · rw [heq]; exact ⟨_, rfl⟩
  · rw [heq]; exact ⟨_, rfl⟩

theorem getActiveSlot_eq_none {state : RuntimeState F} {slotId : BuildSlotId}
    (h : state.activeBuildSlots slotId = []) : getActiveSlot state slotId = none :=
  if_pos h

theorem getActiveSlot_eq_some {state : RuntimeState F} {slotId : BuildSlotId}
    (h : state.activeBuildSlots slotId ≠ []) :
    getActiveSlot state slotId = some (state.activeBuildSlots slotId) :=
  if_neg h

end BuildStateStore

/-! ## The registration store -/

namespace RegistrationStateStore

def isBlocked (state : RuntimeState F) (formId : FormID) : Bool := formId ∈ state.blockedItems

def isRegistered (state : RuntimeState F) (formId : FormID) : Bool :=
  formId ∈ state.registeredItems

def isRegisteredEither (state : RuntimeState F) (regKeyId legacyId : FormID) : Bool :=
  if regKeyId ∈ state.registeredItems then true
  else if legacyId ≠ regKeyId then legacyId ∈ state.registeredItems
  else false

def blockPair (state : RuntimeState F) (regKeyId itemId : FormID) : RuntimeState F :=
  let state := if regKeyId ≠ 0 then
    { state with blockedItems := state.blockedItems.emplace regKeyId () } else state
  if itemId ≠ 0 ∧ itemId ≠ regKeyId then
    { state with blockedItems := state.blockedItems.emplace itemId () } else state

def insertRegistered (state : RuntimeState F) (regKeyId : FormID) (group : UInt32) :
    RuntimeState F × Nat :=
  let state := { state with registeredItems := state.registeredItems.emplace regKeyId group }
  (state, state.registeredItems.size)

def removeRegistered (state : RuntimeState F) (regKeyId : FormID) : RuntimeState F × Bool :=
  if regKeyId ∈ state.registeredItems then
    ({ state with registeredItems := state.registeredItems.erase regKeyId }, true)
  else (state, false)

def pushUndoRecord (state : RuntimeState F) (record : UndoRecord F) : RuntimeState F × UInt64 :=
  let record := { record with actionId := state.undoNextActionId }
  let history := trimHistory (state.undoHistory ++ [record])
  ({ state with
      undoNextActionId := state.undoNextActionId + 1
      undoHistory := history },
    match history.getLast? with
    | none => 0
    | some latest => latest.actionId)

def popLatestUndoRecord (state : RuntimeState F) (actionId : UInt64) :
    RuntimeState F × Option (UndoRecord F) :=
  match state.undoHistory.getLast? with
  | none => (state, none)
  | some latest =>
    if latest.actionId ≠ actionId then (state, none)
    else ({ state with undoHistory := state.undoHistory.dropLast }, some latest)

def restoreUndoRecord (state : RuntimeState F) (record : UndoRecord F) : RuntimeState F :=
  { state with
    undoNextActionId := max state.undoNextActionId (record.actionId + 1)
    undoHistory := trimHistory (state.undoHistory ++ [record]) }

def snapshotRegisteredItems (state : RuntimeState F) : List (FormID × UInt32) :=
  state.registeredItems.toPairs

def registeredCount (state : RuntimeState F) : Nat := state.registeredItems.size

/-- Popping refuses, or takes off the newest record, whose id was asked for. -/
theorem popLatestUndoRecord_cases (state : RuntimeState F) (actionId : UInt64) :
    popLatestUndoRecord state actionId = (state, none) ∨
    ∃ older latest, state.undoHistory = older ++ [latest] ∧ latest.actionId = actionId ∧
      popLatestUndoRecord state actionId = ({ state with undoHistory := older }, some latest) := by
  unfold popLatestUndoRecord
  rcases List.eq_nil_or_concat' state.undoHistory with hnil | ⟨older, latest, hcat⟩
  · exact .inl (by rw [hnil]; rfl)
  · rw [hcat, List.getLast?_concat]
    dsimp only
    by_cases hid : latest.actionId = actionId
    · rw [if_neg (not_not.mpr hid), List.dropLast_concat]
      exact .inr ⟨older, latest, rfl, hid, rfl⟩
    · exact .inl (if_pos hid)

/-- The newest record is the one that can be taken off. -/
theorem popLatestUndoRecord_newest {state : RuntimeState F} {older : List (UndoRecord F)}
    {latest : UndoRecord F} (h : state.undoHistory = older ++ [latest]) :
    popLatestUndoRecord state latest.actionId =
      ({ state with undoHistory := older }, some latest) := by
  unfold popLatestUndoRecord
  rw [h, List.getLast?_concat]
  dsimp only
  rw [if_neg (not_not.mpr rfl), List.dropLast_concat]

/-- Blocking moves nothing but the blocked set. -/
theorem blockPair_frame (state : RuntimeState F) (regKeyId itemId : FormID) :
    blockPair state regKeyId itemId =
      { state with blockedItems := (blockPair state regKeyId itemId).blockedItems } := by
  unfold blockPair
  split_ifs <;> rfl

/-- What is blocked stays blocked. -/
theorem mem_blockPair_of_mem {state : RuntimeState F} {regKeyId itemId id : FormID}
    (h : id ∈ state.blockedItems) : id ∈ (blockPair state regKeyId itemId).blockedItems := by
  unfold blockPair
  split_ifs
  · exact UnorderedMap.mem_emplace.mpr (.inr (UnorderedMap.mem_emplace.mpr (.inr h)))
  · exact UnorderedMap.mem_emplace.mpr (.inr h)
  · exact UnorderedMap.mem_emplace.mpr (.inr h)
  · exact h

/-- A key is reported registered when it, or the item it stands for, is. -/
theorem not_mem_of_isRegisteredEither {state : RuntimeState F} {regKeyId legacyId : FormID}
    (h : isRegisteredEither state regKeyId legacyId = false) :
    regKeyId ∉ state.registeredItems := by
  intro hmem
  rw [isRegisteredEither, if_pos hmem] at h
  cases h

end RegistrationStateStore

/-! ## The notified set -/

namespace NotifiedStateStore

def containsAny (state : RuntimeState F) (primaryId secondaryId : FormID) : Bool :=
  primaryId ∈ state.notifiedItems || secondaryId ∈ state.notifiedItems

def markPair (state : RuntimeState F) (primaryId secondaryId : FormID) : RuntimeState F :=
  let state := if primaryId ≠ 0 then
    { state with notifiedItems := state.notifiedItems.emplace primaryId () } else state
  if secondaryId ≠ 0 then
    { state with notifiedItems := state.notifiedItems.emplace secondaryId () } else state

/-- Marking moves nothing but the notified set. -/
theorem markPair_frame (state : RuntimeState F) (primaryId secondaryId : FormID) :
    markPair state primaryId secondaryId =
      { state with notifiedItems := (markPair state primaryId secondaryId).notifiedItems } := by
  unfold markPair
  split_ifs <;> rfl

theorem mem_notifiedItems_markPair {state : RuntimeState F} {primaryId secondaryId id : FormID}
    (hprimary : primaryId ≠ 0) (hsecondary : secondaryId ≠ 0) :
    id ∈ (markPair state primaryId secondaryId).notifiedItems ↔
      id ∈ [primaryId, secondaryId] ∨ id ∈ state.notifiedItems := by
  unfold markPair
  rw [if_pos hprimary, if_pos hsecondary]
  dsimp only
  rw [UnorderedMap.mem_emplace, UnorderedMap.mem_emplace, List.mem_pair]
  tauto

end NotifiedStateStore

end CodexOfPower
