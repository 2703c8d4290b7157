/-
# `CodexOfPower.SerializationLoad` — reading the co-save

The reader as the source has it: one function for each record kind, reading field
by field from the record's cursor, with a 32-bit counter of the bytes that remain
and every `return` an error.  Loops carry the counter with what they build.

`load` runs through the records, and commits the normalised result only when no
record failed.  It also returns the cursor each record was left with, which is
what the safety statement is about.
-/
import CodexOfPower.SerializationFormat
import CodexOfPower.BuildProgression
import CodexOfPower.Rewards
import CodexOfPower.Lib.RecordReader

namespace CodexOfPower.Serialization

open RE Builds Registration SerializationStateStore

/-! ## Helpers -/

/-- `for (i = 0; i < count; ++i)` -/
def forCount {σ : Type} (count : UInt32) (body : Nat → σ → ReadM σ) (s : σ) : ReadM σ :=
  forWhile (fun _ => true) body count.toNat 0 s

/-- `length < sizeof(count) || ReadRecordData(count) != sizeof(count)` is an error. -/
def readCount (length : UInt32) (error : String) : ReadM UInt32 :=
  if length < 4 then throw error else readRecordData UInt32 error

/-- `if (remaining > 0) Skip(remaining)` -/
def skipRemaining (remaining : UInt32) : ReadM Unit :=
  if 0 < remaining then skip remaining else pure ()

/-- `ReadString`; also returns what remains. -/
def readString (remaining : UInt32) (error : String) : ReadM (UInt32 × Text) := do
  let length ← readCount remaining error
  let remaining ← subRemaining remaining 4
  if remaining < length then throw error
  else
    let value ← readRecordBytes length.toNat
    if value.length ≠ length.toNat then throw error
    else
      let remaining ← subRemaining remaining length
      pure (remaining,
        if kMaxSerializedBuildSlotStringLength < length then
          value.take kMaxSerializedBuildSlotStringLength.toNat
        else value)

/-! ## The records -/

section Records

variable (resolveFormID : FormIDResolver)

def readRegisteredV1Entry (_ : Nat) (s : UInt32 × UnorderedMap FormID UInt32) :
    ReadM (UInt32 × UnorderedMap FormID UInt32) := do
  let (remaining, registeredItems) := s
  let oldId ← readRecordData FormID "Failed to read registered formId"
  let remaining ← subRemaining remaining 4
  match resolveFormID oldId with
  | none => pure (remaining, registeredItems)
  | some newId => pure (remaining, registeredItems.emplace newId kGroupUnknown)

def readRegisteredV2Entry (_ : Nat) (s : UInt32 × UnorderedMap FormID UInt32) :
    ReadM (UInt32 × UnorderedMap FormID UInt32) := do
  let (remaining, registeredItems) := s
  let oldId ← readRecordData FormID "Failed to read registered entry"
  let group ← readRecordData UInt32 "Failed to read registered entry"
  let remaining ← subRemaining remaining 8
  match resolveFormID oldId with
  | none => pure (remaining, registeredItems)
  | some newId => pure (remaining, registeredItems.emplace newId group)

def loadRegisteredItems (version length : UInt32) (loadedState : Snapshot Float32) :
    ReadM (Snapshot Float32) := do
  let count ← readCount length "Failed to read registered count"
  let remaining ← subRemaining length 4
  let (remaining, registeredItems) ←
    (if version = 1 then
      forCount (min count (remaining / 4)) (readRegisteredV1Entry resolveFormID)
        (remaining, loadedState.registeredItems)
    else if version = 2 then
      forCount (min count (remaining / 8)) (readRegisteredV2Entry resolveFormID)
        (remaining, loadedState.registeredItems)
    else pure (remaining, loadedState.registeredItems))
  skipRemaining remaining
  pure { loadedState with registeredItems := registeredItems }

def readFormIdEntry (_ : Nat) (s : UInt32 × UnorderedSet FormID) :
    ReadM (UInt32 × UnorderedSet FormID) := do
  let (remaining, formIds) := s
  let oldId ← readRecordData FormID "Failed to read list formId"
  let remaining ← subRemaining remaining 4
  match resolveFormID oldId with
  | none => pure (remaining, formIds)
  | some newId => pure (remaining, formIds.emplace newId ())

/-- The blocked and the notified list share their code; `type` picks the set. -/
def loadFormIdList (type length : UInt32) (loadedState : Snapshot Float32) :
    ReadM (Snapshot Float32) := do
  let count ← readCount length "Failed to read list count"
  let remaining ← subRemaining length 4
  let formIds := if type = kRecordBlockedItems then loadedState.blockedItems
    else loadedState.notifiedItems
  let (remaining, formIds) ←
    forCount (min count (remaining / 4)) (readFormIdEntry resolveFormID) (remaining, formIds)
  skipRemaining remaining
  pure (if type = kRecordBlockedItems then { loadedState with blockedItems := formIds }
    else { loadedState with notifiedItems := formIds })

def loadBuildScores (version length : UInt32) (loadedState : Snapshot Float32) :
    ReadM (Snapshot Float32) := do
  if version ≠ 1 ∧ version ≠ 2 then
    skip length
    pure loadedState
  else
    let minimumLength : UInt32 := 12 + if 2 ≤ version then 12 else 0
    if length < minimumLength then throw "Failed to read build scores"
    else
      let attackScore ← readRecordData UInt32 "Failed to read build scores"
      let defenseScore ← readRecordData UInt32 "Failed to read build scores"
      let utilityScore ← readRecordData UInt32 "Failed to read build scores"
      let loadedState := { loadedState with attackScore, defenseScore, utilityScore }
      if 2 ≤ version then
        let attackPoints ← readRecordData UInt32 "Failed to read build point totals"
        let defensePoints ← readRecordData UInt32 "Failed to read build point totals"
        let utilityPoints ← readRecordData UInt32 "Failed to read build point totals"
        let rest ← subRemaining length 24
        skipRemaining rest
        pure { loadedState with
          attackBuildPointsCenti := attackPoints
          defenseBuildPointsCenti := defensePoints
          utilityBuildPointsCenti := utilityPoints }
      else
        let rest ← subRemaining length 12
        skipRemaining rest
        pure loadedState

/-- `activeBuildSlots[i] = value` where `i` is a slot. -/
def assignSlot (slots : ActiveBuildSlots) (i : Nat) (value : Text) : ActiveBuildSlots :=
  match getInitialBuildSlotLayout[i]? with
  | none => slots
  | some slotId => slots.set slotId value

def readSlotEntry (i : Nat) (s : UInt32 × ActiveBuildSlots) :
    ReadM (UInt32 × ActiveBuildSlots) := do
  let (remaining, slotValue) ← readString s.1 "Failed to read build slot entry"
  pure (remaining, assignSlot s.2 i slotValue)

def loadBuildSlots (version length : UInt32) (loadedState : Snapshot Float32) :
    ReadM (Snapshot Float32) := do
  if version ≠ 1 then
    skip length
    pure loadedState
  else
    let slotCount ← readCount length "Failed to read build slot count"
    let remaining ← subRemaining length 4
    let (remaining, slots) ←
      forWhile (fun s => decide (0 < s.1)) readSlotEntry slotCount.toNat 0
        (remaining, fun _ => [])
    skipRemaining remaining
    pure { loadedState with activeBuildSlots := slots }

def loadBuildMigration (version length : UInt32) (loadedState : Snapshot Float32) :
    ReadM (Snapshot Float32) := do
  if version ≠ 1 then
    skip length
    pure loadedState
  else
    let minimumLength : UInt32 := 14
    if length < minimumLength then throw "Failed to read build migration record"
    else
      let error := "Failed to read build migration payload"
      let migrationVersion ← readRecordData UInt32 error
      let migrationStateRaw ← readRecordData UInt32 error
      let needsNotice ← readRecordData UInt8 error
      let legacyRewardsMigrated ← readRecordData UInt8 error
      let unresolved ← readRecordData UInt32 error
      let rest ← subRemaining length minimumLength
      skipRemaining rest
      pure { loadedState with
        buildMigrationVersion := migrationVersion
        buildMigrationState := BuildMigrationState.ofRaw migrationStateRaw
        buildMigrationNotice := {
          needsNotice := needsNotice ≠ 0
          legacyRewardsMigrated := legacyRewardsMigrated ≠ 0
          unresolvedHistoricalRegistrations := unresolved } }

/-- One entry of a record of totals: kept, under its cap, if its actor value is
supported. -/
def readTotalEntry (supported : UInt32 → Bool) (error : String) (_ : Nat)
    (s : UInt32 × UnorderedMap ActorValue Float32) :
    ReadM (UInt32 × UnorderedMap ActorValue Float32) := do
  let (remaining, totals) := s
  let avRaw ← readRecordData UInt32 error
  let total ← readRecordData Float32 error
  let remaining ← subRemaining remaining 8
  if !supported avRaw then pure (remaining, totals)
  else
    let av : ActorValue := ⟨avRaw⟩
    pure (remaining, totals.insert av (Rewards.clampRewardTotal av total))

def loadRewards (length : UInt32) (loadedState : Snapshot Float32) :
    ReadM (Snapshot Float32) := do
  let count ← readCount length "Failed to read reward count"
  let remaining ← subRemaining length 4
  let readableCount := min count (remaining / 8)
  let readCount := min readableCount kMaxSerializedRewardEntries
  let (remaining, rewardTotals) ←
    forCount readCount
      (readTotalEntry isSupportedRewardActorValue "Failed to read reward entry")
      (remaining, loadedState.rewardTotals)
  let skippedEntries ← subRemaining readableCount readCount
  let remaining ←
    (if 0 < skippedEntries then do
      let skipBytes := skippedEntries * 8
      skip skipBytes
      subRemaining remaining skipBytes
    else pure remaining)
  skipRemaining remaining
  pure { loadedState with rewardTotals := rewardTotals }

def loadBuildAppliedEffects (version length : UInt32) (loadedState : Snapshot Float32) :
    ReadM (Snapshot Float32) := do
  if version ≠ 1 then
    skip length
    pure loadedState
  else
    let count ← readCount length "Failed to read build applied effect count"
    let remaining ← subRemaining length 4
    let (remaining, totals) ←
      forCount (min count (remaining / 8))
        (readTotalEntry isSupportedBuildEffectActorValue
          "Failed to read build applied effect entry")
        (remaining, loadedState.buildAppliedEffectTotals)
    skipRemaining remaining
    pure { loadedState with buildAppliedEffectTotals := totals }

/-! ## The undo history -/

/-- The bytes of an undo entry before its reward deltas. -/
def undoHeaderSize (version : UInt32) : UInt32 :=
  20 + (if 3 ≤ version then 16 - (if version = 3 then 4 else 0) else 0) + 4

/-- The build contribution of an entry, where the version has one. -/
def readUndoContribution (version remaining : UInt32) :
    ReadM (UInt32 × Option BuildScoreContribution) := do
  if 3 ≤ version then
    let hasBuildContribution ← readRecordData UInt32
      "Failed to read undo build contribution payload"
    let buildDisciplineRaw ← readRecordData UInt32
      "Failed to read undo build contribution payload"
    let buildRecordDelta ← readRecordData Int32 "Failed to read undo build contribution payload"
    let remaining ← subRemaining remaining 12
    let (remaining, storedPoints) ←
      (if 4 ≤ version then do
        let points ← readRecordData Int32 "Failed to read undo build point delta"
        let remaining ← subRemaining remaining 4
        pure (remaining, points)
      else pure (remaining, (0 : Int32)))
    if hasBuildContribution ≠ 0 then
      let discipline := BuildDiscipline.ofRaw buildDisciplineRaw
      pure (remaining, some {
        discipline
        recordDelta := buildRecordDelta
        pointsDeltaCenti :=
          if version = 3 then legacyUndoPointsDeltaForDiscipline discipline buildRecordDelta
          else storedPoints })
    else pure (remaining, none)
  else pure (remaining, none)

/-- One reward delta: past the limit it is read and dropped, and so it is when its
actor value is not supported. -/
def readUndoRewardDelta (j : Nat) (s : UInt32 × List (RewardDelta Float32)) :
    ReadM (UInt32 × List (RewardDelta Float32)) := do
  let (remaining, rewardDeltas) := s
  let avRaw ← readRecordData UInt32 "Failed to read undo reward delta"
  let delta ← readRecordData Float32 "Failed to read undo reward delta"
  let remaining ← subRemaining remaining 8
  if kMaxSerializedUndoRewardDeltas.toNat ≤ j then pure (remaining, rewardDeltas)
  else if !isSupportedRewardActorValue avRaw then pure (remaining, rewardDeltas)
  else pure (remaining, rewardDeltas ++ [{ av := ⟨avRaw⟩, delta }])

def readUndoEntry (version : UInt32) (_ : Nat) (s : UInt32 × List (UndoRecord Float32)) :
    ReadM (UInt32 × List (UndoRecord Float32)) := do
  let (remaining, undoHistory) := s
  let actionId ← readRecordData UInt64 "Failed to read undo entry header"
  let oldFormId ← readRecordData FormID "Failed to read undo entry header"
  let oldRegKey ← readRecordData FormID "Failed to read undo entry header"
  let group ← readRecordData UInt32 "Failed to read undo entry header"
  let remaining ← subRemaining remaining 20
  let (remaining, buildContribution) ← readUndoContribution version remaining
  let rewardCount ← readRecordData UInt32 "Failed to read undo reward count"
  let remaining ← subRemaining remaining 4
  let readableRewardCount := min rewardCount (remaining / 8)
  let (remaining, rewardDeltas) ← forCount readableRewardCount readUndoRewardDelta (remaining, [])
  match resolveFormID oldRegKey, resolveFormID oldFormId with
  | some regKey, some formId =>
    let entry : UndoRecord Float32 :=
      { actionId, formId, regKey, group, buildContribution, rewardDeltas }
    pure (remaining, trimHistory (undoHistory ++ [entry]))
  | _, _ => pure (remaining, undoHistory)

/-- The next action id after a load: past the newest record that was read. -/
def nextActionIdAfter (undoHistory : List (UndoRecord Float32)) (nextActionId : UInt64) :
    UInt64 :=
  match undoHistory.getLast? with
  | some newest => max nextActionId (newest.actionId + 1)
  | none => max nextActionId 1

def loadUndoHistory (version length : UInt32) (loadedState : Snapshot Float32) :
    ReadM (Snapshot Float32) := do
  let headerSize : UInt32 := 12
  if length < headerSize then throw "Failed to read undo header"
  else
    let count ← readRecordData UInt32 "Failed to read undo header"
    let nextActionId ← readRecordData UInt64 "Failed to read undo header"
    let remaining ← subRemaining length headerSize
    let (remaining, undoHistory) ←
      forWhile (fun s => decide (undoHeaderSize version ≤ s.1))
        (readUndoEntry resolveFormID version) count.toNat 0 (remaining, [])
    skipRemaining remaining
    pure { loadedState with
      undoHistory := undoHistory
      undoNextActionId := nextActionIdAfter undoHistory nextActionId }

/-! ## Loading -/

/-- One record of the file, by its type. -/
def loadRecord (type version length : UInt32) (loadedState : Snapshot Float32) :
    ReadM (Snapshot Float32) :=
  if type = kRecordRegisteredItems then
    loadRegisteredItems resolveFormID version length loadedState
  else if type = kRecordBlockedItems ∨ type = kRecordNotifiedItems then
    loadFormIdList resolveFormID type length loadedState
  else if type = kRecordBuildScores then loadBuildScores version length loadedState
  else if type = kRecordBuildSlots then loadBuildSlots version length loadedState
  else if type = kRecordBuildMigration then loadBuildMigration version length loadedState
  else if type = kRecordRewards then loadRewards length loadedState
  else if type = kRecordBuildAppliedEffects then
    loadBuildAppliedEffects version length loadedState
  else if type = kRecordUndoHistory then
    loadUndoHistory resolveFormID version length loadedState
  else do
    skip length
    pure loadedState

/-- `while (GetNextRecordInfo(...))`: the snapshot after all records, or nothing after
an error; and for each record that was opened, the cursor it was left with. -/
def loadRecords : List Record → Snapshot Float32 →
    Option (Snapshot Float32) × List (Record × Cursor)
  | [], loadedState => (some loadedState, [])
  | record :: records, loadedState =>
    match loadRecord resolveFormID record.type record.version record.length loadedState
        record.start with
    | .error _ cursor => (none, [(record, cursor)])
    | .ok loadedState cursor =>
      let (result, cursors) := loadRecords records loadedState
      (result, (record, cursor) :: cursors)

structure LoadOutcome where
  state : RuntimeState Float32
  cursors : List (Record × Cursor)

def load (lookupFormType : BuildProgression.FormTypeLookup) (records : List Record)
    (state : RuntimeState Float32) : LoadOutcome :=
  match loadRecords resolveFormID records {} with
  | (none, cursors) => { state, cursors }
  | (some loadedState, cursors) =>
    let loadedState := BuildProgression.normalizeLoadedSnapshot lookupFormType none loadedState
    { state := replaceState state loadedState, cursors }

end Records

end CodexOfPower.Serialization
