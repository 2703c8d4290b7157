/-
# `CodexOfPower.SerializationSave` — writing the co-save

Nine records, one writer each.  A writer stops at the first refused call; the next
writer still runs, and `Save` reports whether all of them finished.
-/
import CodexOfPower.SerializationFormat
import CodexOfPower.Lib.RecordWriter

namespace CodexOfPower.Serialization

open RE Builds Registration SerializationStateStore

-- whether the host accepts its `n`-th call
variable (accepts : Nat → Bool)

def writeString (value : Text) (error : String) : SaveM Unit := do
  let length := UInt32.ofNat value.length
  writeRecordData accepts length error
  if length = 0 then pure () else writeRecordBytes accepts value error

def writeRegisteredRecord (state : Snapshot Float32) : SaveM Unit := do
  openRecord accepts kRecordRegisteredItems kSerializationVersion
    "Failed to open co-save record REGI"
  writeRecordData accepts (UInt32.ofNat state.registeredItems.size)
    "Failed to write registered count"
  state.registeredItems.toPairs.forM fun (formId, group) => do
    writeRecordData accepts formId "Failed to write registered entry"
    writeRecordData accepts group "Failed to write registered entry"

def writeFormIdList (formIds : UnorderedSet FormID) (countError formIdError : String) :
    SaveM Unit := do
  writeRecordData accepts (UInt32.ofNat formIds.size) countError
  formIds.toPairs.forM fun entry => writeRecordData accepts entry.1 formIdError

def writeBlockedRecord (state : Snapshot Float32) : SaveM Unit := do
  openRecord accepts kRecordBlockedItems kSerializationVersion
    "Failed to open co-save record BLCK"
  writeFormIdList accepts state.blockedItems "Failed to write blocked count"
    "Failed to write blocked formId"

def writeNotifiedRecord (state : Snapshot Float32) : SaveM Unit := do
  openRecord accepts kRecordNotifiedItems kSerializationVersion
    "Failed to open co-save record NTFY"
  writeFormIdList accepts state.notifiedItems "Failed to write notified count"
    "Failed to write notified formId"

def writeBuildScoresRecord (state : Snapshot Float32) : SaveM Unit := do
  openRecord accepts kRecordBuildScores 2 "Failed to open co-save record BSCR"
  writeRecordData accepts state.attackScore ""
  writeRecordData accepts state.defenseScore ""
  writeRecordData accepts state.utilityScore ""
  writeRecordData accepts state.attackBuildPointsCenti ""
  writeRecordData accepts state.defenseBuildPointsCenti ""
  writeRecordData accepts state.utilityBuildPointsCenti ""

def writeBuildSlotsRecord (state : Snapshot Float32) : SaveM Unit := do
  openRecord accepts kRecordBuildSlots 1 "Failed to open co-save record BSLT"
  writeRecordData accepts (UInt32.ofNat kBuildSlotCount) "Failed to write build slot count"
  getInitialBuildSlotLayout.forM fun slotId =>
    writeString accepts (state.activeBuildSlots slotId) "Failed to write build slot entry"

def writeBuildMigrationRecord (state : Snapshot Float32) : SaveM Unit := do
  openRecord accepts kRecordBuildMigration 1 "Failed to open co-save record BMIG"
  let notice := state.buildMigrationNotice
  writeRecordData accepts state.buildMigrationVersion ""
  writeRecordData accepts state.buildMigrationState.toRaw ""
  writeRecordData accepts (if notice.needsNotice then 1 else 0 : UInt8) ""
  writeRecordData accepts (if notice.legacyRewardsMigrated then 1 else 0 : UInt8) ""
  writeRecordData accepts notice.unresolvedHistoricalRegistrations ""

/-- The entries of the two records of actor-value totals. -/
def writeActorValueTotals (totals : UnorderedMap ActorValue Float32)
    (countError entryError : String) : SaveM Unit := do
  writeRecordData accepts (UInt32.ofNat totals.size) countError
  totals.toPairs.forM fun (av, total) => do
    writeRecordData accepts av.raw entryError
    writeRecordData accepts total entryError

def writeBuildAppliedEffectsRecord (state : Snapshot Float32) : SaveM Unit := do
  openRecord accepts kRecordBuildAppliedEffects 1 "Failed to open co-save record BEFX"
  writeActorValueTotals accepts state.buildAppliedEffectTotals
    "Failed to write build applied effect count" "Failed to write build applied effect entry"

def writeRewardsRecord (state : Snapshot Float32) : SaveM Unit := do
  openRecord accepts kRecordRewards kSerializationVersion "Failed to open co-save record RWDS"
  writeActorValueTotals accepts state.rewardTotals
    "Failed to write reward count" "Failed to write reward entry"

def writeUndoEntry (entry : UndoRecord Float32) : SaveM Unit := do
  let error := "Failed to write undo entry header"
  let contribution := entry.buildContribution.getD {}
  writeRecordData accepts entry.actionId error
  writeRecordData accepts entry.formId error
  writeRecordData accepts entry.regKey error
  writeRecordData accepts entry.group error
  writeRecordData accepts (if entry.buildContribution.isSome then 1 else 0 : UInt32) error
  writeRecordData accepts (if entry.buildContribution.isSome then contribution.discipline.toRaw
    else 0) error
  writeRecordData accepts contribution.recordDelta error
  writeRecordData accepts contribution.pointsDeltaCenti error
  writeRecordData accepts (UInt32.ofNat entry.rewardDeltas.length) error
  entry.rewardDeltas.forM fun delta => do
    writeRecordData accepts delta.av.raw "Failed to write undo reward delta"
    writeRecordData accepts delta.delta "Failed to write undo reward delta"

def writeUndoRecord (state : Snapshot Float32) : SaveM Unit := do
  openRecord accepts kRecordUndoHistory kUndoRecordVersion "Failed to open co-save record UNDO"
  writeRecordData accepts (UInt32.ofNat state.undoHistory.length) "Failed to write undo header"
  writeRecordData accepts state.undoNextActionId "Failed to write undo header"
  state.undoHistory.forM (writeUndoEntry accepts)

/-- `ExecuteAllSaveWriters`: every writer runs, whatever the ones before it did. -/
def executeAllSaveWriters : List (SaveM Unit) → Writer → Bool × Writer
  | [], w => (true, w)
  | writer :: writers, w =>
    match writer w with
    | .ok _ w => executeAllSaveWriters writers w
    | .error _ w => (false, (executeAllSaveWriters writers w).2)

def saveWriters (state : Snapshot Float32) : List (SaveM Unit) :=
  [writeRegisteredRecord accepts state,
   writeBlockedRecord accepts state,
   writeNotifiedRecord accepts state,
   writeBuildScoresRecord accepts state,
   writeBuildSlotsRecord accepts state,
   writeBuildMigrationRecord accepts state,
   writeBuildAppliedEffectsRecord accepts state,
   writeRewardsRecord accepts state,
   writeUndoRecord accepts state]

/-- `Save`: the records the host holds afterwards, oldest first, and whether every
write succeeded. -/
def save (state : RuntimeState Float32) : Bool × List Record :=
  let (allOk, w) := executeAllSaveWriters (saveWriters accepts (snapshotState state)) {}
  (allOk, w.records.reverse.map WrittenRecord.toRecord)

def revert (state : RuntimeState Float32) : RuntimeState Float32 := clear state

end CodexOfPower.Serialization
