/-
# `CodexOfPower.SerializationDecode` — the co-save format, as a grammar

What a co-save says, without cursors or counters: one parser for each record kind,
in terms of the bytes that are left.  A record that is too short for its fixed
fields has no meaning; a record with entries means the entries that are there, up
to its count, and whatever follows them is ignored.

The reader of `CodexOfPower.SerializationLoad` is compared with this grammar in
`CodexOfPower.SerializationSafety`, and the writer in `CodexOfPower.SavedRecords`.
-/
import CodexOfPower.SerializationFormat
import CodexOfPower.Rewards
import CodexOfPower.Lib.RecordReader

namespace CodexOfPower.Serialization

open RE Builds Registration SerializationStateStore

/-! ## Entries -/

/-- A count, then as many entries as the count asks for and the record holds. -/
def listParser {β : Type} (least : Nat) (entry : Parser β) : Parser (List β) := do
  let count ← Parser.value UInt32
  let entries ← Parser.upTo least entry count.toNat
  Parser.ignoreRest
  pure entries

def pairParser (α β : Type) [TriviallyCopyable α] [TriviallyCopyable β] : Parser (α × β) := do
  let first ← Parser.value α
  let second ← Parser.value β
  pure (first, second)

/-- A text: its length, then its bytes, of which the first 128 count. -/
def textParser : Parser Text := do
  let length ← Parser.value UInt32
  let value ← Parser.take length.toNat
  pure (value.take kMaxSerializedBuildSlotStringLength.toNat)

def registeredEntryParser (version : UInt32) : Parser (FormID × UInt32) :=
  if version = 1 then do
    let formId ← Parser.value FormID
    pure (formId, kGroupUnknown)
  else pairParser FormID UInt32

def registeredEntrySize (version : UInt32) : Nat := if version = 1 then 4 else 8

def rewardDeltaParser : Parser (RewardDelta Float32) := do
  let av ← Parser.value UInt32
  let delta ← Parser.value Float32
  pure { av := ⟨av⟩, delta }

/-- The build contribution of an undo entry, from version 3 on; version 3 had no
points of its own. -/
def contributionParser (version : UInt32) : Parser (Option BuildScoreContribution) :=
  if 3 ≤ version then do
    let present ← Parser.value UInt32
    let discipline ← Parser.value UInt32
    let recordDelta ← Parser.value Int32
    let storedPoints ← (if 4 ≤ version then Parser.value Int32 else pure 0)
    let discipline := BuildDiscipline.ofRaw discipline
    pure (if present ≠ 0 then some {
        discipline
        recordDelta
        pointsDeltaCenti := if version = 3 then
          legacyUndoPointsDeltaForDiscipline discipline recordDelta else storedPoints }
      else none)
  else pure none

/-- The supported reward deltas among the first 64. -/
def keptRewardDeltas (deltas : List (RewardDelta Float32)) : List (RewardDelta Float32) :=
  (deltas.take kMaxSerializedUndoRewardDeltas.toNat).filter fun entry =>
    isSupportedRewardActorValue entry.av.raw

def undoEntryParser (version : UInt32) : Parser (UndoRecord Float32) := do
  let actionId ← Parser.value UInt64
  let formId ← Parser.value FormID
  let regKey ← Parser.value FormID
  let group ← Parser.value UInt32
  let buildContribution ← contributionParser version
  let rewardCount ← Parser.value UInt32
  let deltas ← Parser.upTo 8 rewardDeltaParser rewardCount.toNat
  pure { actionId, formId, regKey, group, buildContribution,
         rewardDeltas := keptRewardDeltas deltas }

def undoEntryLeast (version : UInt32) : Nat :=
  if version < 3 then 24 else if version = 3 then 36 else 40

/-! ## What the entries become -/

section Resolve

variable (resolveFormID : FormIDResolver)

/-- The entries whose key still resolves, under the new key. -/
def resolveKeys {ν : Type} (entries : List (FormID × ν)) : List (FormID × ν) :=
  entries.filterMap fun entry => (resolveFormID entry.1).map fun formId => (formId, entry.2)

/-- What a list of form ids adds to a set. -/
def addFormIds (m : UnorderedSet FormID) (entries : List FormID) : UnorderedSet FormID :=
  m.emplaceAll ((entries.filterMap resolveFormID).map (·, ()))

/-- An undo record with both its ids resolved. -/
def resolveUndoRecord (record : UndoRecord Float32) : Option (UndoRecord Float32) :=
  match resolveFormID record.regKey, resolveFormID record.formId with
  | some regKey, some formId => some { record with regKey, formId }
  | _, _ => none

/-- The totals that count: supported actor values, each under its cap. -/
def keptTotals {F : Type} [FloatType F] (supported : UInt32 → Bool)
    (entries : List (ActorValue × F)) : List (ActorValue × F) :=
  (entries.filter fun entry => supported entry.1.raw).map fun entry =>
    (entry.1, Rewards.clampRewardTotal entry.1 entry.2)

/-- What the reader keeps of a map of totals. -/
theorem lookup_keptTotals {F : Type} [FloatType F] {totals : UnorderedMap ActorValue F}
    {supported : UInt32 → Bool} {av : ActorValue} {total : F} :
    (UnorderedMap.insertAll (keptTotals supported totals.toPairs) ∅).lookup av = some total ↔
      supported av.raw = true ∧
        ∃ saved, totals.lookup av = some saved ∧ Rewards.clampRewardTotal av saved = total := by
  have hkeys : (keptTotals supported totals.toPairs).map Prod.fst =
      (totals.toPairs.filter fun entry => supported entry.1.raw).map Prod.fst := by
    unfold keptTotals
    rw [List.map_map]
    rfl
  have hnodup : ((keptTotals supported totals.toPairs).map Prod.fst).Nodup := by
    rw [hkeys]
    exact totals.nodup_fst_toPairs.sublist (List.filter_sublist.map _)
  rw [UnorderedMap.lookup_insertAll_iff hnodup]
  unfold keptTotals
  rw [List.mem_map]
  constructor
  · rintro ⟨⟨av', saved⟩, hentry, heq⟩
    cases heq
    rw [List.mem_filter] at hentry
    exact ⟨hentry.2, saved, UnorderedMap.mem_toPairs.mp hentry.1, rfl⟩
  · rintro ⟨hsupported, saved, hlookup, rfl⟩
    exact ⟨(av, saved), List.mem_filter.mpr ⟨UnorderedMap.mem_toPairs.mpr hlookup, hsupported⟩,
      rfl⟩

def totalParser : Parser (ActorValue × Float32) := do
  let av ← Parser.value UInt32
  let total ← Parser.value Float32
  pure (⟨av⟩, total)

/-- The slots from the texts of the slot record, in index order. -/
def slotsOfTexts (texts : List Text) : ActiveBuildSlots :=
  fun slotId => (texts[slotId.toIndex]?).getD []

/-! ## Records -/

def decodeRegisteredItems (version : UInt32) (loaded : Snapshot Float32) :
    Parser (Snapshot Float32) := do
  let entries ←
    (if version = 1 ∨ version = 2 then
      listParser (registeredEntrySize version) (registeredEntryParser version)
    else do
      let _ ← Parser.value UInt32
      Parser.ignoreRest
      pure [])
  pure { loaded with
    registeredItems := loaded.registeredItems.emplaceAll (resolveKeys resolveFormID entries) }

def decodeFormIdList (type : UInt32) (loaded : Snapshot Float32) :
    Parser (Snapshot Float32) := do
  let entries ← listParser 4 (Parser.value FormID)
  pure (if type = kRecordBlockedItems then
      { loaded with blockedItems := addFormIds resolveFormID loaded.blockedItems entries }
    else { loaded with notifiedItems := addFormIds resolveFormID loaded.notifiedItems entries })

def decodeBuildScores (version : UInt32) (loaded : Snapshot Float32) :
    Parser (Snapshot Float32) :=
  if version ≠ 1 ∧ version ≠ 2 then do
    Parser.ignoreRest
    pure loaded
  else do
    let attackScore ← Parser.value UInt32
    let defenseScore ← Parser.value UInt32
    let utilityScore ← Parser.value UInt32
    let loaded := { loaded with attackScore, defenseScore, utilityScore }
    if 2 ≤ version then
      let attackPoints ← Parser.value UInt32
      let defensePoints ← Parser.value UInt32
      let utilityPoints ← Parser.value UInt32
      Parser.ignoreRest
      pure { loaded with
        attackBuildPointsCenti := attackPoints
        defenseBuildPointsCenti := defensePoints
        utilityBuildPointsCenti := utilityPoints }
    else
      Parser.ignoreRest
      pure loaded

def decodeBuildSlots (version : UInt32) (loaded : Snapshot Float32) :
    Parser (Snapshot Float32) :=
  if version ≠ 1 then do
    Parser.ignoreRest
    pure loaded
  else do
    let texts ← listParser 1 textParser
    pure { loaded with activeBuildSlots := slotsOfTexts texts }

def decodeBuildMigration (version : UInt32) (loaded : Snapshot Float32) :
    Parser (Snapshot Float32) :=
  if version ≠ 1 then do
    Parser.ignoreRest
    pure loaded
  else do
    let migrationVersion ← Parser.value UInt32
    let migrationState ← Parser.value UInt32
    let needsNotice ← Parser.value UInt8
    let legacyRewardsMigrated ← Parser.value UInt8
    let unresolved ← Parser.value UInt32
    Parser.ignoreRest
    pure { loaded with
      buildMigrationVersion := migrationVersion
      buildMigrationState := BuildMigrationState.ofRaw migrationState
      buildMigrationNotice := {
        needsNotice := needsNotice ≠ 0
        legacyRewardsMigrated := legacyRewardsMigrated ≠ 0
        unresolvedHistoricalRegistrations := unresolved } }

/-- At most 256 reward totals are read. -/
def decodeRewards (loaded : Snapshot Float32) : Parser (Snapshot Float32) := do
  let count ← Parser.value UInt32
  let entries ← Parser.upTo 8 totalParser (min count kMaxSerializedRewardEntries).toNat
  Parser.ignoreRest
  pure { loaded with
    rewardTotals := loaded.rewardTotals.insertAll
      (keptTotals isSupportedRewardActorValue entries) }

def decodeBuildAppliedEffects (version : UInt32) (loaded : Snapshot Float32) :
    Parser (Snapshot Float32) :=
  if version ≠ 1 then do
    Parser.ignoreRest
    pure loaded
  else do
    let entries ← listParser 8 totalParser
    pure { loaded with
      buildAppliedEffectTotals := loaded.buildAppliedEffectTotals.insertAll
        (keptTotals isSupportedBuildEffectActorValue entries) }

/-- The next action id that goes with an undo history read from a file. -/
def nextActionIdOf (history : List (UndoRecord Float32)) (stored : UInt64) : UInt64 :=
  max stored (history.getLast?.elim 1 fun newest => newest.actionId + 1)

def decodeUndoHistory (version : UInt32) (loaded : Snapshot Float32) :
    Parser (Snapshot Float32) := do
  let count ← Parser.value UInt32
  let stored ← Parser.value UInt64
  let entries ← Parser.upTo (undoEntryLeast version) (undoEntryParser version) count.toNat
  Parser.ignoreRest
  let undoHistory := trimHistory (entries.filterMap (resolveUndoRecord resolveFormID))
  pure { loaded with undoHistory, undoNextActionId := nextActionIdOf undoHistory stored }

/-- A record, by its type; an unknown one says nothing. -/
def recordParser (type version : UInt32) (loaded : Snapshot Float32) :
    Parser (Snapshot Float32) :=
  if type = kRecordRegisteredItems then decodeRegisteredItems resolveFormID version loaded
  else if type = kRecordBlockedItems ∨ type = kRecordNotifiedItems then
    decodeFormIdList resolveFormID type loaded
  else if type = kRecordBuildScores then decodeBuildScores version loaded
  else if type = kRecordBuildSlots then decodeBuildSlots version loaded
  else if type = kRecordBuildMigration then decodeBuildMigration version loaded
  else if type = kRecordRewards then decodeRewards loaded
  else if type = kRecordBuildAppliedEffects then decodeBuildAppliedEffects version loaded
  else if type = kRecordUndoHistory then decodeUndoHistory resolveFormID version loaded
  else do
    Parser.ignoreRest
    pure loaded

def decodeRecord (record : Record) (loaded : Snapshot Float32) : Option (Snapshot Float32) :=
  (recordParser resolveFormID record.type record.version loaded record.contents).map Prod.fst

/-- What a co-save says: every record in turn, from the snapshot of a new game. -/
def decodeRecords : List Record → Snapshot Float32 → Option (Snapshot Float32)
  | [], loaded => some loaded
  | record :: records, loaded =>
    (decodeRecord resolveFormID record loaded).bind (decodeRecords records)

end Resolve

end CodexOfPower.Serialization
