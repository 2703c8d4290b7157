/-
# `CodexOfPower.SavedRecords` — what a successful save writes, and what it says

The writers of `CodexOfPower.SerializationSave` are read off as byte strings
(`save_contents`), and each byte string is put through the grammar of
`CodexOfPower.SerializationDecode`.  The result, `decode_saved`, is the snapshot a
reader makes of a saved state.  It is `reloaded`: the state with its tables built
anew from their entries, its slot texts cut at 128 bytes, and its legacy rewards
limited to what the reader accepts.
-/
import CodexOfPower.SerializationSave
import CodexOfPower.SerializationDecode

namespace CodexOfPower.Serialization

open RE Builds Registration SerializationStateStore

/-! ## The bytes of each record -/

def encodeList {α : Type} (encode : α → Bytes) (xs : List α) : Bytes :=
  toBytes (UInt32.ofNat xs.length) ++ xs.flatMap encode

def encodePair {α β : Type} [TriviallyCopyable α] [TriviallyCopyable β] (entry : α × β) : Bytes :=
  toBytes entry.1 ++ toBytes entry.2

def encodeTotal (entry : ActorValue × Float32) : Bytes :=
  toBytes entry.1.raw ++ toBytes entry.2

def encodeText (text : Text) : Bytes :=
  toBytes (UInt32.ofNat text.length) ++ if UInt32.ofNat text.length = 0 then [] else text

def encodeRewardDelta (entry : RewardDelta Float32) : Bytes :=
  toBytes entry.av.raw ++ toBytes entry.delta

def encodeUndoEntry (entry : UndoRecord Float32) : Bytes :=
  let contribution := entry.buildContribution.getD {}
  toBytes entry.actionId ++ (toBytes entry.formId ++ (toBytes entry.regKey ++
    (toBytes entry.group ++
      (toBytes (if entry.buildContribution.isSome then 1 else 0 : UInt32) ++
        (toBytes (if entry.buildContribution.isSome then contribution.discipline.toRaw else 0) ++
          (toBytes contribution.recordDelta ++ (toBytes contribution.pointsDeltaCenti ++
            encodeList encodeRewardDelta entry.rewardDeltas)))))))

/-- The records of a save: type, version and contents. -/
def savedContents (state : RuntimeState Float32) : List (UInt32 × UInt32 × Bytes) :=
  [(kRecordRegisteredItems, kSerializationVersion,
      encodeList encodePair state.registeredItems.toPairs),
   (kRecordBlockedItems, kSerializationVersion,
      encodeList toBytes (state.blockedItems.toPairs.map Prod.fst)),
   (kRecordNotifiedItems, kSerializationVersion,
      encodeList toBytes (state.notifiedItems.toPairs.map Prod.fst)),
   (kRecordBuildScores, 2,
      toBytes state.attackScore ++ (toBytes state.defenseScore ++ (toBytes state.utilityScore ++
        (toBytes state.attackBuildPointsCenti ++ (toBytes state.defenseBuildPointsCenti ++
          toBytes state.utilityBuildPointsCenti))))),
   (kRecordBuildSlots, 1,
      encodeList encodeText (getInitialBuildSlotLayout.map state.activeBuildSlots)),
   (kRecordBuildMigration, 1,
      toBytes state.buildMigrationVersion ++ (toBytes state.buildMigrationState.toRaw ++
        (toBytes (if state.buildMigrationNotice.needsNotice then 1 else 0 : UInt8) ++
          (toBytes (if state.buildMigrationNotice.legacyRewardsMigrated then 1 else 0 : UInt8) ++
            toBytes state.buildMigrationNotice.unresolvedHistoricalRegistrations)))),
   (kRecordBuildAppliedEffects, 1,
      encodeList encodeTotal state.buildAppliedEffectTotals.toPairs),
   (kRecordRewards, kSerializationVersion, encodeList encodeTotal state.rewardTotals.toPairs),
   (kRecordUndoHistory, kUndoRecordVersion,
      toBytes (UInt32.ofNat state.undoHistory.length) ++ (toBytes state.undoNextActionId ++
        state.undoHistory.flatMap encodeUndoEntry))]

/-! ## The writers write them -/

section Writers

variable {accepts : Nat → Bool}

theorem emits_writeString (text : Text) (error : String) :
    Emits (writeString accepts text error) (encodeText text) := by
  unfold writeString encodeText
  refine (emits_writeRecordData _ _).seq ?_
  by_cases h : UInt32.ofNat text.length = 0
  · rw [if_pos h, if_pos h]
    exact .pure
  · rw [if_neg h, if_neg h]
    exact emits_writeRecordBytes _ _

theorem emits_writeUndoEntry (entry : UndoRecord Float32) :
    Emits (writeUndoEntry accepts entry) (encodeUndoEntry entry) := by
  unfold writeUndoEntry encodeUndoEntry encodeList
  refine (emits_writeRecordData _ _).seq <| (emits_writeRecordData _ _).seq <|
    (emits_writeRecordData _ _).seq <| (emits_writeRecordData _ _).seq <|
    (emits_writeRecordData _ _).seq <| (emits_writeRecordData _ _).seq <|
    (emits_writeRecordData _ _).seq <| (emits_writeRecordData _ _).seq <|
    (emits_writeRecordData _ _).seq <| .forM (fun delta => ?_) _
  exact (emits_writeRecordData _ _).seq (emits_writeRecordData _ _)

theorem writes_saveWriters (state : RuntimeState Float32) :
    List.Forall₂ (fun writer record => Writes writer record.1 record.2.1 record.2.2)
      (saveWriters accepts state) (savedContents state) := by
  have htotals : ∀ (totals : UnorderedMap ActorValue Float32) countError entryError,
      Emits (writeActorValueTotals accepts totals countError entryError)
        (encodeList encodeTotal totals.toPairs) := by
    intro totals countError entryError
    unfold writeActorValueTotals encodeList
    rw [UnorderedMap.length_toPairs]
    refine (emits_writeRecordData _ _).seq (.forM (fun entry => ?_) _)
    exact (emits_writeRecordData _ _).seq (emits_writeRecordData _ _)
  have hformIds : ∀ (formIds : UnorderedSet FormID) countError formIdError,
      Emits (writeFormIdList accepts formIds countError formIdError)
        (encodeList toBytes (formIds.toPairs.map Prod.fst)) := by
    intro formIds countError formIdError
    unfold writeFormIdList encodeList
    rw [List.length_map, UnorderedMap.length_toPairs, List.flatMap_map]
    exact (emits_writeRecordData _ _).seq (.forM (fun entry => emits_writeRecordData _ _) _)
  refine .cons ?_ <| .cons ?_ <| .cons ?_ <| .cons ?_ <| .cons ?_ <| .cons ?_ <| .cons ?_ <|
    .cons ?_ <| .cons ?_ .nil
  · refine Emits.openRecord ?_
    unfold encodeList
    rw [UnorderedMap.length_toPairs]
    refine (emits_writeRecordData _ _).seq (.forM (fun entry => ?_) _)
    exact (emits_writeRecordData _ _).seq (emits_writeRecordData _ _)
  · exact (hformIds _ _ _).openRecord
  · exact (hformIds _ _ _).openRecord
  · exact ((emits_writeRecordData _ _).seq <| (emits_writeRecordData _ _).seq <|
      (emits_writeRecordData _ _).seq <| (emits_writeRecordData _ _).seq <|
      (emits_writeRecordData _ _).seq <| emits_writeRecordData _ _).openRecord
  · refine Emits.openRecord ?_
    unfold encodeList
    rw [List.flatMap_map]
    exact (emits_writeRecordData _ _).seq (.forM (fun slotId => emits_writeString _ _) _)
  · exact ((emits_writeRecordData _ _).seq <| (emits_writeRecordData _ _).seq <|
      (emits_writeRecordData _ _).seq <| (emits_writeRecordData _ _).seq <|
      emits_writeRecordData _ _).openRecord
  · exact (htotals _ _ _).openRecord
  · exact (htotals _ _ _).openRecord
  · exact ((emits_writeRecordData _ _).seq <| (emits_writeRecordData _ _).seq <|
      .forM emits_writeUndoEntry _).openRecord

/-- When every writer succeeds, the host has exactly their records, newest first. -/
theorem executeAllSaveWriters_records {writers : List (SaveM Unit)}
    {contents : List (UInt32 × UInt32 × Bytes)}
    (hwrites : List.Forall₂ (fun writer record => Writes writer record.1 record.2.1 record.2.2)
      writers contents) {w w' : Writer} (h : executeAllSaveWriters writers w = (true, w')) :
    ∃ added : List WrittenRecord, w'.records = added.reverse ++ w.records ∧
      added.map (fun r => (r.type, r.version, r.contents)) = contents := by
  induction hwrites generalizing w with
  | nil =>
    cases h
    exact ⟨[], rfl, rfl⟩
  | @cons writer record writers contents hwriter _ ih =>
    unfold executeAllSaveWriters at h
    cases hrun : writer w with
    | error e w₁ => rw [hrun] at h; cases h
    | ok u w₁ =>
      rw [hrun] at h
      obtain ⟨r, htype, hversion, hbytes, hadded⟩ := hwriter w w₁ hrun
      obtain ⟨added, hrecords, hmap⟩ := ih h
      refine ⟨r :: added, ?_, ?_⟩
      · rw [hrecords, hadded, List.reverse_cons, List.append_assoc]
        rfl
      · rw [List.map_cons, hmap, htype, hversion, hbytes]

/-- The records of a successful save, and that each of them fits. -/
theorem save_contents {state : RuntimeState Float32} {records : List Record}
    (h : save accepts state = (true, records)) :
    records.map (fun r => (r.type, r.version, r.contents)) = savedContents state ∧
      ∀ record ∈ savedContents state, record.2.2.length < 2 ^ 32 := by
  unfold save at h
  cases hall : executeAllSaveWriters (saveWriters accepts (snapshotState state)) {} with
  | mk allOk w =>
    rw [hall] at h
    obtain ⟨rfl, rfl⟩ := Prod.mk.inj h
    obtain ⟨added, hrecords, hmap⟩ :=
      executeAllSaveWriters_records (writes_saveWriters state) hall
    have hreverse : w.records.reverse = added := by
      rw [hrecords, List.append_nil, List.reverse_reverse]
    refine ⟨?_, fun record hrecord => ?_⟩
    · rw [hreverse, List.map_map, ← hmap]
      rfl
    · rw [← hmap] at hrecord
      obtain ⟨r, -, rfl⟩ := List.mem_map.mp hrecord
      exact r.fits

end Writers

/-! ## Reading the bytes back -/

section Decode

def decodeContents (resolveFormID : FormIDResolver) :
    List (UInt32 × UInt32 × Bytes) → Snapshot Float32 → Option (Snapshot Float32)
  | [], loaded => some loaded
  | (type, version, bytes) :: rest, loaded =>
    ((recordParser resolveFormID type version loaded bytes).map Prod.fst).bind
      (decodeContents resolveFormID rest)

theorem decodeRecords_eq (resolveFormID : FormIDResolver) (records : List Record)
    (loaded : Snapshot Float32) :
    decodeRecords resolveFormID records loaded =
      decodeContents resolveFormID (records.map fun r => (r.type, r.version, r.contents))
        loaded := by
  induction records generalizing loaded with
  | nil => rfl
  | cons record records ih =>
    unfold decodeRecords decodeRecord
    rw [List.map_cons, decodeContents]
    exact congrArg _ (funext ih)

/-- The number of elements is bounded by the number of bytes. -/
theorem length_le_of_encodeList {α : Type} {encode : α → Bytes}
    (hpos : ∀ x, 0 < (encode x).length) (xs : List α) :
    xs.length ≤ (xs.flatMap encode).length := by
  induction xs with
  | nil => exact Nat.le_refl _
  | cons x xs ih =>
    rw [List.flatMap_cons, List.length_append, List.length_cons]
    have := hpos x
    omega

/-- A list that fits into a record has a length its count can hold. -/
theorem toNat_length_of_fits {α : Type} {encode : α → Bytes} {xs : List α}
    (hpos : ∀ x, 0 < (encode x).length) (hfits : (encodeList encode xs).length < 2 ^ 32) :
    (UInt32.ofNat xs.length).toNat = xs.length := by
  rw [UInt32.toNat_ofNat']
  refine Nat.mod_eq_of_lt (Nat.lt_of_le_of_lt ?_ hfits)
  rw [encodeList, List.length_append]
  exact Nat.le_trans (length_le_of_encodeList hpos xs) (Nat.le_add_left _ _)

/-- A list record reads back, entry by entry. -/
theorem listParser_encodeList {α β : Type} {entry : Parser β} {encode : α → Bytes}
    {decode : α → β} {least : Nat} (xs : List α) (hleast : 0 < least)
    (hlen : ∀ x, least ≤ (encode x).length)
    (hentry : ∀ x ∈ xs, ∀ rest, entry (encode x ++ rest) = some (decode x, rest))
    (hfits : (encodeList encode xs).length < 2 ^ 32) :
    listParser least entry (encodeList encode xs) = some (xs.map decode, []) := by
  have hcount : (UInt32.ofNat xs.length).toNat = xs.length :=
    toNat_length_of_fits (fun x => Nat.lt_of_lt_of_le hleast (hlen x)) hfits
  have hentries := Parser.upTo_flatMap xs (fun x _ => hlen x) hentry []
  rw [List.append_nil] at hentries
  unfold listParser encodeList
  rw [Parser.value_bind, hcount, Parser.bind_eq hentries]
  rfl

theorem pairParser_encodePair {α β : Type} [TriviallyCopyable α] [TriviallyCopyable β]
    (entry : α × β) (rest : Bytes) :
    pairParser α β (encodePair entry ++ rest) = some (entry, rest) := by
  unfold pairParser encodePair
  rw [List.append_assoc, Parser.value_bind, Parser.value_bind]
  rfl

theorem le_length_encodePair (entry : FormID × UInt32) : 8 ≤ (encodePair entry).length := by
  rw [encodePair, List.length_append, length_toBytes, length_toBytes]
  exact Nat.le_refl 8

theorem le_length_encodeTotal (entry : ActorValue × Float32) : 8 ≤ (encodeTotal entry).length := by
  rw [encodeTotal, List.length_append, length_toBytes, length_toBytes]
  exact Nat.le_refl 8

theorem totalParser_encodeTotal (entry : ActorValue × Float32) (rest : Bytes) :
    totalParser (encodeTotal entry ++ rest) = some (entry, rest) := by
  unfold totalParser encodeTotal
  rw [List.append_assoc, Parser.value_bind, Parser.value_bind]
  rfl

theorem textParser_encodeText {text : Text} (h : text.length < 2 ^ 32) (rest : Bytes) :
    textParser (encodeText text ++ rest) =
      some (text.take kMaxSerializedBuildSlotStringLength.toNat, rest) := by
  have hlength : (UInt32.ofNat text.length).toNat = text.length := by
    rw [UInt32.toNat_ofNat', Nat.mod_eq_of_lt h]
  -- nothing is written for an empty text, which is the text itself
  have hbytes : (if UInt32.ofNat text.length = 0 then [] else text) = text := by
    split_ifs with hzero
    · rw [hzero] at hlength
      exact (List.eq_nil_of_length_eq_zero hlength.symm).symm
    · rfl
  unfold textParser encodeText
  rw [hbytes, List.append_assoc, Parser.value_bind, hlength,
    Parser.bind_eq (Parser.take_append text rest)]
  rfl

theorem rewardDeltaParser_encode (entry : RewardDelta Float32) (rest : Bytes) :
    rewardDeltaParser (encodeRewardDelta entry ++ rest) = some (entry, rest) := by
  unfold rewardDeltaParser encodeRewardDelta
  rw [List.append_assoc, Parser.value_bind, Parser.value_bind]
  rfl

/-- An undo record as the reader limits it. -/
def keptUndoRecord (record : UndoRecord Float32) : UndoRecord Float32 :=
  { record with rewardDeltas := keptRewardDeltas record.rewardDeltas }

theorem undoEntryParser_encode {entry : UndoRecord Float32}
    (h : entry.rewardDeltas.length < 2 ^ 32) (rest : Bytes) :
    undoEntryParser kUndoRecordVersion (encodeUndoEntry entry ++ rest) =
      some (keptUndoRecord entry, rest) := by
  have hcount : (UInt32.ofNat entry.rewardDeltas.length).toNat = entry.rewardDeltas.length := by
    rw [UInt32.toNat_ofNat', Nat.mod_eq_of_lt h]
  have hdeltas : Parser.upTo 8 rewardDeltaParser entry.rewardDeltas.length
      (entry.rewardDeltas.flatMap encodeRewardDelta ++ rest) = some (entry.rewardDeltas, rest) := by
    have h8 : ∀ delta ∈ entry.rewardDeltas, 8 ≤ (encodeRewardDelta delta).length := by
      intro delta _
      rw [encodeRewardDelta, List.length_append, length_toBytes, length_toBytes]
      exact Nat.le_refl 8
    rw [Parser.upTo_flatMap entry.rewardDeltas h8 fun delta _ => rewardDeltaParser_encode delta,
      List.map_id']
  have hcontribution : ∀ tail : Bytes, contributionParser kUndoRecordVersion
      (toBytes (if entry.buildContribution.isSome then 1 else 0 : UInt32) ++
        (toBytes (if entry.buildContribution.isSome then
            (entry.buildContribution.getD {}).discipline.toRaw else 0) ++
          (toBytes (entry.buildContribution.getD {}).recordDelta ++
            (toBytes (entry.buildContribution.getD {}).pointsDeltaCenti ++ tail)))) =
      some (entry.buildContribution, tail) := by
    intro tail
    unfold contributionParser
    rw [if_pos (by decide), Parser.value_bind, Parser.value_bind, Parser.value_bind,
      if_pos (by decide), Parser.value_bind]
    cases entry.buildContribution with
    | none => rfl
    | some c =>
      simp only [Option.isSome_some, if_true, Option.getD_some, BuildDiscipline.ofRaw_toRaw]
      rfl
  unfold undoEntryParser encodeUndoEntry encodeList
  simp only [List.append_assoc]
  rw [Parser.value_bind, Parser.value_bind, Parser.value_bind, Parser.value_bind,
    Parser.bind_eq (hcontribution _), Parser.value_bind, hcount, Parser.bind_eq hdeltas]
  rfl

/-! ## The whole save -/

/-- What no reachable state exceeds, and what the length fields of a save rely on. -/
structure Storable (state : RuntimeState Float32) : Prop where
  slots : ∀ slotId, (state.activeBuildSlots slotId).length < 2 ^ 32
  rewardDeltas : ∀ record ∈ state.undoHistory, record.rewardDeltas.length < 2 ^ 32

/-- Every stored form id resolves to itself. -/
structure ResolvesStored (resolveFormID : FormIDResolver) (state : RuntimeState Float32) :
    Prop where
  registered : ∀ entry ∈ state.registeredItems.toPairs, resolveFormID entry.1 = some entry.1
  blocked : ∀ entry ∈ state.blockedItems.toPairs, resolveFormID entry.1 = some entry.1
  notified : ∀ entry ∈ state.notifiedItems.toPairs, resolveFormID entry.1 = some entry.1
  undo : ∀ record ∈ state.undoHistory,
    resolveFormID record.regKey = some record.regKey ∧
      resolveFormID record.formId = some record.formId

theorem resolvesStored_some (state : RuntimeState Float32) : ResolvesStored some state :=
  ⟨fun _ _ => rfl, fun _ _ => rfl, fun _ _ => rfl, fun _ _ => ⟨rfl, rfl⟩⟩

/-- The snapshot a reader makes of a saved state. -/
def reloaded (state : RuntimeState Float32) : Snapshot Float32 :=
  let undoHistory := trimHistory (state.undoHistory.map keptUndoRecord)
  { state with
    registeredItems := UnorderedMap.emplaceAll state.registeredItems.toPairs ∅
    blockedItems := UnorderedMap.emplaceAll state.blockedItems.toPairs ∅
    notifiedItems := UnorderedMap.emplaceAll state.notifiedItems.toPairs ∅
    rewardTotals := UnorderedMap.insertAll
      (keptTotals isSupportedRewardActorValue
        (state.rewardTotals.toPairs.take kMaxSerializedRewardEntries.toNat)) ∅
    buildAppliedEffectTotals := UnorderedMap.insertAll
      (keptTotals isSupportedBuildEffectActorValue state.buildAppliedEffectTotals.toPairs) ∅
    activeBuildSlots := fun slotId =>
      (state.activeBuildSlots slotId).take kMaxSerializedBuildSlotStringLength.toNat
    undoHistory := undoHistory
    undoNextActionId := nextActionIdOf undoHistory state.undoNextActionId }

section Records

variable {resolveFormID : FormIDResolver} {state : RuntimeState Float32}
  (loaded : Snapshot Float32)

theorem resolveKeys_self {ν : Type} {entries : List (FormID × ν)}
    (h : ∀ entry ∈ entries, resolveFormID entry.1 = some entry.1) :
    resolveKeys resolveFormID entries = entries := by
  unfold resolveKeys
  refine (List.filterMap_congr fun entry hentry => ?_).trans List.filterMap_some
  rw [h entry hentry]
  rfl

theorem addFormIds_self {formIds : UnorderedSet FormID} (m : UnorderedSet FormID)
    (h : ∀ entry ∈ formIds.toPairs, resolveFormID entry.1 = some entry.1) :
    addFormIds resolveFormID m (formIds.toPairs.map Prod.fst) =
      UnorderedMap.emplaceAll formIds.toPairs m := by
  have hresolved : (formIds.toPairs.map Prod.fst).filterMap resolveFormID =
      formIds.toPairs.map Prod.fst := by
    rw [List.filterMap_map]
    refine (List.filterMap_congr fun entry hentry => ?_).trans (congrFun List.filterMap_eq_map _)
    exact h entry hentry
  unfold addFormIds
  rw [hresolved, List.map_map]
  refine congrArg (UnorderedMap.emplaceAll · m) ((List.map_congr_left fun entry _ => ?_).trans
    (List.map_id _))
  rfl

theorem decode_registered (hresolve : ResolvesStored resolveFormID state)
    (hfits : (encodeList encodePair state.registeredItems.toPairs).length < 2 ^ 32) :
    recordParser resolveFormID kRecordRegisteredItems kSerializationVersion loaded
        (encodeList encodePair state.registeredItems.toPairs) =
      some ({ loaded with registeredItems :=
        loaded.registeredItems.emplaceAll state.registeredItems.toPairs }, []) := by
  have hlist : listParser (registeredEntrySize 2) (registeredEntryParser 2)
      (encodeList encodePair state.registeredItems.toPairs) =
        some (state.registeredItems.toPairs, []) :=
    (listParser_encodeList state.registeredItems.toPairs (by decide) le_length_encodePair
      (fun entry _ => pairParser_encodePair entry) hfits).trans (by rw [List.map_id'])
  show decodeRegisteredItems resolveFormID 2 loaded _ = _
  unfold decodeRegisteredItems
  rw [if_pos (.inr rfl), Parser.bind_eq hlist, resolveKeys_self hresolve.registered]
  rfl

theorem listParser_formIds {formIds : UnorderedSet FormID}
    (hfits : (encodeList toBytes (formIds.toPairs.map Prod.fst)).length < 2 ^ 32) :
    listParser 4 (Parser.value FormID) (encodeList toBytes (formIds.toPairs.map Prod.fst)) =
      some (formIds.toPairs.map Prod.fst, []) :=
  (listParser_encodeList (formIds.toPairs.map Prod.fst) (by decide)
    (fun formId => (length_toBytes formId).ge) (fun formId _ => Parser.value_toBytes formId)
    hfits).trans (by rw [List.map_id'])

theorem decode_blocked (hresolve : ResolvesStored resolveFormID state)
    (hfits : (encodeList toBytes (state.blockedItems.toPairs.map Prod.fst)).length < 2 ^ 32) :
    recordParser resolveFormID kRecordBlockedItems kSerializationVersion loaded
        (encodeList toBytes (state.blockedItems.toPairs.map Prod.fst)) =
      some ({ loaded with blockedItems :=
        loaded.blockedItems.emplaceAll state.blockedItems.toPairs }, []) := by
  show decodeFormIdList resolveFormID kRecordBlockedItems loaded _ = _
  unfold decodeFormIdList
  rw [Parser.bind_eq (listParser_formIds hfits), if_pos rfl, addFormIds_self _ hresolve.blocked]
  rfl

theorem decode_notified (hresolve : ResolvesStored resolveFormID state)
    (hfits : (encodeList toBytes (state.notifiedItems.toPairs.map Prod.fst)).length < 2 ^ 32) :
    recordParser resolveFormID kRecordNotifiedItems kSerializationVersion loaded
        (encodeList toBytes (state.notifiedItems.toPairs.map Prod.fst)) =
      some ({ loaded with notifiedItems :=
        loaded.notifiedItems.emplaceAll state.notifiedItems.toPairs }, []) := by
  show decodeFormIdList resolveFormID kRecordNotifiedItems loaded _ = _
  unfold decodeFormIdList
  rw [Parser.bind_eq (listParser_formIds hfits), if_neg (by decide),
    addFormIds_self _ hresolve.notified]
  rfl

theorem decode_buildScores :
    recordParser resolveFormID kRecordBuildScores 2 loaded
        (toBytes state.attackScore ++ (toBytes state.defenseScore ++ (toBytes state.utilityScore ++
          (toBytes state.attackBuildPointsCenti ++ (toBytes state.defenseBuildPointsCenti ++
            toBytes state.utilityBuildPointsCenti))))) =
      some ({ loaded with
        attackScore := state.attackScore
        defenseScore := state.defenseScore
        utilityScore := state.utilityScore
        attackBuildPointsCenti := state.attackBuildPointsCenti
        defenseBuildPointsCenti := state.defenseBuildPointsCenti
        utilityBuildPointsCenti := state.utilityBuildPointsCenti }, []) := by
  show decodeBuildScores 2 loaded _ = _
  unfold decodeBuildScores
  rw [if_neg (by decide), Parser.value_bind, Parser.value_bind, Parser.value_bind,
    if_pos (by decide), Parser.value_bind, Parser.value_bind,
    ← List.append_nil (toBytes state.utilityBuildPointsCenti), Parser.value_bind]
  rfl

theorem decode_buildSlots (hslots : ∀ slotId, (state.activeBuildSlots slotId).length < 2 ^ 32)
    (hfits : (encodeList encodeText
      (getInitialBuildSlotLayout.map state.activeBuildSlots)).length < 2 ^ 32) :
    recordParser resolveFormID kRecordBuildSlots 1 loaded
        (encodeList encodeText (getInitialBuildSlotLayout.map state.activeBuildSlots)) =
      some ({ loaded with activeBuildSlots := fun slotId =>
        (state.activeBuildSlots slotId).take kMaxSerializedBuildSlotStringLength.toNat }, []) := by
  have htexts : ∀ text ∈ getInitialBuildSlotLayout.map state.activeBuildSlots,
      ∀ rest, textParser (encodeText text ++ rest) =
        some (text.take kMaxSerializedBuildSlotStringLength.toNat, rest) := by
    intro text htext
    obtain ⟨slotId, -, rfl⟩ := List.mem_map.mp htext
    exact textParser_encodeText (hslots slotId)
  have hlist := listParser_encodeList _ Nat.one_pos
    (fun text => by
      rw [encodeText, List.length_append, length_toBytes]
      exact Nat.le_add_right_of_le (by decide))
    htexts hfits
  show decodeBuildSlots 1 loaded _ = _
  unfold decodeBuildSlots
  rw [if_neg (by decide), Parser.bind_eq hlist]
  refine congrArg (fun slots => some ({ loaded with activeBuildSlots := slots }, []))
    (funext fun slotId => ?_)
  cases slotId <;> rfl

theorem decode_buildMigration :
    recordParser resolveFormID kRecordBuildMigration 1 loaded
        (toBytes state.buildMigrationVersion ++ (toBytes state.buildMigrationState.toRaw ++
          (toBytes (if state.buildMigrationNotice.needsNotice then 1 else 0 : UInt8) ++
            (toBytes (if state.buildMigrationNotice.legacyRewardsMigrated then 1 else 0 : UInt8) ++
              toBytes state.buildMigrationNotice.unresolvedHistoricalRegistrations)))) =
      some ({ loaded with
        buildMigrationVersion := state.buildMigrationVersion
        buildMigrationState := state.buildMigrationState
        buildMigrationNotice := state.buildMigrationNotice }, []) := by
  have hflag : ∀ flag : Bool, decide ((if flag then 1 else 0 : UInt8) ≠ 0) = flag := by decide
  show decodeBuildMigration 1 loaded _ = _
  unfold decodeBuildMigration
  rw [if_neg (by decide), Parser.value_bind, Parser.value_bind, Parser.value_bind,
    Parser.value_bind,
    ← List.append_nil (toBytes state.buildMigrationNotice.unresolvedHistoricalRegistrations),
    Parser.value_bind, BuildMigrationState.ofRaw_toRaw, hflag, hflag]
  rfl

theorem decode_buildAppliedEffects
    (hfits : (encodeList encodeTotal state.buildAppliedEffectTotals.toPairs).length < 2 ^ 32) :
    recordParser resolveFormID kRecordBuildAppliedEffects 1 loaded
        (encodeList encodeTotal state.buildAppliedEffectTotals.toPairs) =
      some ({ loaded with buildAppliedEffectTotals :=
        loaded.buildAppliedEffectTotals.insertAll (keptTotals isSupportedBuildEffectActorValue
          state.buildAppliedEffectTotals.toPairs) }, []) := by
  have hlist : listParser 8 totalParser
      (encodeList encodeTotal state.buildAppliedEffectTotals.toPairs) =
        some (state.buildAppliedEffectTotals.toPairs, []) :=
    (listParser_encodeList _ (by decide) le_length_encodeTotal
      (fun entry _ => totalParser_encodeTotal entry) hfits).trans (by rw [List.map_id'])
  show decodeBuildAppliedEffects 1 loaded _ = _
  unfold decodeBuildAppliedEffects
  rw [if_neg (by decide), Parser.bind_eq hlist]
  rfl

/-- The reader takes the first 256 reward totals. -/
theorem decode_rewards
    (hfits : (encodeList encodeTotal state.rewardTotals.toPairs).length < 2 ^ 32) :
    recordParser resolveFormID kRecordRewards kSerializationVersion loaded
        (encodeList encodeTotal state.rewardTotals.toPairs) =
      some ({ loaded with rewardTotals :=
        loaded.rewardTotals.insertAll (keptTotals isSupportedRewardActorValue
          (state.rewardTotals.toPairs.take kMaxSerializedRewardEntries.toNat)) }, []) := by
  generalize hpairs : state.rewardTotals.toPairs = pairs at hfits ⊢
  have hcount : (UInt32.ofNat pairs.length).toNat = pairs.length :=
    toNat_length_of_fits (fun entry => Nat.lt_of_lt_of_le (by decide) (le_length_encodeTotal entry))
      hfits
  have hmin : (min (UInt32.ofNat pairs.length) kMaxSerializedRewardEntries).toNat =
      (pairs.take kMaxSerializedRewardEntries.toNat).length := by
    rw [UInt32.toNat_min, hcount, List.length_take, Nat.min_comm]
  -- what lies behind the entries that are taken is the rest of the entries
  have hbytes : pairs.flatMap encodeTotal =
      (pairs.take kMaxSerializedRewardEntries.toNat).flatMap encodeTotal ++
        (pairs.drop kMaxSerializedRewardEntries.toNat).flatMap encodeTotal := by
    rw [← List.flatMap_append, List.take_append_drop]
  have hentries := Parser.upTo_flatMap (pairs.take kMaxSerializedRewardEntries.toNat)
    (fun entry _ => le_length_encodeTotal entry) (fun entry _ => totalParser_encodeTotal entry)
    ((pairs.drop kMaxSerializedRewardEntries.toNat).flatMap encodeTotal)
  show decodeRewards loaded _ = _
  unfold decodeRewards encodeList
  rw [Parser.value_bind, hmin, hbytes, Parser.bind_eq hentries, List.map_id']
  rfl

theorem le_length_encodeUndoEntry (entry : UndoRecord Float32) :
    undoEntryLeast kUndoRecordVersion ≤ (encodeUndoEntry entry).length := by
  have h64 : sizeof UInt64 = 8 := rfl
  have h32 : sizeof UInt32 = 4 := rfl
  have hi32 : sizeof Int32 = 4 := rfl
  show 40 ≤ _
  unfold encodeUndoEntry encodeList
  simp only [List.length_append, length_toBytes, h64, h32, hi32]
  omega

theorem resolveUndoRecord_kept (hresolve : ResolvesStored resolveFormID state)
    {record : UndoRecord Float32} (h : record ∈ state.undoHistory) :
    resolveUndoRecord resolveFormID (keptUndoRecord record) = some (keptUndoRecord record) := by
  have hregKey : resolveFormID (keptUndoRecord record).regKey = some record.regKey :=
    (hresolve.undo record h).1
  have hformId : resolveFormID (keptUndoRecord record).formId = some record.formId :=
    (hresolve.undo record h).2
  unfold resolveUndoRecord
  rw [hregKey, hformId]
  rfl

theorem decode_undoHistory (hresolve : ResolvesStored resolveFormID state)
    (hdeltas : ∀ record ∈ state.undoHistory, record.rewardDeltas.length < 2 ^ 32)
    (hfits : (toBytes (UInt32.ofNat state.undoHistory.length) ++
      (toBytes state.undoNextActionId ++ state.undoHistory.flatMap encodeUndoEntry)).length
        < 2 ^ 32) :
    recordParser resolveFormID kRecordUndoHistory kUndoRecordVersion loaded
        (toBytes (UInt32.ofNat state.undoHistory.length) ++ (toBytes state.undoNextActionId ++
          state.undoHistory.flatMap encodeUndoEntry)) =
      some ({ loaded with
        undoHistory := trimHistory (state.undoHistory.map keptUndoRecord)
        undoNextActionId := nextActionIdOf (trimHistory (state.undoHistory.map keptUndoRecord))
          state.undoNextActionId }, []) := by
  have hpos : ∀ entry : UndoRecord Float32, 0 < (encodeUndoEntry entry).length :=
    fun entry => Nat.lt_of_lt_of_le (by decide) (le_length_encodeUndoEntry entry)
  have hcount : (UInt32.ofNat state.undoHistory.length).toNat = state.undoHistory.length := by
    rw [UInt32.toNat_ofNat']
    refine Nat.mod_eq_of_lt (Nat.lt_of_le_of_lt ?_ hfits)
    rw [List.length_append, List.length_append]
    have := length_le_of_encodeList hpos state.undoHistory
    omega
  have hentries := Parser.upTo_flatMap state.undoHistory
    (fun entry _ => le_length_encodeUndoEntry entry)
    (fun entry hentry => undoEntryParser_encode (hdeltas entry hentry)) []
  rw [List.append_nil] at hentries
  have hresolved : (state.undoHistory.map keptUndoRecord).filterMap
      (resolveUndoRecord resolveFormID) = state.undoHistory.map keptUndoRecord := by
    rw [List.filterMap_map]
    refine (List.filterMap_congr fun record hrecord => ?_).trans
      (congrFun List.filterMap_eq_map _)
    exact resolveUndoRecord_kept hresolve hrecord
  show decodeUndoHistory resolveFormID kUndoRecordVersion loaded _ = _
  unfold decodeUndoHistory
  rw [Parser.value_bind, Parser.value_bind, hcount, Parser.bind_eq hentries]
  show some (_, _) = _
  rw [hresolved]

end Records

/-- Decoding a successful save gives what the reader makes of the saved state. -/
theorem decode_saved {accepts : Nat → Bool} {resolveFormID : FormIDResolver}
    {state : RuntimeState Float32} {records : List Record} (hstorable : Storable state)
    (hresolve : ResolvesStored resolveFormID state)
    (hsave : save accepts state = (true, records)) :
    decodeRecords resolveFormID records {} = some (reloaded state) := by
  obtain ⟨hcontents, hfits⟩ := save_contents hsave
  rw [decodeRecords_eq, hcontents]
  simp only [savedContents, List.forall_mem_cons] at hfits
  obtain ⟨hregistered, hblocked, hnotified, -, hslots, -, heffects, hrewards, hundo, -⟩ := hfits
  simp only [savedContents, decodeContents,
    decode_registered _ hresolve hregistered, decode_blocked _ hresolve hblocked,
    decode_notified _ hresolve hnotified, decode_buildScores,
    decode_buildSlots _ hstorable.slots hslots, decode_buildMigration,
    decode_buildAppliedEffects _ heffects, decode_rewards _ hrewards,
    decode_undoHistory _ hresolve hstorable.rewardDeltas hundo,
    Option.map_some, Option.bind_some]
  rfl

end Decode

end CodexOfPower.Serialization
