/-
# `CodexOfPower.LoadOrder` — co-saves read under another load order

Between two starts of the game mods come and go, and a form id that was stored may
stand for another id now, or for none.  The reader asks `ResolveFormID` for every id
it meets and passes over those that have no answer.

Whatever the answers are, the state that is read is the saved one moved to the new
ids (`relocate`): what the round trip says of one load order it says of two, with
`relocate resolveFormID state` in the place of the saved state
(`load_relocated`).

## What is not said

Of the answers nothing is assumed here: two ids may be sent to one, and an id to that of
another item.  What follows where the engine keeps its promises is in
`CodexOfPower.Playthroughs`.
-/
import CodexOfPower.OwnSessions

namespace CodexOfPower.Serialization

open RE Builds BuildProgression Registration SerializationStateStore

/-! ## A state under new ids -/

section Relocate

variable (resolveFormID : FormIDResolver)

/-- The state, every form id replaced by what it stands for now. -/
def relocate (state : RuntimeState Float32) : RuntimeState Float32 :=
  { state with
    registeredItems :=
      UnorderedMap.emplaceAll (resolveKeys resolveFormID state.registeredItems.toPairs) ∅
    blockedItems := addFormIds resolveFormID ∅ (state.blockedItems.toPairs.map Prod.fst)
    notifiedItems := addFormIds resolveFormID ∅ (state.notifiedItems.toPairs.map Prod.fst)
    undoHistory := state.undoHistory.filterMap (resolveUndoRecord resolveFormID) }

variable {resolveFormID} {state : RuntimeState Float32}

theorem mem_resolveKeys {ν : Type} {entries : List (FormID × ν)} {k' : FormID} {v : ν} :
    (k', v) ∈ resolveKeys resolveFormID entries ↔
      ∃ k, resolveFormID k = some k' ∧ (k, v) ∈ entries := by
  unfold resolveKeys
  rw [List.mem_filterMap]
  constructor
  · rintro ⟨⟨k, w⟩, hentry, hmap⟩
    obtain ⟨k₁, hresolve, heq⟩ := Option.map_eq_some_iff.mp hmap
    cases heq
    exact ⟨k, hresolve, hentry⟩
  · rintro ⟨k, hresolve, hentry⟩
    exact ⟨(k, v), hentry, Option.map_eq_some_iff.mpr ⟨k', hresolve, rfl⟩⟩

theorem mem_registered_relocate {k' : FormID} :
    k' ∈ (relocate resolveFormID state).registeredItems ↔
      ∃ k ∈ state.registeredItems, resolveFormID k = some k' := by
  show k' ∈ UnorderedMap.emplaceAll _ ∅ ↔ _
  rw [UnorderedMap.mem_emplaceAll, or_iff_left (AList.notMem_empty k'), List.mem_map]
  constructor
  · rintro ⟨⟨k₁, group⟩, hmem, rfl⟩
    obtain ⟨k, hresolve, hentry⟩ := mem_resolveKeys.mp hmem
    exact ⟨k, UnorderedMap.mem_of_lookup (UnorderedMap.mem_toPairs.mp hentry), hresolve⟩
  · rintro ⟨k, hmem, hresolve⟩
    obtain ⟨group, hlookup⟩ := Option.isSome_iff_exists.mp (AList.lookup_isSome.mpr hmem)
    exact ⟨(k', group),
      mem_resolveKeys.mpr ⟨k, hresolve, UnorderedMap.mem_toPairs.mpr hlookup⟩, rfl⟩

/-- A key comes with the group of a key it stood for. -/
theorem lookup_registered_relocate {k' : FormID} {group : UInt32}
    (h : (relocate resolveFormID state).registeredItems.lookup k' = some group) :
    ∃ k, resolveFormID k = some k' ∧ state.registeredItems.lookup k = some group := by
  rcases UnorderedMap.mem_of_lookup_emplaceAll h with hmem | hempty
  · obtain ⟨k, hresolve, hentry⟩ := mem_resolveKeys.mp hmem
    exact ⟨k, hresolve, UnorderedMap.mem_toPairs.mp hentry⟩
  · rw [UnorderedMap.lookup_empty] at hempty
    cases hempty

theorem mem_addFormIds {formIds : UnorderedSet FormID} {k' : FormID} :
    k' ∈ addFormIds resolveFormID ∅ (formIds.toPairs.map Prod.fst) ↔
      ∃ k ∈ formIds, resolveFormID k = some k' := by
  unfold addFormIds
  rw [UnorderedMap.mem_emplaceAll, or_iff_left (AList.notMem_empty k'), List.map_map]
  have hfst : (List.map (Prod.fst ∘ fun formId : FormID => (formId, ()))
      ((formIds.toPairs.map Prod.fst).filterMap resolveFormID)) =
        (formIds.toPairs.map Prod.fst).filterMap resolveFormID := List.map_id _
  rw [hfst, List.mem_filterMap]
  constructor
  · rintro ⟨k, hmem, hresolve⟩
    exact ⟨k, UnorderedMap.mem_map_toPairs.mp hmem, hresolve⟩
  · rintro ⟨k, hmem, hresolve⟩
    exact ⟨k, UnorderedMap.mem_map_toPairs.mpr hmem, hresolve⟩

/-- A record that is kept, with its ids replaced. -/
theorem resolveUndoRecord_eq_some {record record' : UndoRecord Float32}
    (h : resolveUndoRecord resolveFormID record = some record') :
    ∃ regKey formId, resolveFormID record.regKey = some regKey ∧
      resolveFormID record.formId = some formId ∧ record' = { record with regKey, formId } := by
  unfold resolveUndoRecord at h
  cases hregKey : resolveFormID record.regKey with
  | none => rw [hregKey] at h; cases h
  | some regKey =>
    cases hformId : resolveFormID record.formId with
    | none => rw [hregKey, hformId] at h; cases h
    | some formId =>
      rw [hregKey, hformId] at h
      cases h
      exact ⟨regKey, formId, rfl, rfl, rfl⟩

/-- What `relocate` does not name stays within the limits of the reader. -/
theorem Readable.relocate (h : Readable state) : Readable (relocate resolveFormID state) where
  slotLength := h.slotLength
  historyLength := (List.length_filterMap_le _ _).trans h.historyLength
  rewardDeltas record hrecord := by
    obtain ⟨record₀, hmem, hresolve⟩ := List.mem_filterMap.mp hrecord
    obtain ⟨regKey, formId, -, -, rfl⟩ := resolveUndoRecord_eq_some hresolve
    exact h.rewardDeltas record₀ hmem
  rewardTotals := h.rewardTotals

theorem Restorable.relocate (h : Restorable state) :
    Restorable (relocate resolveFormID state) where
  toReadable := h.toReadable.relocate
  slotCurrent := h.slotCurrent
  slotsPending := h.slotsPending
  deltasComplete hcomplete record hrecord := by
    obtain ⟨record₀, hmem, hresolve⟩ := List.mem_filterMap.mp hrecord
    obtain ⟨regKey, formId, -, -, rfl⟩ := resolveUndoRecord_eq_some hresolve
    exact h.deltasComplete hcomplete record₀ hmem

end Relocate

/-! ## What a reader makes of the records -/

section Decode

variable {resolveFormID : FormIDResolver} {state : RuntimeState Float32}

theorem decode_registered_relocate (loaded : Snapshot Float32)
    (hfits : (encodeList encodePair state.registeredItems.toPairs).length < 2 ^ 32) :
    recordParser resolveFormID kRecordRegisteredItems kSerializationVersion loaded
        (encodeList encodePair state.registeredItems.toPairs) =
      some ({ loaded with
        registeredItems := loaded.registeredItems.emplaceAll
          (resolveKeys resolveFormID state.registeredItems.toPairs) }, []) := by
  have hlist : listParser (registeredEntrySize 2) (registeredEntryParser 2)
      (encodeList encodePair state.registeredItems.toPairs) =
        some (state.registeredItems.toPairs, []) :=
    (listParser_encodeList state.registeredItems.toPairs (by decide) le_length_encodePair
      (fun entry _ => pairParser_encodePair entry) hfits).trans (by rw [List.map_id'])
  show decodeRegisteredItems resolveFormID 2 loaded _ = _
  unfold decodeRegisteredItems
  rw [if_pos (.inr rfl), Parser.bind_eq hlist]
  rfl

theorem decode_blocked_relocate (loaded : Snapshot Float32)
    (hfits : (encodeList toBytes (state.blockedItems.toPairs.map Prod.fst)).length < 2 ^ 32) :
    recordParser resolveFormID kRecordBlockedItems kSerializationVersion loaded
        (encodeList toBytes (state.blockedItems.toPairs.map Prod.fst)) =
      some ({ loaded with
        blockedItems := addFormIds resolveFormID loaded.blockedItems
          (state.blockedItems.toPairs.map Prod.fst) }, []) := by
  show decodeFormIdList resolveFormID kRecordBlockedItems loaded _ = _
  unfold decodeFormIdList
  rw [Parser.bind_eq (listParser_formIds hfits), if_pos rfl]
  rfl

theorem decode_notified_relocate (loaded : Snapshot Float32)
    (hfits : (encodeList toBytes (state.notifiedItems.toPairs.map Prod.fst)).length < 2 ^ 32) :
    recordParser resolveFormID kRecordNotifiedItems kSerializationVersion loaded
        (encodeList toBytes (state.notifiedItems.toPairs.map Prod.fst)) =
      some ({ loaded with
        notifiedItems := addFormIds resolveFormID loaded.notifiedItems
          (state.notifiedItems.toPairs.map Prod.fst) }, []) := by
  show decodeFormIdList resolveFormID kRecordNotifiedItems loaded _ = _
  unfold decodeFormIdList
  rw [Parser.bind_eq (listParser_formIds hfits), if_neg (by decide)]
  rfl

theorem decode_undoHistory_relocate (loaded : Snapshot Float32) (hreadable : Readable state) :
    recordParser resolveFormID kRecordUndoHistory kUndoRecordVersion loaded
        (toBytes (UInt32.ofNat state.undoHistory.length) ++ (toBytes state.undoNextActionId ++
          state.undoHistory.flatMap encodeUndoEntry)) =
      some ({ loaded with
        undoHistory := (relocate resolveFormID state).undoHistory
        undoNextActionId := nextActionIdOf (relocate resolveFormID state).undoHistory
          state.undoNextActionId }, []) := by
  have hcount : (UInt32.ofNat state.undoHistory.length).toNat = state.undoHistory.length := by
    rw [UInt32.toNat_ofNat', Nat.mod_eq_of_lt]
    exact Nat.lt_of_le_of_lt hreadable.historyLength (by decide)
  have hentries := Parser.upTo_flatMap state.undoHistory
    (fun entry _ => le_length_encodeUndoEntry entry)
    (fun entry hentry => undoEntryParser_encode (hreadable.storable.rewardDeltas entry hentry)) []
  rw [List.append_nil] at hentries
  -- the reader keeps every record as it is, and trims nothing
  have hkept : state.undoHistory.map keptUndoRecord = state.undoHistory := by
    refine (List.map_congr_left fun record hrecord => ?_).trans (List.map_id _)
    rw [keptUndoRecord, hreadable.rewardDeltas record hrecord]
    rfl
  have htrim : trimHistory (state.undoHistory.filterMap (resolveUndoRecord resolveFormID)) =
      (relocate resolveFormID state).undoHistory :=
    trimHistory_of_le hreadable.relocate.historyLength
  show decodeUndoHistory resolveFormID kUndoRecordVersion loaded _ = _
  unfold decodeUndoHistory
  rw [Parser.value_bind, Parser.value_bind, hcount, Parser.bind_eq hentries, hkept]
  show some (_, _) = _
  rw [htrim]

variable (resolveFormID state) in
/-- The snapshot a reader makes of a saved state under another load order. -/
def reread : Snapshot Float32 :=
  let moved := relocate resolveFormID state
  { reloaded state with
    registeredItems := moved.registeredItems
    blockedItems := moved.blockedItems
    notifiedItems := moved.notifiedItems
    undoHistory := moved.undoHistory
    undoNextActionId := nextActionIdOf moved.undoHistory state.undoNextActionId }

theorem decode_reread {accepts : Nat → Bool} {records : List Record}
    (hreadable : Readable state) (hsave : save accepts state = (true, records)) :
    decodeRecords resolveFormID records {} = some (reread resolveFormID state) := by
  obtain ⟨hcontents, hfits⟩ := save_contents hsave
  simp only [savedContents, List.forall_mem_cons] at hfits
  obtain ⟨hregistered, hblocked, hnotified, -, hslots, -, heffects, hrewards, -⟩ := hfits
  rw [decodeRecords_eq, hcontents]
  simp only [savedContents, decodeContents,
    decode_registered_relocate _ hregistered, decode_blocked_relocate _ hblocked,
    decode_notified_relocate _ hnotified, decode_buildScores,
    decode_buildSlots _ hreadable.storable.slots hslots, decode_buildMigration,
    decode_buildAppliedEffects _ heffects, decode_rewards _ hrewards,
    decode_undoHistory_relocate _ hreadable, Option.map_some, Option.bind_some]
  rfl

/-- What is read of a saved state is the state under the new ids. -/
theorem Readable.reread (h : Readable state) :
    Restores (Serialization.relocate resolveFormID state) (reread resolveFormID state) where
  registeredItems := .refl _
  blockedItems := .refl _
  notifiedItems := .refl _
  rewardTotals := h.reloaded.rewardTotals
  score := rfl
  pointsCenti := rfl
  activeBuildSlots := h.reloaded.activeBuildSlots
  buildMigrationVersion := rfl
  buildMigrationState := rfl
  buildMigrationNotice := rfl
  undoHistory := rfl

/-- A restorable state of the current version, saved under one load order and loaded
under another. -/
theorem load_relocated {accepts : Nat → Bool} {records : List Record} (h : Restorable state)
    (hversion : kBuildMigrationVersion ≤ state.buildMigrationVersion)
    (hsave : save accepts state = (true, records)) (resolveFormID : FormIDResolver)
    (lookupFormType : FormTypeLookup) (before : RuntimeState Float32) :
    Restores (relocate resolveFormID state)
        (load resolveFormID lookupFormType records before).state ∧
      (load resolveFormID lookupFormType records before).state.undoNextActionId =
        nextActionIdOf (relocate resolveFormID state).undoHistory state.undoNextActionId := by
  rw [load_state, decode_reread h.toReadable hsave]
  exact Restores.normalize h.relocate h.toReadable.reread hversion lookupFormType none

end Decode

/-! ## In a session -/

/-- The loaded state is the saved one as far as its form ids still stand for something:
what is registered, blocked or noticed is what a saved id stands for, with a group that
such an id had; the history keeps the records both ids of which stand for something, in
their order; all else is as it was. -/
structure Relocates (resolveFormID : FormIDResolver) (saved loaded : RuntimeState Float32) :
    Prop where
  registered : ∀ k', k' ∈ loaded.registeredItems ↔
    ∃ k ∈ saved.registeredItems, resolveFormID k = some k'
  group : ∀ k' group, loaded.registeredItems.lookup k' = some group →
    ∃ k, resolveFormID k = some k' ∧ saved.registeredItems.lookup k = some group
  blocked : ∀ k', k' ∈ loaded.blockedItems ↔ ∃ k ∈ saved.blockedItems, resolveFormID k = some k'
  notified : ∀ k', k' ∈ loaded.notifiedItems ↔
    ∃ k ∈ saved.notifiedItems, resolveFormID k = some k'
  rewardTotals : loaded.rewardTotals.Same saved.rewardTotals
  score : loaded.score = saved.score
  pointsCenti : loaded.pointsCenti = saved.pointsCenti
  activeBuildSlots : loaded.activeBuildSlots = saved.activeBuildSlots
  buildMigrationVersion : loaded.buildMigrationVersion = saved.buildMigrationVersion
  buildMigrationState : loaded.buildMigrationState = saved.buildMigrationState
  buildMigrationNotice : loaded.buildMigrationNotice = saved.buildMigrationNotice
  undoHistory : loaded.undoHistory = saved.undoHistory.filterMap fun record =>
    (resolveFormID record.regKey).bind fun regKey =>
      (resolveFormID record.formId).map fun formId => { record with regKey, formId }

theorem resolveUndoRecord_eq (resolveFormID : FormIDResolver) (record : UndoRecord Float32) :
    resolveUndoRecord resolveFormID record =
      (resolveFormID record.regKey).bind fun regKey =>
        (resolveFormID record.formId).map fun formId => { record with regKey, formId } := by
  unfold resolveUndoRecord
  cases resolveFormID record.regKey with
  | none => rfl
  | some regKey => cases resolveFormID record.formId <;> rfl

theorem Restores.relocates {resolveFormID : FormIDResolver} {saved loaded : RuntimeState Float32}
    (h : Restores (relocate resolveFormID saved) loaded) :
    Relocates resolveFormID saved loaded where
  registered k' := (h.registeredItems.mem_iff k').trans mem_registered_relocate
  group k' _ hlookup :=
    lookup_registered_relocate ((h.registeredItems k').symm.trans hlookup)
  blocked k' := (h.blockedItems.mem_iff k').trans mem_addFormIds
  notified k' := (h.notifiedItems.mem_iff k').trans mem_addFormIds
  rewardTotals := h.rewardTotals
  score := h.score
  pointsCenti := h.pointsCenti
  activeBuildSlots := h.activeBuildSlots
  buildMigrationVersion := h.buildMigrationVersion
  buildMigrationState := h.buildMigrationState
  buildMigrationNotice := h.buildMigrationNotice
  undoHistory := h.undoHistory.trans
    (List.filterMap_congr fun record _ => resolveUndoRecord_eq resolveFormID record)

section Session

variable {formTypes : FormID → FormType} {session : Session} {accepts : Nat → Bool}
  {records : List Record}

/-- In any session, with arbitrary co-saves loaded on the way, a state of version 2 that
was saved completely comes back under any load order as `Relocates` says. -/
theorem load_save_relocates
    (hreachable : (Session.system formTypes anyFiles).Reachable session)
    (hversion : session.state.buildMigrationVersion = 2)
    (hsave : save accepts session.state = (true, records))
    (resolveFormID : FormIDResolver) (lookupFormType : FormTypeLookup)
    (before : RuntimeState Float32) :
    Relocates resolveFormID session.state
      (load resolveFormID lookupFormType records (revert before)).state :=
  (load_relocated ((invariant_restorable formTypes anyFiles).reachable hreachable)
    (by rw [hversion]; exact UInt32.le_refl _) hsave resolveFormID lookupFormType
    _).1.relocates

end Session

/-- Of six swords three have moved, and the mod of the others is gone. -/
def fewerSwords : FormIDResolver := fun k => if k ≤ 3 then some (k + 0x1000) else none

theorem load_save_relocates_fewerSwords :
    let loaded := (load fewerSwords (fun _ => none)
      (save (fun _ => true) sixSwords.state).2 (revert {})).state
    loaded.undoHistory.map UndoRecord.regKey = [0x1001, 0x1002, 0x1003] ∧
      Relocates fewerSwords sixSwords.state loaded := by
  have hreachable : (Session.system Session.weapons anyFiles).Reachable sixSwords :=
    (Session.reachable_newGame anyFiles).step (.act _ _)
  have hsave : save (fun _ => true) sixSwords.state =
      (true, (save (fun _ => true) sixSwords.state).2) := save_eq_of_fst (by decide +kernel)
  exact ⟨by decide +kernel,
    load_save_relocates hreachable rfl hsave fewerSwords (fun _ => none) {}⟩

end CodexOfPower.Serialization
