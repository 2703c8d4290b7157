/-
# `CodexOfPower.RestorableStates` — what makes a state restorable, and keeps it so

The reader establishes the first half of `Restorable`, whatever the file says
(`readable_decodeRecords`); normalising establishes the rest (`restorable_normalize`);
no action leaves it (`restorable_perform`).

## What is not said

A state of an older version is not restorable, and need not be: the reader migrates it when
it is loaded, and what comes out is.
-/
import CodexOfPower.RoundTrip
import CodexOfPower.Session

namespace CodexOfPower.Serialization

open RE Builds BuildProgression Registration SerializationStateStore

/-! ## Accepted reward totals -/

section Totals

theorem tryGetRewardCap_cases {av : ActorValue} {cap : Float32}
    (h : Rewards.tryGetRewardCap av = some cap) :
    cap = 1.0 ∨ cap = 50.0 ∨ cap = 85.0 ∨ cap = 80.0 ∨ cap = 0.50 := by
  unfold Rewards.tryGetRewardCap at h
  split_ifs at h <;> cases h <;> simp

/-- A cap is under itself. -/
theorem clampRewardTotal_cap {av : ActorValue} {cap : Float32}
    (h : Rewards.tryGetRewardCap av = some cap) : Rewards.clampRewardTotal av cap = cap := by
  have hclamp : Rewards.clampRewardTotal av cap =
      if !FloatType.isFinite cap then 0.0
      else if cap + Rewards.kRewardCapEpsilon < cap then cap else cap := by
    unfold Rewards.clampRewardTotal
    rw [h]
  rw [hclamp, ite_self]
  rcases tryGetRewardCap_cases h with rfl | rfl | rfl | rfl | rfl <;> rfl

/-- Zero is under every cap. -/
theorem clampRewardTotal_zero (av : ActorValue) :
    Rewards.clampRewardTotal av (0.0 : Float32) = 0.0 := by
  cases h : Rewards.tryGetRewardCap (F := Float32) av with
  | none => simp [Rewards.clampRewardTotal, h]
  | some cap =>
    have hnot : ¬ cap + Rewards.kRewardCapEpsilon < 0.0 := by
      rcases tryGetRewardCap_cases h with rfl | rfl | rfl | rfl | rfl <;> decide
    simp [Rewards.clampRewardTotal, h, hnot]

/-- Clamping twice is clamping once. -/
theorem clampRewardTotal_idem (av : ActorValue) (total : Float32) :
    Rewards.clampRewardTotal av (Rewards.clampRewardTotal av total) =
      Rewards.clampRewardTotal av total := by
  by_cases hfinite : FloatType.isFinite total = true
  · cases hcap : Rewards.tryGetRewardCap (F := Float32) av with
    | none => simp [Rewards.clampRewardTotal, hcap, hfinite]
    | some cap =>
      by_cases hover : cap + Rewards.kRewardCapEpsilon < total
      · have hclamped : Rewards.clampRewardTotal av total = cap := by
          simp [Rewards.clampRewardTotal, hcap, hfinite, hover]
        rw [hclamped, clampRewardTotal_cap hcap]
      · have hclamped : Rewards.clampRewardTotal av total = total := by
          simp [Rewards.clampRewardTotal, hcap, hfinite, hover]
        rw [hclamped, hclamped]
  · have hclamped : Rewards.clampRewardTotal av total = 0.0 := by
      simp [Rewards.clampRewardTotal, hfinite]
    rw [hclamped, clampRewardTotal_zero]

variable {totals : UnorderedMap ActorValue Float32}

theorem acceptedTotals_empty : AcceptedTotals ∅ := by
  intro av total h
  rw [UnorderedMap.lookup_empty] at h
  cases h

theorem AcceptedTotals.insert (h : AcceptedTotals totals) {av : ActorValue}
    (hav : isSupportedRewardActorValue av.raw = true) (total : Float32) :
    AcceptedTotals (totals.insert av (Rewards.clampRewardTotal av total)) := by
  intro av' total' hlookup
  rw [UnorderedMap.lookup_insert_eq] at hlookup
  by_cases heq : av' = av
  · subst heq
    rw [if_pos rfl] at hlookup
    cases hlookup
    exact ⟨hav, clampRewardTotal_idem _ _⟩
  · rw [if_neg heq] at hlookup
    exact h av' total' hlookup

theorem AcceptedTotals.erase (h : AcceptedTotals totals) (av : ActorValue) :
    AcceptedTotals (totals.erase av) := by
  intro av' total' hlookup
  rw [UnorderedMap.lookup_erase_eq] at hlookup
  by_cases heq : av' = av
  · rw [if_pos heq] at hlookup
    cases hlookup
  · rw [if_neg heq] at hlookup
    exact h av' total' hlookup

theorem AcceptedTotals.insertAll_kept (h : AcceptedTotals totals)
    (entries : List (ActorValue × Float32)) :
    AcceptedTotals (totals.insertAll (keptTotals isSupportedRewardActorValue entries)) := by
  induction entries generalizing totals with
  | nil => exact h
  | cons entry entries ih =>
    unfold keptTotals
    rw [List.filter_cons]
    split_ifs with hav
    · exact ih (h.insert hav entry.2)
    · exact ih h

theorem AcceptedTotals.rollbackRewardDelta (h : AcceptedTotals totals)
    {entry : RewardDelta Float32} (hav : isSupportedRewardActorValue entry.av.raw = true) :
    AcceptedTotals (Rewards.rollbackRewardDelta totals entry).1 := by
  have hadjusted : AcceptedTotals
      (RewardStateStore.adjustClamped totals entry.av (-entry.delta)).1 := by
    unfold RewardStateStore.adjustClamped
    dsimp only
    split_ifs
    · exact h.erase _
    · exact h
    · exact h.insert hav _
  unfold Rewards.rollbackRewardDelta
  dsimp only
  split_ifs
  · exact h
  · exact hadjusted
  · exact hadjusted
  · exact hadjusted

theorem AcceptedTotals.rollbackRewardDeltas {state : RuntimeState Float32}
    (h : AcceptedTotals state.rewardTotals) {deltas : List (RewardDelta Float32)}
    (hdeltas : ∀ entry ∈ deltas, isSupportedRewardActorValue entry.av.raw = true)
    (avOwner : Bool) :
    AcceptedTotals (Rewards.rollbackRewardDeltas avOwner state deltas).1.rewardTotals := by
  have hfold : ∀ (deltas adjustments : List (RewardDelta Float32))
      (totals : UnorderedMap ActorValue Float32), AcceptedTotals totals →
      (∀ entry ∈ deltas, isSupportedRewardActorValue entry.av.raw = true) →
      AcceptedTotals (deltas.foldl (fun (totals, adjustments) entry =>
        let (totals, adjustment) := Rewards.rollbackRewardDelta totals entry
        (totals, adjustments ++ adjustment.toList)) (totals, adjustments)).1 := by
    intro deltas
    induction deltas with
    | nil => exact fun _ _ htotals _ => htotals
    | cons entry deltas ih =>
      intro adjustments totals htotals hdeltas
      obtain ⟨hentry, hdeltas⟩ := List.forall_mem_cons.mp hdeltas
      exact ih _ _ (htotals.rollbackRewardDelta hentry) hdeltas
  unfold Rewards.rollbackRewardDeltas
  split_ifs
  · exact h
  · exact h
  · exact hfold deltas [] state.rewardTotals h hdeltas

end Totals

/-! ## The reader stays within its limits -/

section Read

variable {resolveFormID : FormIDResolver} {loaded : Snapshot Float32}

/-- A record whose reward deltas are within the limits. -/
def KeptRecord (record : UndoRecord Float32) : Prop :=
  keptRewardDeltas record.rewardDeltas = record.rewardDeltas

theorem keptRewardDeltas_eq_self_iff {deltas : List (RewardDelta Float32)} :
    keptRewardDeltas deltas = deltas ↔
      deltas.length ≤ kMaxSerializedUndoRewardDeltas.toNat ∧
        ∀ entry ∈ deltas, isSupportedRewardActorValue entry.av.raw = true := by
  constructor
  · intro h
    refine ⟨length_le_of_kept h, fun entry hentry => ?_⟩
    rw [← h] at hentry
    exact (List.mem_filter.mp hentry).2
  · rintro ⟨hlength, hsupported⟩
    rw [keptRewardDeltas, List.take_of_length_le hlength, List.filter_eq_self]
    exact hsupported

theorem keptRewardDeltas_idem (deltas : List (RewardDelta Float32)) :
    keptRewardDeltas (keptRewardDeltas deltas) = keptRewardDeltas deltas :=
  keptRewardDeltas_eq_self_iff.mpr
    ⟨(List.length_filter_le _ _).trans (List.length_take_le _ _),
      fun _ hentry => (List.mem_filter.mp hentry).2⟩

/-- The limits concern slots, history and legacy rewards alone. -/
theorem Readable.congr {state state' : RuntimeState Float32} (h : Readable state)
    (hslots : state'.activeBuildSlots = state.activeBuildSlots)
    (hhistory : state'.undoHistory = state.undoHistory)
    (htotals : state'.rewardTotals = state.rewardTotals) : Readable state' where
  slotLength := hslots ▸ h.slotLength
  historyLength := hhistory ▸ h.historyLength
  rewardDeltas := hhistory ▸ h.rewardDeltas
  rewardTotals := htotals ▸ h.rewardTotals

theorem readable_default : Readable {} where
  slotLength _ := Nat.zero_le _
  historyLength := Nat.zero_le _
  rewardDeltas _ hrecord := absurd hrecord List.not_mem_nil
  rewardTotals := acceptedTotals_empty

theorem ensures_textParser :
    textParser.Ensures fun text => text.length ≤ kMaxSerializedBuildSlotStringLength.toNat :=
  .skip fun _ => .skip fun _ => .pure (List.length_take_le _ _)

theorem ensures_listParser {β : Type} {entry : Parser β} {P : β → Prop} (h : entry.Ensures P)
    (least : Nat) : (listParser least entry).Ensures fun xs => ∀ x ∈ xs, P x :=
  .skip fun _ => (h.upTo _ _).bind fun _ hxs => .skip fun _ => .pure hxs

theorem ensures_undoEntryParser (version : UInt32) :
    (undoEntryParser version).Ensures KeptRecord :=
  .skip fun _ => .skip fun _ => .skip fun _ => .skip fun _ => .skip fun _ => .skip fun _ =>
    .skip fun _ => .pure (keptRewardDeltas_idem _)

theorem ensures_buildSlots (h : Readable loaded) (version : UInt32) :
    (decodeBuildSlots version loaded).Ensures Readable := by
  unfold decodeBuildSlots
  by_cases hversion : version ≠ 1
  · rw [if_pos hversion]
    exact .skip fun _ => .pure h
  · rw [if_neg hversion]
    refine (ensures_listParser ensures_textParser 1).bind fun texts htexts => .pure ?_
    refine { h with slotLength := fun slotId => ?_ }
    show ((texts[slotId.toIndex]?).getD []).length ≤ _
    cases htext : texts[slotId.toIndex]? with
    | none => exact Nat.zero_le _
    | some text => exact htexts text (List.mem_of_getElem? htext)

theorem ensures_rewards (h : Readable loaded) : (decodeRewards loaded).Ensures Readable :=
  .skip fun _ => .skip fun entries => .skip fun _ =>
    .pure { h with rewardTotals := h.rewardTotals.insertAll_kept entries }

theorem ensures_undoHistory (h : Readable loaded) (version : UInt32) :
    (decodeUndoHistory resolveFormID version loaded).Ensures Readable := by
  refine .skip fun _ => .skip fun _ => ((ensures_undoEntryParser version).upTo _ _).bind
    fun entries hentries => .skip fun _ => .pure ?_
  refine { h with
    historyLength := length_trimHistory_le _
    rewardDeltas := fun record hrecord => ?_ }
  obtain ⟨entry, hentry, hresolved⟩ :=
    List.mem_filterMap.mp ((trimHistory_suffix _).mem hrecord)
  unfold resolveUndoRecord at hresolved
  split at hresolved
  · cases hresolved
    exact hentries entry hentry
  · cases hresolved

theorem ensures_recordParser (h : Readable loaded) (type version : UInt32) :
    (recordParser resolveFormID type version loaded).Ensures Readable := by
  unfold recordParser
  split_ifs
  · exact .skip fun _ => .pure (h.congr rfl rfl rfl)
  · refine .skip fun _ => .pure ?_
    split_ifs <;> exact h.congr rfl rfl rfl
  · unfold decodeBuildScores
    split_ifs
    · exact .skip fun _ => .pure h
    · exact .skip fun _ => .skip fun _ => .skip fun _ => .skip fun _ => .skip fun _ =>
        .skip fun _ => .skip fun _ => .pure (h.congr rfl rfl rfl)
    · exact .skip fun _ => .skip fun _ => .skip fun _ => .skip fun _ =>
        .pure (h.congr rfl rfl rfl)
  · exact ensures_buildSlots h version
  · unfold decodeBuildMigration
    split_ifs
    · exact .skip fun _ => .pure h
    · exact .skip fun _ => .skip fun _ => .skip fun _ => .skip fun _ => .skip fun _ =>
        .skip fun _ => .pure (h.congr rfl rfl rfl)
  · exact ensures_rewards h
  · unfold decodeBuildAppliedEffects
    split_ifs
    · exact .skip fun _ => .pure h
    · exact .skip fun _ => .pure (h.congr rfl rfl rfl)
  · exact ensures_undoHistory h version
  · exact .skip fun _ => .pure h

/-- Whatever a co-save says, the snapshot read from it is within the limits. -/
theorem readable_decodeRecords {records : List Record} {decoded : Snapshot Float32}
    (h : Readable loaded) (hdecode : decodeRecords resolveFormID records loaded = some decoded) :
    Readable decoded := by
  induction records generalizing loaded with
  | nil =>
    cases hdecode
    exact h
  | cons record records ih =>
    obtain ⟨next, hnext, hrest⟩ := Option.bind_eq_some_iff.mp hdecode
    obtain ⟨⟨next', rest⟩, hparse, rfl⟩ := Option.map_eq_some_iff.mp hnext
    exact ih (ensures_recordParser h _ _ _ _ _ hparse) hrest

end Read

/-! ## Normalising establishes the rest -/

section Normalize

variable {state : RuntimeState Float32}

theorem remapLegacyOptionId_idem (text : Text) :
    remapLegacyOptionId (remapLegacyOptionId text) = remapLegacyOptionId text := by
  by_cases hward : IsRetiredWard text
  · rw [remap_of_ward hward]
    rfl
  by_cases hcure : IsRetiredCure text
  · rw [remap_of_cure hward hcure]
    rfl
  · rw [remap_of_current hward hcure, remap_of_current hward hcure]

theorem length_remapLegacyOptionId_le {text : Text}
    (h : text.length ≤ kMaxSerializedBuildSlotStringLength.toNat) :
    (remapLegacyOptionId text).length ≤ kMaxSerializedBuildSlotStringLength.toNat := by
  unfold remapLegacyOptionId
  split_ifs
  · decide
  · decide
  · exact h

/-- What normalising does to the slots keeps a state within the limits. -/
theorem Readable.normalizeActiveSlotOptionIds (h : Readable state) :
    Readable (normalizeActiveSlotOptionIds state) := by
  refine { h with slotLength := fun slotId => ?_ }
  unfold BuildProgression.normalizeActiveSlotOptionIds
  dsimp only
  split_ifs
  · exact h.slotLength slotId
  · exact length_remapLegacyOptionId_le (h.slotLength slotId)

theorem Readable.clearActiveSlots (h : Readable state) : Readable (clearActiveSlots state) :=
  { h with slotLength := fun _ => Nat.zero_le _ }

/-- What normalising does to the history keeps a state within the limits. -/
theorem Readable.strip (h : Readable state) : Readable (stripLegacyUndoRewardDeltas state) := by
  refine { h with
    historyLength := (List.length_map _).le.trans h.historyLength
    rewardDeltas := fun record hrecord => ?_ }
  obtain ⟨record', -, rfl⟩ := List.mem_map.mp hrecord
  rfl

theorem rewardDeltas_strip (state : RuntimeState Float32) :
    ∀ record ∈ (stripLegacyUndoRewardDeltas state).undoHistory, record.rewardDeltas = [] := by
  intro record hrecord
  obtain ⟨record', -, rfl⟩ := List.mem_map.mp hrecord
  rfl

theorem slotCurrent_normalize (state : RuntimeState Float32) (slotId : BuildSlotId) :
    remapLegacyOptionId ((normalizeActiveSlotOptionIds state).activeBuildSlots slotId) =
      (normalizeActiveSlotOptionIds state).activeBuildSlots slotId := by
  unfold BuildProgression.normalizeActiveSlotOptionIds
  dsimp only
  split_ifs with hempty
  · rw [hempty]
    rfl
  · exact remapLegacyOptionId_idem _

theorem Restorable.strip (h : Restorable state) :
    Restorable (stripLegacyUndoRewardDeltas state) where
  toReadable := h.toReadable.strip
  slotCurrent := h.slotCurrent
  slotsPending := h.slotsPending
  deltasComplete _ := rewardDeltas_strip state

theorem Restorable.clearActiveSlots (h : Restorable state) :
    Restorable (clearActiveSlots state) where
  toReadable := h.toReadable.clearActiveSlots
  slotCurrent _ := rfl
  slotsPending _ _ := rfl
  deltasComplete := h.deltasComplete

/-- What restorability depends on. -/
theorem Restorable.congr {state' : RuntimeState Float32} (h : Restorable state)
    (hslots : state'.activeBuildSlots = state.activeBuildSlots)
    (hhistory : state'.undoHistory = state.undoHistory)
    (htotals : state'.rewardTotals = state.rewardTotals)
    (hstate : state'.buildMigrationState = state.buildMigrationState) : Restorable state' where
  toReadable := h.toReadable.congr hslots hhistory htotals
  slotCurrent := hslots ▸ h.slotCurrent
  slotsPending := by rw [hslots, hstate]; exact h.slotsPending
  deltasComplete := by rw [hhistory, hstate]; exact h.deltasComplete

/-- A normalised snapshot is restorable, and of the current version. -/
theorem restorable_normalize (h : Readable state) (lookupFormType : FormTypeLookup)
    (resolver : Option LegacyDisciplineResolver) :
    Restorable (normalizeLoadedSnapshot lookupFormType resolver state) ∧
      kBuildMigrationVersion ≤
        (normalizeLoadedSnapshot lookupFormType resolver state).buildMigrationVersion := by
  have hremapped := h.normalizeActiveSlotOptionIds
  by_cases hold : state.buildMigrationVersion < kBuildMigrationVersion
  · have hmigrated : Migrated lookupFormType resolver state _ := normalize_of_old hold
    have hslots := hmigrated.activeBuildSlots
    have hhistory : ∀ history, history = (stripLegacyUndoRewardDeltas state).undoHistory ∨
        history = state.undoHistory → history.length ≤ kUndoHistoryLimit ∧
          ∀ record ∈ history, KeptRecord record := by
      rintro history (rfl | rfl)
      · exact ⟨h.strip.historyLength, h.strip.rewardDeltas⟩
      · exact ⟨h.historyLength, h.rewardDeltas⟩
    obtain ⟨hlength, hkept⟩ := hhistory _ (hmigrated.state.imp And.right And.right)
    refine ⟨⟨⟨fun slotId => ?_, hlength, hkept, ?_⟩, fun slotId => ?_, fun _ => hslots, ?_⟩, ?_⟩
    · rw [hslots]
      exact Nat.zero_le _
    · rw [hmigrated.rewardTotals]
      exact h.rewardTotals
    · rw [hslots]
      rfl
    · intro hcomplete
      rcases hmigrated.state with ⟨-, hstripped⟩ | ⟨hpending, -⟩
      · rw [hstripped]
        exact rewardDeltas_strip state
      · rw [hpending] at hcomplete
        cases hcomplete
    · rw [hmigrated.buildMigrationVersion]
      exact UInt32.le_refl _
  have hversion : kBuildMigrationVersion ≤ state.buildMigrationVersion := UInt32.not_lt.mp hold
  by_cases hpending : state.buildMigrationState = .kPendingCleanup
  · rw [normalize_of_pending hversion hpending]
    refine ⟨⟨hremapped.clearActiveSlots, fun _ => rfl, fun _ _ => rfl, fun hcomplete => ?_⟩,
      hversion⟩
    rw [show (clearActiveSlots (normalizeActiveSlotOptionIds state)).buildMigrationState =
      .kPendingCleanup from hpending] at hcomplete
    cases hcomplete
  by_cases hcomplete : state.buildMigrationState = .kComplete
  · rw [normalize_of_complete hversion hcomplete]
    exact ⟨⟨hremapped.strip, slotCurrent_normalize state, fun h => absurd h hpending,
      fun _ => rewardDeltas_strip _⟩, hversion⟩
  · rw [normalize_of_other hversion hpending hcomplete]
    exact ⟨⟨hremapped, slotCurrent_normalize state, fun h => absurd h hpending,
      fun h => absurd h hcomplete⟩, hversion⟩

/-- The state after the whole migration is restorable. -/
theorem restorable_process (h : Readable state) (lookupFormType : FormTypeLookup)
    (cleanup : Snapshot Float32 → Bool) :
    Restorable (processBuildMigrationState lookupFormType cleanup state).1 := by
  obtain ⟨hnormal, hversion⟩ := restorable_normalize h lookupFormType none
  have hconsume : ∀ snapshot : Snapshot Float32, Restorable snapshot →
      Restorable (consumeMigrationNotice snapshot).1 := by
    intro snapshot hsnapshot
    unfold consumeMigrationNotice
    split_ifs
    · exact hsnapshot
    · exact hsnapshot.congr rfl rfl rfl rfl
  refine hconsume (tryFinalizePendingMigration (some cleanup)
    (normalizeLoadedSnapshot lookupFormType none state)).1 ?_
  generalize normalizeLoadedSnapshot lookupFormType none state = normal at hnormal hversion
  unfold tryFinalizePendingMigration
  rw [if_neg (UInt32.not_lt.mpr hversion)]
  dsimp only
  split_ifs
  · exact hnormal.strip
  · exact hnormal
  · exact hnormal.clearActiveSlots
  · -- the cleanup is done: nothing is left of the legacy rewards
    have hcleared := hnormal.toReadable.clearActiveSlots.strip
    exact ⟨{ hcleared with rewardTotals := acceptedTotals_empty }, fun _ => rfl, fun _ _ => rfl,
      fun _ => rewardDeltas_strip _⟩

end Normalize

/-! ## Actions keep it -/

section Actions

variable {state : RuntimeState Float32}

/-- The ids of the catalog are short, and none of them is retired. -/
theorem text_of_findOption {text : Text} {option : BuildOptionDef Float32}
    (h : Builds.findOption text = some option) :
    text.length ≤ kMaxSerializedBuildSlotStringLength.toNat ∧ remapLegacyOptionId text = text := by
  have hcatalog : ∀ option ∈ getBuildOptionCatalog (F := Float32),
      option.id.length ≤ kMaxSerializedBuildSlotStringLength.toNat ∧
        remapLegacyOptionId option.id = option.id := by decide
  rw [← id_of_findOption h]
  exact hcatalog option (mem_catalog_of_findOption h)

theorem Restorable.emptied {state' : RuntimeState Float32} (h : Restorable state)
    (hslots : ∀ slotId, state'.activeBuildSlots slotId = [] ∨
      state'.activeBuildSlots slotId = state.activeBuildSlots slotId)
    (hhistory : state'.undoHistory = state.undoHistory)
    (htotals : state'.rewardTotals = state.rewardTotals)
    (hstate : state'.buildMigrationState = state.buildMigrationState) : Restorable state' where
  slotLength slotId := by
    rcases hslots slotId with hempty | hsame
    · rw [hempty]; exact Nat.zero_le _
    · rw [hsame]; exact h.slotLength slotId
  historyLength := hhistory ▸ h.historyLength
  rewardDeltas := hhistory ▸ h.rewardDeltas
  rewardTotals := htotals ▸ h.rewardTotals
  slotCurrent slotId := by
    rcases hslots slotId with hempty | hsame
    · rw [hempty]; rfl
    · rw [hsame]; exact h.slotCurrent slotId
  slotsPending hpending slotId := by
    rw [hstate] at hpending
    exact (hslots slotId).elim (fun hempty => hempty)
      fun hsame => hsame.trans (h.slotsPending hpending slotId)
  deltasComplete := by rw [hhistory, hstate]; exact h.deltasComplete

theorem Restorable.withHistory (h : Restorable state) {history : List (UndoRecord Float32)}
    (hlength : history.length ≤ kUndoHistoryLimit)
    (hrecords : ∀ record ∈ history, record.rewardDeltas = [] ∨ record ∈ state.undoHistory) :
    Restorable { state with undoHistory := history } where
  slotLength := h.slotLength
  historyLength := hlength
  rewardDeltas record hrecord := by
    rcases hrecords record hrecord with hnil | hold
    · rw [hnil]; rfl
    · exact h.rewardDeltas record hold
  rewardTotals := h.rewardTotals
  slotCurrent := h.slotCurrent
  slotsPending := h.slotsPending
  deltasComplete hcomplete record hrecord :=
    (hrecords record hrecord).elim (fun hnil => hnil) (h.deltasComplete hcomplete record)

theorem restorable_setActiveSlot (h : Restorable state) (slotId : BuildSlotId) (optionId : Text) :
    Restorable (BuildStateStore.setActiveSlot state slotId optionId).1 := by
  rcases BuildStateStore.setActiveSlot_cases state slotId optionId with
    heq | ⟨option, hfind, -, -, hpending, heq⟩
  · rw [heq]; exact h
  · obtain ⟨hlength, hcurrent⟩ := text_of_findOption hfind
    rw [heq]
    refine { h with slotLength := fun id => ?_, slotCurrent := fun id => ?_, slotsPending := ?_ }
    · show (state.activeBuildSlots.set slotId optionId id).length ≤ _
      rcases ActiveBuildSlots.set_cases state.activeBuildSlots slotId optionId id with hid | hid
      · rw [hid]; exact hlength
      · rw [hid]; exact h.slotLength id
    · show remapLegacyOptionId (state.activeBuildSlots.set slotId optionId id) =
        state.activeBuildSlots.set slotId optionId id
      rcases ActiveBuildSlots.set_cases state.activeBuildSlots slotId optionId id with hid | hid
      · rw [hid]; exact hcurrent
      · rw [hid]; exact h.slotCurrent id
    · exact fun hstate => absurd hstate hpending

theorem restorable_clearActiveSlot (h : Restorable state) (slotId : BuildSlotId) :
    Restorable (BuildStateStore.clearActiveSlot state slotId) := by
  exact h.emptied (ActiveBuildSlots.set_cases state.activeBuildSlots slotId []) rfl rfl rfl

theorem restorable_sync (h : Restorable state) (avOwner : Option (ActorValue → Float32)) :
    Restorable (syncCurrentBuildEffectsToPlayer avOwner state).1 := by
  rw [sync_frame]
  exact h.congr rfl rfl rfl rfl

theorem restorable_activate (h : Restorable state) (avOwner : Option (ActorValue → Float32))
    (slotId : BuildSlotId) (optionId : Text) :
    Restorable (PrismaUIManager.activateBuildOption avOwner state slotId optionId).1 := by
  have hset := restorable_setActiveSlot h slotId optionId
  unfold PrismaUIManager.activateBuildOption
  dsimp only
  split_ifs
  · exact restorable_sync hset avOwner
  · exact hset

theorem restorable_swap (h : Restorable state) (avOwner : Option (ActorValue → Float32))
    (fromSlotId toSlotId : BuildSlotId) (optionId : Text) :
    Restorable (PrismaUIManager.swapBuildOption avOwner state fromSlotId toSlotId optionId).1 := by
  have hset := restorable_setActiveSlot (restorable_clearActiveSlot h fromSlotId) toSlotId optionId
  unfold PrismaUIManager.swapBuildOption
  dsimp only
  split_ifs
  · exact restorable_setActiveSlot hset fromSlotId optionId
  · exact restorable_sync hset avOwner
  · exact h

theorem restorable_tryRegisterItem (h : Restorable state) (formTypes : FormID → FormType)
    (env : Environment Float32) (formId : FormID) :
    Restorable (tryRegisterItem formTypes env state formId).1 := by
  rcases tryRegisterItem_cases formTypes env state formId with
    ⟨-, heq | heq⟩ | ⟨-, -, -, heq⟩
  · rw [heq]; exact h
  · rw [heq, RegistrationStateStore.blockPair_frame]
    exact h.congr rfl rfl rfl rfl
  · rw [heq]
    obtain ⟨ledger, hcommit⟩ := commitRegistration_eq formTypes env state formId _ _
    rw [hcommit]
    have helse := sameElsewhere_applied state
      (makeRegistrationContribution
        (getDiscoveryGroup formTypes env state (getRegisterKey env formId))
        (formTypes (getRegisterKey env formId)))
    have happlied := h.congr (activeBuildSlots_applied state _) helse.undoHistory
      helse.rewardTotals helse.buildMigrationState
    refine (happlied.withHistory (length_trimHistory_le _) fun record hrecord => ?_).congr
      rfl rfl rfl rfl
    rcases List.mem_append.mp ((trimHistory_suffix _).mem hrecord) with hold | hnew
    · exact .inr (helse.undoHistory ▸ hold)
    · rw [List.mem_singleton.mp hnew]
      exact .inl rfl

theorem restorable_undone (h : Restorable state) (env : Environment Float32)
    {older : List (UndoRecord Float32)} {record : UndoRecord Float32}
    (hhistory : state.undoHistory = older ++ [record]) :
    Restorable (undone env state older record) := by
  have hlength : older.length ≤ kUndoHistoryLimit := by
    have := h.historyLength
    rw [hhistory, List.length_append] at this
    omega
  have htaken : Restorable (takenBack state older record) :=
    (h.withHistory hlength fun record hrecord => .inr (by
      rw [hhistory]; exact List.mem_append_left _ hrecord)).congr rfl rfl rfl rfl
  cases hc : record.buildContribution with
  | some c =>
    obtain ⟨ledger, heq⟩ := undone_of_contribution env state older hc
    have helse := sameElsewhere_rollback (takenBack state older record) c
    rw [heq]
    exact (htaken.emptied (activeBuildSlots_rollback _ c) helse.undoHistory helse.rewardTotals
      helse.buildMigrationState).congr rfl rfl rfl rfl
  | none =>
    have hdeltas := (keptRewardDeltas_eq_self_iff.mp (h.rewardDeltas record (by
      rw [hhistory]; exact List.mem_append_right _ List.mem_cons_self))).2
    have htotals := htaken.rewardTotals.rollbackRewardDeltas hdeltas env.avOwner.isSome
    rw [undone_of_no_contribution env state older hc, Rewards.rollbackRewardDeltas_frame]
    exact { htaken with rewardTotals := htotals }

theorem restorable_tryUndoRegistration (h : Restorable state) (env : Environment Float32)
    (actionId : UInt64) : Restorable (tryUndoRegistration env state actionId).1 := by
  rcases tryUndoRegistration_cases env state actionId with
    ⟨-, heq⟩ | ⟨older, record, hhistory, -,
      ⟨-, -, heq⟩ | ⟨-, -, -, heq⟩ | ⟨-, -, -, heq⟩⟩
  · rw [heq]; exact h
  · rw [heq, restoreUndoRecord_newest hhistory h.historyLength]
    exact h.congr rfl rfl rfl rfl
  · rw [heq, rollbackFailedUndo_newest hhistory h.historyLength]
    exact h.congr rfl rfl rfl rfl
  · rw [heq]; exact restorable_undone h env hhistory

theorem restorable_refundRewards (h : Restorable state) (avOwner : Bool) :
    Restorable (Rewards.refundRewards avOwner state).1 := by
  unfold Rewards.refundRewards
  split_ifs
  · exact h
  · exact { h with rewardTotals := acceptedTotals_empty }

theorem restorable_perform (h : Restorable state) (formTypes : FormID → FormType)
    (action : Action) : Restorable (perform formTypes action state).1 := by
  cases action with
  | register env formId => exact restorable_tryRegisterItem h formTypes env formId
  | registerBatch calls =>
    exact registerBatch_preserves Restorable
      (fun env _ formId h => restorable_tryRegisterItem h formTypes env formId) h calls
  | undo env actionId => exact restorable_tryUndoRegistration h env actionId
  | activate avOwner slotId optionId => exact restorable_activate h avOwner slotId optionId
  | deactivate avOwner slotId =>
    exact restorable_sync (restorable_clearActiveSlot h slotId) avOwner
  | swap avOwner fromSlotId toSlotId optionId =>
    exact restorable_swap h avOwner fromSlotId toSlotId optionId
  | notify primaryId secondaryId =>
    unfold perform
    dsimp only
    rw [NotifiedStateStore.markPair_frame]
    exact h.congr rfl rfl rfl rfl
  | refund avOwner => exact restorable_refundRewards h avOwner

end Actions

end CodexOfPower.Serialization
