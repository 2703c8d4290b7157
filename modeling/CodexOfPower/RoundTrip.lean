/-
# `CodexOfPower.RoundTrip` — saving and loading restores the state

A state is `Restorable` when nothing in it runs into a limit of the reader: slot
texts of at most 128 bytes that are not retired ids, at most ten undo records, each
with at most 64 supported reward deltas, and reward totals the reader accepts as
they are.  A restorable state of the current version comes back whole
(`load_saved`), but for the next action id, which the reader raises above the newest
record's.

## What is not said

A state of an older version does not come back as it was: the reader migrates it
(`CodexOfPower.LegacyMigration`).  The load order is that of the save; for others see
`CodexOfPower.LoadOrder`.
-/
import CodexOfPower.SavedRecords
import CodexOfPower.SerializationSafety
import CodexOfPower.LegacyMigration

namespace CodexOfPower.Serialization

open RE Builds BuildProgression Registration SerializationStateStore

/-! ## States that a co-save can hold -/

/-- Reward totals that the reader takes over unchanged. -/
def AcceptedTotals (totals : UnorderedMap ActorValue Float32) : Prop :=
  ∀ av total, totals.lookup av = some total →
    isSupportedRewardActorValue av.raw = true ∧ Rewards.clampRewardTotal av total = total

/-- Within the limits of the reader; every snapshot it makes is. -/
structure Readable (state : RuntimeState Float32) : Prop where
  slotLength : ∀ slotId,
    (state.activeBuildSlots slotId).length ≤ kMaxSerializedBuildSlotStringLength.toNat
  historyLength : state.undoHistory.length ≤ kUndoHistoryLimit
  rewardDeltas : ∀ record ∈ state.undoHistory,
    keptRewardDeltas record.rewardDeltas = record.rewardDeltas
  rewardTotals : AcceptedTotals state.rewardTotals

/-- Within the limits, and not changed by normalising either. -/
structure Restorable (state : RuntimeState Float32) : Prop extends Readable state where
  slotCurrent : ∀ slotId,
    remapLegacyOptionId (state.activeBuildSlots slotId) = state.activeBuildSlots slotId
  /-- A pending cleanup leaves no slot set. -/
  slotsPending : state.buildMigrationState = .kPendingCleanup →
    ∀ slotId, state.activeBuildSlots slotId = []
  /-- A complete migration leaves no legacy reward deltas. -/
  deltasComplete : state.buildMigrationState = .kComplete →
    ∀ record ∈ state.undoHistory, record.rewardDeltas = []

/-- The loaded state is the saved one, in every part but the next action id; tables are
compared by content. -/
structure Restores (saved loaded : RuntimeState Float32) : Prop where
  registeredItems : loaded.registeredItems.Same saved.registeredItems
  blockedItems : loaded.blockedItems.Same saved.blockedItems
  notifiedItems : loaded.notifiedItems.Same saved.notifiedItems
  rewardTotals : loaded.rewardTotals.Same saved.rewardTotals
  score : loaded.score = saved.score
  pointsCenti : loaded.pointsCenti = saved.pointsCenti
  activeBuildSlots : loaded.activeBuildSlots = saved.activeBuildSlots
  buildMigrationVersion : loaded.buildMigrationVersion = saved.buildMigrationVersion
  buildMigrationState : loaded.buildMigrationState = saved.buildMigrationState
  buildMigrationNotice : loaded.buildMigrationNotice = saved.buildMigrationNotice
  undoHistory : loaded.undoHistory = saved.undoHistory

/-! ## What the limits do to a restorable state -/

section

variable {state : RuntimeState Float32}

theorem length_le_of_kept {deltas : List (RewardDelta Float32)}
    (h : keptRewardDeltas deltas = deltas) :
    deltas.length ≤ kMaxSerializedUndoRewardDeltas.toNat := by
  rw [← h]
  exact (List.length_filter_le _ _).trans (List.length_take_le _ _)

theorem Readable.storable (h : Readable state) : Storable state where
  slots slotId := Nat.lt_of_le_of_lt (h.slotLength slotId) (by decide)
  rewardDeltas record hrecord :=
    Nat.lt_of_le_of_lt (length_le_of_kept (h.rewardDeltas record hrecord)) (by decide)

theorem Readable.keptUndoRecords (h : Readable state) :
    trimHistory (state.undoHistory.map keptUndoRecord) = state.undoHistory := by
  have hmap : state.undoHistory.map keptUndoRecord = state.undoHistory := by
    refine (List.map_congr_left fun record hrecord => ?_).trans (List.map_id _)
    rw [keptUndoRecord, h.rewardDeltas record hrecord]
    rfl
  rw [hmap, trimHistory_of_le h.historyLength]

theorem length_toPairs_of_accepted {totals : UnorderedMap ActorValue Float32}
    (h : AcceptedTotals totals) :
    totals.toPairs.length ≤ kMaxSerializedRewardEntries.toNat := by
  have hsubset : totals.toPairs.map Prod.fst ⊆ supportedRewardActorValues := by
    intro av hav
    obtain ⟨⟨av', total⟩, hentry, rfl⟩ := List.mem_map.mp hav
    exact of_decide_eq_true (h av' total (UnorderedMap.mem_toPairs.mp hentry)).1
  have hlength := (totals.nodup_fst_toPairs.subperm hsubset).length_le
  rw [List.length_map] at hlength
  exact hlength.trans (by decide)

theorem keptTotals_of_accepted {totals : UnorderedMap ActorValue Float32}
    (h : AcceptedTotals totals) :
    keptTotals isSupportedRewardActorValue totals.toPairs = totals.toPairs := by
  have hentry : ∀ entry ∈ totals.toPairs, isSupportedRewardActorValue entry.1.raw = true ∧
      Rewards.clampRewardTotal entry.1 entry.2 = entry.2 :=
    fun entry hentry => h entry.1 entry.2 (UnorderedMap.mem_toPairs.mp hentry)
  unfold keptTotals
  rw [List.filter_eq_self.mpr fun entry hmem => (hentry entry hmem).1]
  refine (List.map_congr_left fun entry hmem => ?_).trans (List.map_id _)
  rw [(hentry entry hmem).2]
  rfl

theorem normalizeActiveSlotOptionIds_of_current {F : Type} {snapshot : Snapshot F}
    (h : ∀ slotId,
      remapLegacyOptionId (snapshot.activeBuildSlots slotId) = snapshot.activeBuildSlots slotId) :
    normalizeActiveSlotOptionIds snapshot = snapshot := by
  refine congrArg (fun slots => { snapshot with activeBuildSlots := slots })
    (funext fun slotId => ?_)
  dsimp only
  rw [h, ite_self]

end

/-! ## The round trip -/

section RoundTrip

variable {state : RuntimeState Float32}

/-- The snapshot that was read, before it is normalised. -/
theorem Readable.reloaded (h : Readable state) : Restores state (reloaded state) where
  registeredItems := UnorderedMap.emplaceAll_toPairs _
  blockedItems := UnorderedMap.emplaceAll_toPairs _
  notifiedItems := UnorderedMap.emplaceAll_toPairs _
  rewardTotals := by
    have htake := List.take_of_length_le (length_toPairs_of_accepted h.rewardTotals)
    show (UnorderedMap.insertAll (keptTotals isSupportedRewardActorValue
      (state.rewardTotals.toPairs.take kMaxSerializedRewardEntries.toNat)) ∅).Same _
    rw [htake, keptTotals_of_accepted h.rewardTotals]
    exact UnorderedMap.insertAll_toPairs _
  score := rfl
  pointsCenti := rfl
  activeBuildSlots := funext fun slotId => List.take_of_length_le (h.slotLength slotId)
  buildMigrationVersion := rfl
  buildMigrationState := rfl
  buildMigrationNotice := rfl
  undoHistory := h.keptUndoRecords

theorem Readable.undoNextActionId_reloaded (h : Readable state) :
    (Serialization.reloaded state).undoNextActionId =
      nextActionIdOf state.undoHistory state.undoNextActionId :=
  congrArg (nextActionIdOf · state.undoNextActionId) h.keptUndoRecords

/-- Without legacy reward deltas, dropping them changes nothing. -/
theorem Restores.strip {loaded : Snapshot Float32} (h : Restores state loaded)
    (hdeltas : ∀ record ∈ state.undoHistory, record.rewardDeltas = []) :
    Restores state (stripLegacyUndoRewardDeltas loaded) := by
  refine { h with undoHistory := ?_ }
  rw [← h.undoHistory] at hdeltas ⊢
  refine (List.map_congr_left fun record hrecord => ?_).trans (List.map_id _)
  rw [← hdeltas record hrecord]
  rfl

/-- Normalising changes nothing in what was restored. -/
theorem Restores.normalize {loaded : Snapshot Float32} (h : Restorable state)
    (hrestores : Restores state loaded)
    (hversion : kBuildMigrationVersion ≤ state.buildMigrationVersion)
    (lookupFormType : FormTypeLookup) (resolver : Option LegacyDisciplineResolver) :
    Restores state (normalizeLoadedSnapshot lookupFormType resolver loaded) ∧
      (normalizeLoadedSnapshot lookupFormType resolver loaded).undoNextActionId =
        loaded.undoNextActionId := by
  have hslots : normalizeActiveSlotOptionIds loaded = loaded :=
    normalizeActiveSlotOptionIds_of_current (by
      rw [hrestores.activeBuildSlots]
      exact h.slotCurrent)
  rw [← hrestores.buildMigrationVersion] at hversion
  by_cases hpending : state.buildMigrationState = .kPendingCleanup
  · rw [normalize_of_pending hversion (hrestores.buildMigrationState.trans hpending), hslots]
    refine ⟨{ hrestores with activeBuildSlots := ?_ }, rfl⟩
    exact funext fun slotId => (h.slotsPending hpending slotId).symm
  · by_cases hcomplete : state.buildMigrationState = .kComplete
    · rw [normalize_of_complete hversion (hrestores.buildMigrationState.trans hcomplete), hslots]
      exact ⟨hrestores.strip (h.deltasComplete hcomplete), rfl⟩
    · rw [← hrestores.buildMigrationState] at hpending hcomplete
      rw [normalize_of_other hversion hpending hcomplete, hslots]
      exact ⟨hrestores, rfl⟩

/-- A restorable state of the current version, saved and loaded. -/
theorem load_saved {accepts : Nat → Bool} {resolveFormID : FormIDResolver}
    {records : List Record} (h : Restorable state)
    (hversion : kBuildMigrationVersion ≤ state.buildMigrationVersion)
    (hresolve : ResolvesStored resolveFormID state)
    (hsave : save accepts state = (true, records)) (lookupFormType : FormTypeLookup)
    (before : RuntimeState Float32) :
    Restores state (load resolveFormID lookupFormType records before).state ∧
      (load resolveFormID lookupFormType records before).state.undoNextActionId =
        nextActionIdOf state.undoHistory state.undoNextActionId := by
  rw [load_state, decode_saved h.storable hresolve hsave]
  obtain ⟨hrestores, hnext⟩ := h.reloaded.normalize h hversion lookupFormType none
  exact ⟨hrestores, hnext.trans h.undoNextActionId_reloaded⟩

end RoundTrip

end CodexOfPower.Serialization
