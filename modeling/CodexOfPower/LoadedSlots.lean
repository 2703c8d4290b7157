/-
# `CodexOfPower.LoadedSlots` — the slots after a load

A load takes the slot texts of a co-save as they are, but for the retired ids of
older versions, which it replaces.  The check that a text names an option, that
the option may go into the slot and that it is unlocked is made when a slot is
set, when points are taken back and when effects are computed, but not here.  So
the active-slot invariant holds after a load exactly when the file already says
so (`load_slotsValid_iff`).

## What is not said

What such a slot does is another matter: an option that is locked, or stands where it may
not, has no effect (`CodexOfPower.BuildEffectRuntime`).  It is on the page all the same, and
a swap can lose it (`CodexOfPower.SwapAtomicity`).
-/
import CodexOfPower.ActiveSlots
import CodexOfPower.LegacyMigration
import CodexOfPower.SerializationSafety
import CodexOfPower.SerializationSave

namespace CodexOfPower

open RE Builds BuildProgression Serialization SerializationStateStore

variable {F : Type} [FloatType F]

/-! ## The retired ids -/

/-- A retired id whose replacement the slot may hold at these defense points. -/
def ReplaceableAt (defensePoints : BuildPointCenti) (slotId : BuildSlotId) (text : Text) : Prop :=
  (slotId = .Defense1 ∨ slotId = .Wildcard1) ∧
    ((IsRetiredWard text ∧ 1600 ≤ defensePoints) ∨ (IsRetiredCure text ∧ 2000 ≤ defensePoints))

variable {state : RuntimeState F} {slotId : BuildSlotId}

theorem not_mayHold_of_findOption {text : Text} (h : Builds.findOption (F := F) text = none) :
    ¬ MayHold state slotId text := by
  rintro ⟨option, hfind, -⟩
  rw [h] at hfind
  cases hfind

theorem mayHold_iff_of_findOption {text : Text} (option : BuildOptionDef F)
    (h : Builds.findOption text = some option) :
    MayHold state slotId text ↔ Builds.isSlotCompatible option slotId = true ∧
      option.unlockPointsCenti ≤ state.pointsCenti option.discipline := by
  constructor
  · rintro ⟨option', hfind, hrest⟩
    rw [h] at hfind
    cases hfind
    exact hrest
  · exact fun hrest => ⟨option, h, hrest⟩

omit [FloatType F] in
theorem isSlotCompatible_defense {option : BuildOptionDef F} (hd : option.discipline = .Defense)
    (hc : option.slotCompatibility = .SameOrWildcard) :
    Builds.isSlotCompatible option slotId = true ↔ slotId = .Defense1 ∨ slotId = .Wildcard1 := by
  unfold Builds.isSlotCompatible
  cases slotId <;> simp [slotKindForId, hd, hc]

theorem mayHold_elementalWard :
    MayHold state slotId (utf8 "build.defense.elementalWard") ↔
      (slotId = .Defense1 ∨ slotId = .Wildcard1) ∧ 1600 ≤ state.defenseBuildPointsCenti := by
  rw [mayHold_iff_of_findOption (makeOption "build.defense.elementalWard" .Defense 20
    .SameOrWildcard .ActorValue "elemental_resist_bundle" (.float 2.0) (.float 0.5)) rfl]
  exact and_congr (isSlotCompatible_defense rfl rfl) Iff.rfl

theorem mayHold_purification :
    MayHold state slotId (utf8 "build.defense.purification") ↔
      (slotId = .Defense1 ∨ slotId = .Wildcard1) ∧ 2000 ≤ state.defenseBuildPointsCenti := by
  rw [mayHold_iff_of_findOption (makeOption "build.defense.purification" .Defense 25
    .SameOrWildcard .ActorValue "status_resist_bundle" (.float 2.0) (.float 0.5)) rfl]
  exact and_congr (isSlotCompatible_defense rfl rfl) Iff.rfl

theorem not_mayHold_of_retired {text : Text} (h : IsRetiredWard text ∨ IsRetiredCure text) :
    ¬ MayHold state slotId text := by
  rcases h with (rfl | rfl | rfl) | (rfl | rfl) <;> exact not_mayHold_of_findOption rfl

/-- What a slot holds after the retired ids were replaced. -/
theorem mayHold_remapLegacyOptionId (text : Text) :
    MayHold state slotId (remapLegacyOptionId text) ↔
      MayHold state slotId text ∨ ReplaceableAt state.defenseBuildPointsCenti slotId text := by
  unfold ReplaceableAt
  by_cases hward : IsRetiredWard text
  · have hnot : ¬ MayHold state slotId text := not_mayHold_of_retired (.inl hward)
    rw [remap_of_ward hward, mayHold_elementalWard]
    constructor
    · exact fun ⟨hslot, hpoints⟩ => .inr ⟨hslot, .inl ⟨hward, hpoints⟩⟩
    · rintro (hmay | ⟨hslot, ⟨-, hpoints⟩ | ⟨-, hpoints⟩⟩)
      · exact absurd hmay hnot
      · exact ⟨hslot, hpoints⟩
      · exact ⟨hslot, UInt32.le_trans (by decide) hpoints⟩
  by_cases hcure : IsRetiredCure text
  · have hnot : ¬ MayHold state slotId text := not_mayHold_of_retired (.inr hcure)
    rw [remap_of_cure hward hcure, mayHold_purification]
    constructor
    · exact fun ⟨hslot, hpoints⟩ => .inr ⟨hslot, .inr ⟨hcure, hpoints⟩⟩
    · rintro (hmay | ⟨hslot, ⟨hw, -⟩ | ⟨-, hpoints⟩⟩)
      · exact absurd hmay hnot
      · exact absurd hw hward
      · exact ⟨hslot, hpoints⟩
  · rw [remap_of_current hward hcure]
    constructor
    · exact .inl
    · rintro (hmay | ⟨-, ⟨hw, -⟩ | ⟨hc, -⟩⟩)
      · exact hmay
      · exact absurd hw hward
      · exact absurd hc hcure

/-! ## The slots after normalising -/

/-- A slot text of a file that the slot may hold once it is loaded. -/
def Acceptable (decoded : Snapshot F) (slotId : BuildSlotId) : Prop :=
  decoded.activeBuildSlots slotId = [] ∨ MayHold decoded slotId (decoded.activeBuildSlots slotId) ∨
    ReplaceableAt decoded.defenseBuildPointsCenti slotId (decoded.activeBuildSlots slotId)

/-- When a decoded file gives valid slots: it is older than the build system, or its
cleanup is pending, or each of its texts is acceptable. -/
def GivesValidSlots (decoded : Snapshot F) : Prop :=
  decoded.buildMigrationVersion < kBuildMigrationVersion ∨
    decoded.buildMigrationState = .kPendingCleanup ∨ ∀ slotId, Acceptable decoded slotId

theorem slotsValid_normalize_iff (lookupFormType : FormTypeLookup)
    (resolver : Option LegacyDisciplineResolver) (decoded : Snapshot F) :
    SlotsValid (normalizeLoadedSnapshot lookupFormType resolver decoded) ↔
      GivesValidSlots decoded := by
  unfold GivesValidSlots
  by_cases hold : decoded.buildMigrationVersion < kBuildMigrationVersion
  · have hmigrated : Migrated lookupFormType resolver decoded _ := normalize_of_old hold
    exact ⟨fun _ => .inl hold, fun _ => slotsValid_of_empty hmigrated.activeBuildSlots⟩
  have hversion : kBuildMigrationVersion ≤ decoded.buildMigrationVersion := UInt32.not_lt.mp hold
  by_cases hpending : decoded.buildMigrationState = .kPendingCleanup
  · rw [normalize_of_pending hversion hpending]
    exact ⟨fun _ => .inr (.inl hpending), fun _ => slotsValid_of_empty fun _ => rfl⟩
  obtain ⟨hslots, hpoints⟩ :=
    normalize_current lookupFormType resolver hversion hpending
  -- slot by slot: an empty one stays empty, another is replaced if it is retired
  have hslot : ∀ slotId, (normalizeLoadedSnapshot lookupFormType resolver decoded).activeBuildSlots
      slotId = if decoded.activeBuildSlots slotId = [] then decoded.activeBuildSlots slotId
        else remapLegacyOptionId (decoded.activeBuildSlots slotId) := fun slotId => by
    rw [hslots]; rfl
  have hmay : ∀ slotId text, MayHold (normalizeLoadedSnapshot lookupFormType resolver decoded)
      slotId text ↔ MayHold decoded slotId text := fun slotId text => by
    unfold MayHold
    rw [hpoints]
  have heach : (∀ slotId, Acceptable decoded slotId) ↔
      SlotsValid (normalizeLoadedSnapshot lookupFormType resolver decoded) := by
    refine forall_congr' fun slotId => ?_
    rw [hslot, hmay]
    unfold Acceptable
    by_cases hempty : decoded.activeBuildSlots slotId = []
    · rw [if_pos hempty]
      exact ⟨fun _ => .inl hempty, fun _ => .inl hempty⟩
    · rw [if_neg hempty, mayHold_remapLegacyOptionId]
      exact or_congr_left ⟨fun h => absurd h hempty,
        fun h => absurd h (remapLegacyOptionId_ne_nil hempty)⟩
  rw [← heach]
  exact ⟨fun h => .inr (.inr h), fun h => (h.resolve_left hold).resolve_left hpending⟩

/-! ## The slots after a load -/

/-- After a load the active-slot invariant holds exactly when the file does not decode
or what it decodes to gives valid slots. -/
theorem load_slotsValid_iff (resolveFormID : FormIDResolver) (lookupFormType : FormTypeLookup)
    (records : List Record) (state : RuntimeState Float32) :
    SlotsValid (load resolveFormID lookupFormType records (revert state)).state ↔
      ∀ decoded, decodeRecords resolveFormID records {} = some decoded →
        GivesValidSlots decoded := by
  rw [load_state]
  cases decodeRecords resolveFormID records {} with
  | none =>
    refine ⟨fun _ decoded h => ?_, fun _ => slotsValid_of_empty fun _ => rfl⟩
    cases h
  | some decoded =>
    rw [slotsValid_normalize_iff]
    exact ⟨fun h _ heq => Option.some.inj heq ▸ h, fun h => h decoded rfl⟩

def retiredSlotFile : List Record :=
  [({ type := kRecordBuildMigration
      version := 1
      contents := toBytes (2 : UInt32) ++ toBytes (2 : UInt32) ++ [0, 0] ++ toBytes (0 : UInt32)
      fits := by decide } : WrittenRecord).toRecord,
   ({ type := kRecordBuildSlots
      version := 1
      contents := toBytes (1 : UInt32) ++ toBytes (22 : UInt32) ++ utf8 "build.defense.fireward"
      fits := by decide } : WrittenRecord).toRecord]

theorem decode_retiredSlotFile :
    decodeRecords some retiredSlotFile {} = some
      { buildMigrationVersion := 2
        buildMigrationState := .kComplete
        activeBuildSlots := slotsOfTexts [utf8 "build.defense.fireward"] } :=
  rfl

/-- Its slot is replaced by an option that attack slots do not take, and that is locked. -/
theorem not_slotsValid_retiredSlotFile :
    ¬ SlotsValid (load some (fun _ => none) retiredSlotFile (revert {})).state := by
  rw [load_state, decode_retiredSlotFile]
  dsimp only
  rw [slotsValid_normalize_iff]
  rintro (hold | hpending | hacceptable)
  · exact absurd hold (by decide)
  · cases hpending
  · have hretired : IsRetiredWard (utf8 "build.defense.fireward") := .inl rfl
    rcases hacceptable .Attack1 with hempty | hmay | ⟨hslot, -⟩
    · exact absurd hempty (by decide)
    · exact not_mayHold_of_retired (.inl hretired) hmay
    · exact absurd hslot (by decide)

end CodexOfPower
