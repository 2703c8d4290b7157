/-
# `CodexOfPower.MigrationRuns` — a migration happens once

A migration is derived when an old co-save is loaded, and finished by a later pass
that may fail and be tried again.  In between the game is saved and loaded, the
player with it.  Whatever the order, the derived scores stay, the player is cleaned
up at most once, and a migration that is finished is not touched again
(`migration_happens_once`).

What a run has finished belongs to the character and is saved with it: loading an
earlier save takes back the passes since.

## What is not said

Registrations, undos and changes of the slots are not steps of these runs, so that "stay as
they were derived" can be said of the totals.  The load order does not change, and the
player that is loaded is the one that was saved.
-/
import CodexOfPower.LegacyCleanup
import CodexOfPower.MigrationUndo
import CodexOfPower.RestorableStates
import CodexOfPower.Lib.Transition

namespace CodexOfPower

open RE Builds BuildProgression Registration Serialization SerializationStateStore Rewards

/-! ## Normalising twice -/

section Normalise
variable {F : Type} {snapshot : Snapshot F}

theorem slotCurrent_normalizeActiveSlotOptionIds (slotId : BuildSlotId) :
    remapLegacyOptionId ((normalizeActiveSlotOptionIds snapshot).activeBuildSlots slotId) =
      (normalizeActiveSlotOptionIds snapshot).activeBuildSlots slotId := by
  simp only [normalizeActiveSlotOptionIds]
  split_ifs with hempty
  · rw [hempty]
    rfl
  · exact remapLegacyOptionId_idem _

theorem normalizeActiveSlotOptionIds_of_empty
    (h : ∀ slotId, snapshot.activeBuildSlots slotId = []) :
    normalizeActiveSlotOptionIds snapshot = snapshot :=
  normalizeActiveSlotOptionIds_of_current fun slotId => by rw [h]; rfl

theorem clearActiveSlots_of_empty (h : ∀ slotId, snapshot.activeBuildSlots slotId = []) :
    clearActiveSlots snapshot = snapshot :=
  congrArg (fun slots => { snapshot with activeBuildSlots := slots })
    (funext fun slotId => (h slotId).symm)

theorem stripLegacyUndoRewardDeltas_of_stripped
    (h : ∀ record ∈ snapshot.undoHistory, record.rewardDeltas = []) :
    stripLegacyUndoRewardDeltas snapshot = snapshot := by
  refine congrArg (fun history => { snapshot with undoHistory := history })
    ((List.map_congr_left fun record hrecord => ?_).trans (List.map_id _))
  rw [← h record hrecord]
  rfl

theorem rewardDeltas_stripLegacyUndoRewardDeltas {record : UndoRecord F}
    (h : record ∈ (stripLegacyUndoRewardDeltas snapshot).undoHistory) :
    record.rewardDeltas = [] := by
  obtain ⟨kept, -, rfl⟩ := List.mem_map.mp h
  rfl

/-- Whatever version the snapshot is of, and in whatever state its migration is. -/
theorem normalizeLoadedSnapshot_idem (lookupFormType : FormTypeLookup)
    (resolver : Option LegacyDisciplineResolver) (snapshot : Snapshot F) :
    normalizeLoadedSnapshot lookupFormType resolver
        (normalizeLoadedSnapshot lookupFormType resolver snapshot) =
      normalizeLoadedSnapshot lookupFormType resolver snapshot := by
  have hpending : ∀ normal : Snapshot F, kBuildMigrationVersion ≤ normal.buildMigrationVersion →
      normal.buildMigrationState = .kPendingCleanup →
      (∀ slotId, normal.activeBuildSlots slotId = []) →
      normalizeLoadedSnapshot lookupFormType resolver normal = normal := by
    intro normal hversion hstate hslots
    rw [normalize_of_pending hversion hstate, normalizeActiveSlotOptionIds_of_empty hslots,
      clearActiveSlots_of_empty hslots]
  have hcomplete : ∀ normal : Snapshot F, kBuildMigrationVersion ≤ normal.buildMigrationVersion →
      normal.buildMigrationState = .kComplete →
      (∀ slotId, remapLegacyOptionId (normal.activeBuildSlots slotId) =
        normal.activeBuildSlots slotId) →
      (∀ record ∈ normal.undoHistory, record.rewardDeltas = []) →
      normalizeLoadedSnapshot lookupFormType resolver normal = normal := by
    intro normal hversion hstate hslots hhistory
    rw [normalize_of_complete hversion hstate, normalizeActiveSlotOptionIds_of_current hslots,
      stripLegacyUndoRewardDeltas_of_stripped hhistory]
  by_cases hold : snapshot.buildMigrationVersion < kBuildMigrationVersion
  · have hmigrated : Migrated lookupFormType resolver snapshot _ := normalize_of_old hold
    have hversion : kBuildMigrationVersion ≤ (normalizeLoadedSnapshot lookupFormType resolver
        snapshot).buildMigrationVersion := by
      rw [hmigrated.buildMigrationVersion]
      exact UInt32.le_refl _
    rcases hmigrated.state with ⟨hstate, hhistory⟩ | ⟨hstate, -⟩
    · refine hcomplete _ hversion hstate (fun slotId => ?_) fun record hrecord => ?_
      · rw [hmigrated.activeBuildSlots]
        rfl
      · rw [hhistory] at hrecord
        exact rewardDeltas_stripLegacyUndoRewardDeltas hrecord
    · exact hpending _ hversion hstate hmigrated.activeBuildSlots
  · have hversion : kBuildMigrationVersion ≤ snapshot.buildMigrationVersion := UInt32.not_lt.mp hold
    by_cases hstatePending : snapshot.buildMigrationState = .kPendingCleanup
    · rw [normalize_of_pending hversion hstatePending]
      exact hpending _ hversion hstatePending fun _ => rfl
    by_cases hstateComplete : snapshot.buildMigrationState = .kComplete
    · rw [normalize_of_complete hversion hstateComplete]
      exact hcomplete _ hversion hstateComplete slotCurrent_normalizeActiveSlotOptionIds
        fun record hrecord => rewardDeltas_stripLegacyUndoRewardDeltas hrecord
    · have hagain : normalizeLoadedSnapshot lookupFormType resolver
          (normalizeActiveSlotOptionIds snapshot) =
          normalizeActiveSlotOptionIds (normalizeActiveSlotOptionIds snapshot) :=
        normalize_of_other hversion hstatePending hstateComplete
      rw [normalize_of_other hversion hstatePending hstateComplete, hagain]
      exact normalizeActiveSlotOptionIds_of_current slotCurrent_normalizeActiveSlotOptionIds

end Normalise

/-! ## Runs -/

/-- The latest save: what its load needs, and the player and the outcome it was made with. -/
structure SavedGame where
  records : List Record
  resolveFormID : FormIDResolver
  player : ActorValues Float32
  finished : Bool

/-- A character, whether a pass has finished its migration, and the latest save. -/
structure MigrationRun where
  character : Character Float32
  finished : Bool
  latest : SavedGame

/-- The character after the load of a save; the player is as saved. -/
def SavedGame.load (lookupFormType : FormTypeLookup) (saved : SavedGame)
    (before : RuntimeState Float32) : Character Float32 where
  state := (Serialization.load saved.resolveFormID lookupFormType saved.records
    (revert (resetForLoad before))).state
  player := saved.player

/-- The pass has left the migration complete. -/
def finishesMigration (after : Character Float32) : Bool :=
  after.state.buildMigrationState = .kComplete

namespace MigrationRun

variable (lookupFormType : FormTypeLookup)

inductive Step : MigrationRun → MigrationRun → Prop
  | pass (run : MigrationRun) (available : Bool) :
      Step run { run with
        character := run.character.process lookupFormType available
        finished := run.finished ||
          finishesMigration (run.character.process lookupFormType available) }
  /-- Every form id of the run's own save resolves to itself. -/
  | save (run : MigrationRun) (accepts : Nat → Bool) (records : List Record)
      (h : Serialization.save accepts run.character.state = (true, records)) :
      Step run { run with
        latest := ⟨records, some, run.character.player, run.finished⟩ }
  | reload (run : MigrationRun) :
      Step run { run with
        character := run.latest.load lookupFormType run.character.state
        finished := run.latest.finished }

/-- Runs start with the load of a co-save. -/
def system (legacy : SavedGame) : TransitionSystem MigrationRun where
  init run := run = ⟨legacy.load lookupFormType {}, legacy.finished, legacy⟩
  step := Step lookupFormType

end MigrationRun

/-! ## The invariant -/

section Invariant
variable {lookupFormType : FormTypeLookup} {legacy : SavedGame} {first : RuntimeState Float32}
  {player : ActorValues Float32} {character : Character Float32} {finished : Bool}

/-- What a character keeps of the state that was loaded first and of the player then. -/
structure Follows (first : RuntimeState Float32) (player : ActorValues Float32)
    (character : Character Float32) (finished : Bool) : Prop where
  restorable : Restorable character.state
  version : character.state.buildMigrationVersion = kBuildMigrationVersion
  score : character.state.score = first.score
  pointsCenti : character.state.pointsCenti = first.pointsCenti
  /-- Until the migration is finished nothing is taken from the player. -/
  before : finished = false → character.player = player ∧
    character.state.buildMigrationState = first.buildMigrationState ∧
    character.state.rewardTotals.Same first.rewardTotals
  /-- Once it is finished, the cleanup of the totals loaded first has been made, and nothing
  is left. -/
  after : finished = true → (∃ available totals, totals.Same first.rewardTotals ∧
      character.player = (cleanupLegacyRewardTotals available totals player).player) ∧
    character.state.buildMigrationState = .kComplete ∧
    character.state.rewardTotals.size = 0 ∧
    character.state.buildMigrationNotice.needsNotice = false

/-- A pass over a finished migration changes nothing. -/
theorem Follows.process_finished (h : Follows first player character true) (available : Bool) :
    character.process lookupFormType available = character := by
  obtain ⟨-, hcomplete, -, hnotice⟩ := h.after rfl
  have hversion : kBuildMigrationVersion ≤ character.state.buildMigrationVersion := by
    rw [h.version]
    exact UInt32.le_refl _
  have hstate : (character.process lookupFormType available).state = character.state := by
    have hprocess : (character.process lookupFormType available).state = _ :=
      process_of_complete hversion hcomplete
    rw [hprocess, normalizeActiveSlotOptionIds_of_current h.restorable.slotCurrent,
      stripLegacyUndoRewardDeltas_of_stripped (h.restorable.deltasComplete hcomplete),
      consumeMigrationNotice_frame, ← hnotice]
  have hplayer : (character.process lookupFormType available).player = character.player := by
    have hcalls : callsCleanup (normalizeLoadedSnapshot lookupFormType none
        (snapshotState character.state)) = false := callsCleanup_of_complete hversion hcomplete
    exact if_neg (by rw [hcalls]; exact Bool.false_ne_true)
  calc character.process lookupFormType available
      = ⟨(character.process lookupFormType available).state,
          (character.process lookupFormType available).player⟩ := rfl
    _ = ⟨character.state, character.player⟩ := by rw [hstate, hplayer]

/-- A pass over a pending migration finishes it with the cleanup, or leaves it pending. -/
theorem Follows.process_pending (h : Follows first player character false)
    (hpending : first.buildMigrationState = .kPendingCleanup)
    (htotals : first.rewardTotals.size ≠ 0) (available : Bool) :
    Follows first player (character.process lookupFormType available)
      (finishesMigration (character.process lookupFormType available)) := by
  obtain ⟨hbefore, hstate, hsame⟩ := h.before rfl
  have hversion : kBuildMigrationVersion ≤ character.state.buildMigrationVersion := by
    rw [h.version]
    exact UInt32.le_refl _
  have hstill : character.state.buildMigrationState = .kPendingCleanup := hstate.trans hpending
  have hrestorable : Restorable (character.process lookupFormType available).state :=
    restorable_process h.restorable.toReadable lookupFormType _
  obtain ⟨hplayer, hnext⟩ := Character.process_pending lookupFormType available hversion hstill
    (by rw [hsame.size_eq]; exact htotals)
  rw [consumeMigrationNotice_frame] at hnext
  cases hsucceeded : (character.cleanup available).succeeded with
  | true =>
    rw [hsucceeded, if_pos rfl] at hnext
    have hcomplete : (character.process lookupFormType available).state.buildMigrationState =
        .kComplete := by rw [hnext]; rfl
    have hfinishes : finishesMigration (character.process lookupFormType available) =
        true := decide_eq_true hcomplete
    rw [hfinishes]
    exact
      { restorable := hrestorable
        version := by rw [hnext]; rfl
        score := by rw [hnext]; exact h.score
        pointsCenti := by rw [hnext]; exact h.pointsCenti
        before := nofun
        after := fun _ => ⟨⟨available, character.state.rewardTotals, hsame, by
          rw [hplayer, ← hbefore]; rfl⟩, hcomplete, by rw [hnext]; rfl, by rw [hnext]⟩ }
  | false =>
    rw [hsucceeded, if_neg Bool.false_ne_true] at hnext
    have hagain : (character.process lookupFormType available).state.buildMigrationState =
        .kPendingCleanup := by rw [hnext]; exact hstill
    have hfinishes : finishesMigration (character.process lookupFormType available) =
        false := by simp [finishesMigration, hagain]
    rw [hfinishes]
    exact
      { restorable := hrestorable
        version := by rw [hnext]; exact h.version
        score := by rw [hnext]; exact h.score
        pointsCenti := by rw [hnext]; exact h.pointsCenti
        before := fun _ => ⟨by rw [hplayer, ← hbefore]; exact player_of_failed hsucceeded,
          hagain.trans hpending.symm, by rw [hnext]; exact hsame⟩
        after := nofun }

/-- Where nothing has to be cleaned up, the first pass finishes the migration. -/
theorem Follows.process_complete (h : Follows first player character false)
    (hcomplete : first.buildMigrationState = .kComplete) (hempty : first.rewardTotals.size = 0)
    (available : Bool) :
    Follows first player (character.process lookupFormType available)
      (finishesMigration (character.process lookupFormType available)) := by
  obtain ⟨hbefore, hstate, hsame⟩ := h.before rfl
  have hversion : kBuildMigrationVersion ≤ character.state.buildMigrationVersion := by
    rw [h.version]
    exact UInt32.le_refl _
  have hstill : character.state.buildMigrationState = .kComplete := hstate.trans hcomplete
  have hnext : (character.process lookupFormType available).state = _ :=
    process_of_complete hversion hstill
  rw [consumeMigrationNotice_frame] at hnext
  have hcalls : callsCleanup (normalizeLoadedSnapshot lookupFormType none
      (snapshotState character.state)) = false := callsCleanup_of_complete hversion hstill
  have hplayer : (character.process lookupFormType available).player = player :=
    (if_neg (by rw [hcalls]; exact Bool.false_ne_true)).trans hbefore
  have hagain : (character.process lookupFormType available).state.buildMigrationState =
      .kComplete := by rw [hnext]; exact hstill
  have hfinishes : finishesMigration (character.process lookupFormType available) = true :=
    decide_eq_true hagain
  have hnothing : (cleanupLegacyRewardTotals available first.rewardTotals player).player =
      player := player_of_empty hempty
  rw [hfinishes]
  exact
    { restorable := restorable_process h.restorable.toReadable lookupFormType _
      version := by rw [hnext]; exact h.version
      score := by rw [hnext]; exact h.score
      pointsCenti := by rw [hnext]; exact h.pointsCenti
      before := nofun
      after := fun _ => ⟨⟨available, first.rewardTotals, .refl _, hplayer.trans hnothing.symm⟩,
        hagain, by rw [hnext]; exact hsame.size_eq.trans hempty, by rw [hnext]⟩ }

theorem Follows.process (h : Follows first player character finished)
    (hfirst : first.buildMigrationState =
      if first.rewardTotals.size ≠ 0 then .kPendingCleanup else .kComplete) (available : Bool) :
    Follows first player (character.process lookupFormType available)
      (finished || finishesMigration (character.process lookupFormType available)) := by
  cases finished with
  | true =>
    rw [h.process_finished]
    exact h
  | false =>
    by_cases htotals : first.rewardTotals.size ≠ 0
    · rw [if_pos htotals] at hfirst
      exact h.process_pending hfirst htotals available
    · rw [if_neg htotals] at hfirst
      exact h.process_complete hfirst (not_not.mp htotals) available

/-! ## Every run -/

/-- The save gives a character that follows, whatever was before its load. -/
def Keeps (lookupFormType : FormTypeLookup) (first : RuntimeState Float32)
    (player : ActorValues Float32) (saved : SavedGame) : Prop :=
  ∀ before, Follows first player (saved.load lookupFormType before) saved.finished

/-- A save of a character that follows gives it back. -/
theorem Follows.keeps (h : Follows first player character finished)
    {accepts : Nat → Bool} {records : List Record}
    (hsave : save accepts character.state = (true, records)) :
    Keeps lookupFormType first player ⟨records, some, character.player, finished⟩ := by
  intro before
  have hversion : kBuildMigrationVersion ≤ character.state.buildMigrationVersion := by
    rw [h.version]
    exact UInt32.le_refl _
  obtain ⟨hrestores, -⟩ := load_saved h.restorable hversion (resolvesStored_some _) hsave
    lookupFormType (revert (resetForLoad before))
  have hdecode := decode_saved h.restorable.toReadable.storable (resolvesStored_some _) hsave
  have hrestorable : Restorable (load some lookupFormType records
      (revert (resetForLoad before))).state := by
    rw [load_state, hdecode]
    exact (restorable_normalize (readable_decodeRecords readable_default hdecode) _ _).1
  exact
    { restorable := hrestorable
      version := hrestores.buildMigrationVersion.trans h.version
      score := hrestores.score.trans h.score
      pointsCenti := hrestores.pointsCenti.trans h.pointsCenti
      before := fun hbefore =>
        have ⟨hplayer, hstate, hsame⟩ := h.before hbefore
        ⟨hplayer, hrestores.buildMigrationState.trans hstate,
          hrestores.rewardTotals.trans hsame⟩
      after := fun hafter =>
        have ⟨hplayer, hcomplete, hempty, hnotice⟩ := h.after hafter
        ⟨hplayer, hrestores.buildMigrationState.trans hcomplete,
          hrestores.rewardTotals.size_eq.trans hempty, by
            show (load some lookupFormType records
              (revert (resetForLoad before))).state.buildMigrationNotice.needsNotice = false
            rw [hrestores.buildMigrationNotice]
            exact hnotice⟩ }

/-- The old co-save gives the state that is derived from it. -/
theorem keeps_legacy (lookupFormType : FormTypeLookup) {decoded : Snapshot Float32}
    (hdecode : decodeRecords legacy.resolveFormID legacy.records {} = some decoded)
    (hold : decoded.buildMigrationVersion < kBuildMigrationVersion)
    (hfinished : legacy.finished = false) :
    Keeps lookupFormType (legacy.load lookupFormType {}).state legacy.player legacy := by
  intro before
  have hstate : ∀ before : RuntimeState Float32, (legacy.load lookupFormType before).state =
      normalizeLoadedSnapshot lookupFormType none decoded := by
    intro before
    show (load _ _ _ _).state = _
    rw [load_state, hdecode]
  have hmigrated : Migrated lookupFormType none decoded
      (normalizeLoadedSnapshot lookupFormType none decoded) := normalize_of_old hold
  rw [hfinished]
  exact
    { restorable := by
        rw [hstate]
        exact (restorable_normalize (readable_decodeRecords readable_default hdecode) _ _).1
      version := by
        rw [hstate]
        exact hmigrated.buildMigrationVersion
      score := by rw [hstate, hstate]
      pointsCenti := by rw [hstate, hstate]
      before := fun _ => ⟨rfl, by rw [hstate, hstate], by rw [hstate, hstate]; exact .refl _⟩
      after := nofun }

/-- The character and the latest save keep what was loaded first. -/
theorem invariant_follows {decoded : Snapshot Float32}
    (hdecode : decodeRecords legacy.resolveFormID legacy.records {} = some decoded)
    (hold : decoded.buildMigrationVersion < kBuildMigrationVersion)
    (hfinished : legacy.finished = false) :
    (MigrationRun.system lookupFormType legacy).Invariant fun run =>
      Follows (legacy.load lookupFormType {}).state legacy.player run.character run.finished ∧
        Keeps lookupFormType (legacy.load lookupFormType {}).state legacy.player run.latest where
  init run hinit := by
    obtain rfl := hinit
    have hkeeps := keeps_legacy lookupFormType hdecode hold hfinished
    exact ⟨hkeeps {}, hkeeps⟩
  step run run' h hstep := by
    have hfirst : (legacy.load lookupFormType {}).state.buildMigrationState =
        if (legacy.load lookupFormType {}).state.rewardTotals.size ≠ 0 then .kPendingCleanup
        else .kComplete := by
      have hmigrated : Migrated lookupFormType none decoded
        (normalizeLoadedSnapshot lookupFormType none decoded) := normalize_of_old hold
      have hstate : (legacy.load lookupFormType {}).state =
          normalizeLoadedSnapshot lookupFormType none decoded := by
        show (load _ _ _ _).state = _
        rw [load_state, hdecode]
      rw [hstate, hmigrated.rewardTotals]
      exact state_normalize_of_old hold
    cases hstep with
    | pass available => exact ⟨h.1.process hfirst available, h.2⟩
    | save accepts records hsave => exact ⟨h.1, h.1.keeps hsave⟩
    | reload => exact ⟨h.2 run.character.state, h.2⟩

end Invariant

/-- Normalising twice is normalising once.  And in every run that starts with the load
of an old co-save: scores and points stay as they were derived; nothing is taken from the
player but the totals loaded first, and these once, by the pass that leaves the migration
complete; from then on no totals and no legacy reward deltas are left, and a pass changes
nothing. -/
theorem migration_happens_once {lookupFormType : FormTypeLookup} {legacy : SavedGame}
    {decoded : Snapshot Float32}
    (hdecode : decodeRecords legacy.resolveFormID legacy.records {} = some decoded)
    (hold : decoded.buildMigrationVersion < kBuildMigrationVersion)
    (hfinished : legacy.finished = false) {run : MigrationRun}
    (hreachable : (MigrationRun.system lookupFormType legacy).Reachable run) :
    (∀ {F : Type} (lookupFormType : FormTypeLookup) (resolver : Option LegacyDisciplineResolver)
      (snapshot : Snapshot F),
      normalizeLoadedSnapshot lookupFormType resolver
          (normalizeLoadedSnapshot lookupFormType resolver snapshot) =
        normalizeLoadedSnapshot lookupFormType resolver snapshot) ∧
    run.character.state.score = (legacy.load lookupFormType {}).state.score ∧
    run.character.state.pointsCenti = (legacy.load lookupFormType {}).state.pointsCenti ∧
    (run.finished = false → run.character.player = legacy.player) ∧
    (run.finished = true →
      (∃ available totals, totals.Same (legacy.load lookupFormType {}).state.rewardTotals ∧
        run.character.player =
          (cleanupLegacyRewardTotals available totals legacy.player).player) ∧
      run.character.state.buildMigrationState = .kComplete ∧
      run.character.state.rewardTotals.size = 0 ∧
      (∀ record ∈ run.character.state.undoHistory, record.rewardDeltas = []) ∧
      ∀ available, run.character.process lookupFormType available = run.character) := by
  refine ⟨fun lookupFormType resolver snapshot => normalizeLoadedSnapshot_idem _ _ _, ?_⟩
  have hfollows := ((invariant_follows hdecode hold hfinished).reachable hreachable).1
  refine ⟨hfollows.score, hfollows.pointsCenti, fun hbefore => (hfollows.before hbefore).1,
    fun hafter => ?_⟩
  obtain ⟨hplayer, hcomplete, hempty, -⟩ := hfollows.after hafter
  refine ⟨hplayer, hcomplete, hempty, hfollows.restorable.deltasComplete hcomplete, ?_⟩
  rw [hafter] at hfollows
  exact hfollows.process_finished

section OldRewards

/-- The old co-save with one weapon, and with 25 points of health as a reward. -/
def oldRewardsFile : List Record :=
  oldUndoFile ++ [({ type := kRecordRewards
                     version := 1
                     contents := toBytes (1 : UInt32) ++ toBytes ActorValue.kHealth.raw ++
                       toBytes (0x41C80000 : UInt32)
                     fits := by decide } : WrittenRecord).toRecord]

def oldRewardsSnapshot : Snapshot Float32 :=
  { oldUndoSnapshot with
    rewardTotals := UnorderedMap.insertAll
      [(.kHealth, Rewards.clampRewardTotal .kHealth (.ofBits 0x41C80000))] ∅ }

theorem decode_oldRewardsFile :
    decodeRecords some oldRewardsFile {} = some oldRewardsSnapshot := rfl

def oldRewardsGame : SavedGame := ⟨oldRewardsFile, some, ⟨fun _ => 0, fun _ => 0⟩, false⟩

/-- The character that was loaded. -/
def oldRewardsCharacter : Character Float32 := oldRewardsGame.load (fun _ => some .Weapon) {}

theorem state_oldRewardsCharacter : oldRewardsCharacter.state =
    normalizeLoadedSnapshot (fun _ => some .Weapon) none oldRewardsSnapshot := by
  have hload : oldRewardsCharacter.state =
      (load some (fun _ => some .Weapon) oldRewardsFile (revert (resetForLoad {}))).state := rfl
  rw [hload, load_state, decode_oldRewardsFile]

/-- The pass takes the points from the player, and finishes the migration. -/
theorem migration_happens_once_oldRewards :
    oldRewardsCharacter.state.rewardTotals.size = 1 ∧
      ∃ available totals, totals.Same oldRewardsCharacter.state.rewardTotals ∧
        (oldRewardsCharacter.process (fun _ => some .Weapon) true).player =
          (cleanupLegacyRewardTotals available totals oldRewardsGame.player).player := by
  have hsize : oldRewardsCharacter.state.rewardTotals.size = 1 := by
    rw [state_oldRewardsCharacter]
    rfl
  have hversion : kBuildMigrationVersion ≤ oldRewardsCharacter.state.buildMigrationVersion := by
    rw [state_oldRewardsCharacter]
    decide
  have hpending : oldRewardsCharacter.state.buildMigrationState = .kPendingCleanup := by
    rw [state_oldRewardsCharacter]
    rfl
  obtain ⟨-, hstate⟩ := Character.process_pending (fun _ => some .Weapon) true hversion hpending
    (by rw [hsize]; exact Nat.one_ne_zero)
  rw [consumeMigrationNotice_frame,
    show (oldRewardsCharacter.cleanup true).succeeded = true from succeeded_of_available _ _,
    if_pos rfl] at hstate
  have hfinishes : finishesMigration
      (oldRewardsCharacter.process (fun _ => some .Weapon) true) = true :=
    decide_eq_true (by rw [hstate]; rfl)
  have hreachable := (TransitionSystem.Reachable.of_init (T := MigrationRun.system
    (fun _ => some .Weapon) oldRewardsGame) rfl).step (.pass _ true)
  exact ⟨hsize, ((migration_happens_once decode_oldRewardsFile (by decide) rfl
    hreachable).2.2.2.2 hfinishes).1⟩

end OldRewards

end CodexOfPower
