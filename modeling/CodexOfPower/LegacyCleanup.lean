/-
# `CodexOfPower.LegacyCleanup` — taking legacy rewards from the player

Older versions put their rewards on the player's permanent modifiers.  When such a
co-save has been migrated, `CleanupLegacyRewardTotals` brings the totals under their
caps, on the player as well, and subtracts them.  It needs the player's actor values;
without them it fails, and is tried again after the next load.

Nothing but the base value and the permanent modifier is in what the player's
actor values read.

## What is not said

The log is left out.  The quick resync that a cleanup can ask for is a flag of its result;
what the worker then does is in `CodexOfPower.SyncScheduler`.
-/
import CodexOfPower.LegacyMigration
import CodexOfPower.Rewards
import CodexOfPower.RewardsResync

namespace CodexOfPower

open RE Builds BuildProgression SerializationStateStore

variable {F : Type} [FloatType F]

/-! ## The player -/

structure ActorValues (F : Type) where
  base : ActorValue → F
  permanentModifier : ActorValue → F

namespace ActorValues

def getActorValue (player : ActorValues F) (av : ActorValue) : F :=
  player.base av + player.permanentModifier av

def getPermanentActorValue (player : ActorValues F) (av : ActorValue) : F :=
  player.base av + player.permanentModifier av

/-- `RestoreActorValue(kPermanent, av, amount)` -/
def restoreActorValue (player : ActorValues F) (av : ActorValue) (amount : F) : ActorValues F :=
  { player with
    permanentModifier :=
      Function.update player.permanentModifier av (player.permanentModifier av + amount) }

end ActorValues

namespace Rewards

open RewardStateStore

/-! ## Caps on the player -/

structure RewardCapAdjustment (F : Type) where
  av : ActorValue
  before : F
  after : F

/-- The adjustments `ClampAll` returns. -/
def capAdjustments (totals : UnorderedMap ActorValue F) : List (RewardCapAdjustment F) :=
  totals.toPairs.filterMap fun (av, total) =>
    let clamped := clampRewardTotal av total
    if FloatType.abs (clamped - total) ≤ kRewardCapEpsilon then none
    else some { av, before := total, after := clamped }

/-- The body of the loop of `ApplyRewardCapAdjustmentsToPlayer`. -/
def applyRewardCapAdjustment (player : ActorValues F) (entry : RewardCapAdjustment F) :
    ActorValues F :=
  let delta := computeCapNormalizationDeltaFromSnapshot (player.base entry.av)
    (player.getActorValue entry.av) (player.getPermanentActorValue entry.av)
    (player.permanentModifier entry.av) entry.after kRewardCapEpsilon
  if -kRewardCapEpsilon ≤ delta then player else player.restoreActorValue entry.av delta

/-- `NormalizeRewardCapsOnStateAndPlayer`, with the player there. -/
def normalizeRewardCapsOnStateAndPlayer (totals : UnorderedMap ActorValue F)
    (player : ActorValues F) : UnorderedMap ActorValue F × ActorValues F :=
  (clampAll totals, (capAdjustments totals).foldl applyRewardCapAdjustment player)

/-! ## The cleanup -/

/-- What a cleanup leaves, and whether it succeeded. -/
structure Cleanup (F : Type) where
  succeeded : Bool
  rewardTotals : UnorderedMap ActorValue F
  player : ActorValues F
  /-- A quick resync of the carry weight is scheduled. -/
  quickResync : Bool := false

/-- The loop that subtracts the totals. -/
def subtractTotals (totals : List (ActorValue × F)) (player : ActorValues F) : ActorValues F :=
  totals.foldl (fun player entry => player.restoreActorValue entry.1 (-entry.2)) player

def cleanupLegacyRewardTotals (available : Bool) (rewardTotals : UnorderedMap ActorValue F)
    (player : ActorValues F) : Cleanup F :=
  if snapshotAppliedTotals rewardTotals = [] then
    { succeeded := true, rewardTotals := ∅, player }
  else if !available then { succeeded := false, rewardTotals, player }
  else
    let (rewardTotals, player) := normalizeRewardCapsOnStateAndPlayer rewardTotals player
    let totals := snapshotAppliedTotals rewardTotals
    { succeeded := true
      rewardTotals := ∅
      player := subtractTotals totals player
      quickResync := totals.any fun entry =>
        entry.1 = .kCarryWeight && kRewardCapEpsilon < FloatType.abs entry.2 }

/-- With the player there a cleanup always succeeds. -/
theorem succeeded_of_available (rewardTotals : UnorderedMap ActorValue F)
    (player : ActorValues F) :
    (cleanupLegacyRewardTotals true rewardTotals player).succeeded = true := by
  unfold cleanupLegacyRewardTotals
  split_ifs with hempty hnot
  · rfl
  · cases hnot
  · rfl

theorem player_of_empty {available : Bool} {rewardTotals : UnorderedMap ActorValue F}
    {player : ActorValues F} (h : rewardTotals.size = 0) :
    (cleanupLegacyRewardTotals available rewardTotals player).player = player := by
  have hpairs : rewardTotals.toPairs = [] := by
    rw [← List.length_eq_zero_iff, UnorderedMap.length_toPairs, h]
  have hnone : snapshotAppliedTotals rewardTotals = [] := by
    rw [snapshotAppliedTotals, hpairs]
    rfl
  rw [cleanupLegacyRewardTotals, if_pos hnone]

/-- A cleanup that fails leaves the player alone. -/
theorem player_of_failed {available : Bool} {rewardTotals : UnorderedMap ActorValue F}
    {player : ActorValues F}
    (h : (cleanupLegacyRewardTotals available rewardTotals player).succeeded = false) :
    (cleanupLegacyRewardTotals available rewardTotals player).player = player := by
  unfold cleanupLegacyRewardTotals at h ⊢
  split_ifs at h ⊢
  rfl

end Rewards

/-! ## The pass -/

/-- The state of the plugin, and the player it is about. -/
structure Character (F : Type) where
  state : RuntimeState F
  player : ActorValues F

/-- `TryFinalizePendingMigration` calls the cleanup only where totals are left. -/
def callsCleanup (snapshot : Snapshot F) : Bool :=
  kBuildMigrationVersion ≤ snapshot.buildMigrationVersion &&
    snapshot.buildMigrationState = .kPendingCleanup && snapshot.rewardTotals.size ≠ 0

/-- `ProcessBuildMigrationState`, with the player. -/
def Character.process (lookupFormType : FormTypeLookup) (available : Bool)
    (character : Character F) : Character F :=
  let cleanup := Rewards.cleanupLegacyRewardTotals available character.state.rewardTotals
    character.player
  { state :=
      (processBuildMigrationState lookupFormType (fun _ => cleanup.succeeded)
        character.state).1
    player :=
      if callsCleanup
          (normalizeLoadedSnapshot lookupFormType none (snapshotState character.state)) then
        cleanup.player
      else character.player }

/-! ## What a pass does -/

section Pass
omit [FloatType F]

variable {state : RuntimeState F} {lookupFormType : FormTypeLookup} {cleanup : Snapshot F → Bool}

theorem process_of_pending (hversion : kBuildMigrationVersion ≤ state.buildMigrationVersion)
    (hpending : state.buildMigrationState = .kPendingCleanup) :
    (processBuildMigrationState lookupFormType cleanup state).1 =
      let cleared := clearActiveSlots (normalizeActiveSlotOptionIds state)
      (consumeMigrationNotice
        (if state.rewardTotals.size = 0 || cleanup cleared then
          stripLegacyUndoRewardDeltas { cleared with
            rewardTotals := ∅
            buildMigrationVersion := kBuildMigrationVersion
            buildMigrationState := .kComplete }
        else cleared)).1 := by
  have hnormal : normalizeLoadedSnapshot lookupFormType none state =
      clearActiveSlots (normalizeActiveSlotOptionIds state) :=
    normalize_of_pending hversion hpending
  have hcurrent : ¬ (clearActiveSlots (normalizeActiveSlotOptionIds
      state)).buildMigrationVersion < kBuildMigrationVersion := UInt32.not_lt.mpr hversion
  have hstill : ¬ (clearActiveSlots (normalizeActiveSlotOptionIds
      state)).buildMigrationState ≠ .kPendingCleanup := not_not.mpr hpending
  have hcleaned : (decide ((clearActiveSlots (clearActiveSlots
      (normalizeActiveSlotOptionIds state))).rewardTotals.size = 0) ||
      (some cleanup).any fun cleanup =>
        cleanup (clearActiveSlots (clearActiveSlots (normalizeActiveSlotOptionIds state)))) =
      (decide (state.rewardTotals.size = 0) ||
        cleanup (clearActiveSlots (normalizeActiveSlotOptionIds state))) := rfl
  unfold processBuildMigrationState tryFinalizePendingMigration
  dsimp only
  rw [snapshotState_eq, hnormal, if_neg hcurrent, if_neg hstill, hcleaned]
  cases decide (state.rewardTotals.size = 0) ||
      cleanup (clearActiveSlots (normalizeActiveSlotOptionIds state)) with
  | true => rfl
  | false => rfl

/-- A completed migration is not taken up again. -/
theorem process_of_complete (hversion : kBuildMigrationVersion ≤ state.buildMigrationVersion)
    (hcomplete : state.buildMigrationState = .kComplete) :
    (processBuildMigrationState lookupFormType cleanup state).1 =
      (consumeMigrationNotice
        (stripLegacyUndoRewardDeltas (normalizeActiveSlotOptionIds state))).1 := by
  have hnormal : normalizeLoadedSnapshot lookupFormType none state =
      stripLegacyUndoRewardDeltas (normalizeActiveSlotOptionIds state) :=
    normalize_of_complete hversion hcomplete
  have hcurrent : ¬ (stripLegacyUndoRewardDeltas (normalizeActiveSlotOptionIds
      state)).buildMigrationVersion < kBuildMigrationVersion := UInt32.not_lt.mpr hversion
  have hother : (stripLegacyUndoRewardDeltas (normalizeActiveSlotOptionIds
      state)).buildMigrationState ≠ .kPendingCleanup := by
    show state.buildMigrationState ≠ .kPendingCleanup
    rw [hcomplete]
    nofun
  have hfinished : (stripLegacyUndoRewardDeltas (normalizeActiveSlotOptionIds
      state)).buildMigrationState = .kComplete := hcomplete
  have hstripped : stripLegacyUndoRewardDeltas (stripLegacyUndoRewardDeltas
      (normalizeActiveSlotOptionIds state)) =
      stripLegacyUndoRewardDeltas (normalizeActiveSlotOptionIds state) := by
    simp [stripLegacyUndoRewardDeltas]
  unfold processBuildMigrationState tryFinalizePendingMigration
  dsimp only
  rw [snapshotState_eq, hnormal, if_neg hcurrent, if_pos hother, if_pos hfinished, hstripped,
    replaceState_eq]

theorem callsCleanup_of_pending (hversion : kBuildMigrationVersion ≤ state.buildMigrationVersion)
    (hpending : state.buildMigrationState = .kPendingCleanup) :
    callsCleanup (normalizeLoadedSnapshot lookupFormType none (snapshotState state)) =
      decide (state.rewardTotals.size ≠ 0) := by
  rw [snapshotState_eq, normalize_of_pending hversion hpending]
  show (decide (kBuildMigrationVersion ≤ state.buildMigrationVersion) &&
    decide (state.buildMigrationState = .kPendingCleanup) &&
    decide (state.rewardTotals.size ≠ 0)) = _
  rw [decide_eq_true hversion, decide_eq_true hpending, Bool.true_and, Bool.true_and]

theorem callsCleanup_of_complete
    (hversion : kBuildMigrationVersion ≤ state.buildMigrationVersion)
    (hcomplete : state.buildMigrationState = .kComplete) :
    callsCleanup (normalizeLoadedSnapshot lookupFormType none (snapshotState state)) = false := by
  rw [snapshotState_eq, normalize_of_complete hversion hcomplete]
  have hother : ¬ state.buildMigrationState = .kPendingCleanup := by
    rw [hcomplete]
    nofun
  show (decide (kBuildMigrationVersion ≤ state.buildMigrationVersion) &&
    decide (state.buildMigrationState = .kPendingCleanup) &&
    decide (state.rewardTotals.size ≠ 0)) = false
  rw [decide_eq_false hother, Bool.and_false, Bool.false_and]

theorem consumeMigrationNotice_frame (snapshot : Snapshot F) :
    (consumeMigrationNotice snapshot).1 =
      { snapshot with
        buildMigrationNotice := { snapshot.buildMigrationNotice with needsNotice := false } } := by
  unfold consumeMigrationNotice
  cases hneeds : snapshot.buildMigrationNotice.needsNotice with
  | true => rfl
  | false =>
    rw [Bool.not_false, if_pos rfl, ← hneeds]

end Pass

/-! ## A pass over a character -/

section Character
variable {character : Character F}

def Character.cleanup (available : Bool) (character : Character F) : Rewards.Cleanup F :=
  Rewards.cleanupLegacyRewardTotals available character.state.rewardTotals character.player

/-- A pending migration with totals left: it ends with the cleanup, or stays pending. -/
theorem Character.process_pending (lookupFormType : FormTypeLookup) (available : Bool)
    (hversion : kBuildMigrationVersion ≤ character.state.buildMigrationVersion)
    (hpending : character.state.buildMigrationState = .kPendingCleanup)
    (htotals : character.state.rewardTotals.size ≠ 0) :
    ((character.process lookupFormType available).player =
        (character.cleanup available).player) ∧
      (character.process lookupFormType available).state =
        (consumeMigrationNotice
          (if (character.cleanup available).succeeded then
            stripLegacyUndoRewardDeltas { clearActiveSlots
                (normalizeActiveSlotOptionIds character.state) with
              rewardTotals := ∅
              buildMigrationVersion := kBuildMigrationVersion
              buildMigrationState := .kComplete }
          else clearActiveSlots (normalizeActiveSlotOptionIds character.state))).1 := by
  constructor
  · have hcalls : callsCleanup (normalizeLoadedSnapshot lookupFormType none
        (snapshotState character.state)) = true := by
      rw [callsCleanup_of_pending hversion hpending, decide_eq_true htotals]
    exact if_pos hcalls
  · have hstate : (processBuildMigrationState lookupFormType
        (fun _ => (character.cleanup available).succeeded) character.state).1 = _ :=
      process_of_pending hversion hpending
    rw [decide_eq_false htotals, Bool.false_or] at hstate
    exact hstate

end Character

end CodexOfPower
