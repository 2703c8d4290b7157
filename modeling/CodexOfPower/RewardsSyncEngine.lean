/-
# `CodexOfPower.RewardsSyncEngine` — one pass of the reward sync

A pass compares the total of every actor value with what the player has of it, and
gives the player what is missing once it has been missing for a few passes.  What the
game's actor values do is not ours: the player is whatever answers the readings
(`ActorValueOwner`), of which the one of the cleanup is a case.

## What is not said

When a pass is made, and how often, is in `CodexOfPower.SyncScheduler`.  The log is left
out.
-/
import CodexOfPower.LegacyCleanup
import CodexOfPower.RewardsResync

namespace CodexOfPower

open RE

/-- The calls on the player, of type `P`. -/
structure ActorValueOwner (P F : Type) where
  getBaseActorValue : P → ActorValue → F
  getActorValue : P → ActorValue → F
  getPermanentActorValue : P → ActorValue → F
  /-- `GetActorValueModifier(kPermanent, av)` -/
  permanentModifier : P → ActorValue → F
  /-- `GetActorValueModifier(kTemporary, av)` -/
  temporaryModifier : P → ActorValue → F
  /-- `RestoreActorValue(kPermanent, av, amount)` -/
  restoreActorValue : P → ActorValue → F → P
  modActorValue : P → ActorValue → F → P
  refreshEquippedWeaponAbilities : P → P

namespace Rewards

open RewardStateStore

/-! ## The data of a run -/

structure RewardSyncPassState where
  missingStreaks : UnorderedMap ActorValue UInt32 := ∅
  nonConvergingActorValues : UnorderedSet ActorValue := ∅
  normalizeCapsOnFirstPass : Bool := true
  weaponAbilityRefreshRequested : Bool := false
  generation : UInt64 := 0
  readinessDeadlineMs : UInt64 := 0

structure RewardSyncPassResult where
  correctedCount : Nat := 0
  pendingCount : Nat := 0

/-- What a pass works on. -/
structure Game (P F : Type) where
  player : P
  rewardTotals : UnorderedMap ActorValue F

def nextMissingStreak {F : Type} [FloatType F] (delta : F) (currentStreak : UInt32) : UInt32 :=
  if FloatType.abs delta ≤ kRewardCapEpsilon then 0 else currentStreak + 1

def shouldApplyAfterStreak {F : Type} [FloatType F] (delta : F)
    (streak requiredStreak : UInt32) : Bool :=
  kRewardCapEpsilon < FloatType.abs delta ∧ requiredStreak ≤ streak

def shouldStopSyncAfterPass (correctedCount pendingCount : Nat) : Bool :=
  correctedCount = 0 ∧ pendingCount = 0

namespace Engine

variable {P F : Type} [FloatType F] (owner : ActorValueOwner P F)

def snapshotRewardTotalForActorValue (totals : UnorderedMap ActorValue F) (av : ActorValue) : F :=
  match totals.lookup av with
  | none => 0.0
  | some total =>
    let applied := actorAppliedRewardTotal av (clampRewardTotal av total)
    if kRewardCapEpsilon < FloatType.abs applied then applied else 0.0

/-! ## Before the first pass -/

/-- The body of the loop of `ApplyRewardCapAdjustmentsToPlayer`. -/
def applyRewardCapAdjustment (player : P) (entry : RewardCapAdjustment F) : P :=
  let delta := computeCapNormalizationDeltaFromSnapshot (owner.getBaseActorValue player entry.av)
    (owner.getActorValue player entry.av) (owner.getPermanentActorValue player entry.av)
    (owner.permanentModifier player entry.av) entry.after kRewardCapEpsilon
  if -kRewardCapEpsilon ≤ delta then player else owner.restoreActorValue player entry.av delta

def normalizeRewardCapsOnStateAndPlayer (game : Game P F) : Game P F where
  player := (capAdjustments game.rewardTotals).foldl (applyRewardCapAdjustment owner) game.player
  rewardTotals := clampAll game.rewardTotals

/-- A total of the attack damage is of an older version: it is taken back, as far as it
can be seen on the player. -/
def migrateLegacyAttackDamageMultReward (passState : RewardSyncPassState) (game : Game P F) :
    RewardSyncPassState × Game P F :=
  match game.rewardTotals.lookup .kAttackDamageMult with
  | none => (passState, game)
  | some legacyTotal =>
    let game := { game with rewardTotals := game.rewardTotals.erase .kAttackDamageMult }
    if FloatType.abs legacyTotal ≤ kRewardCapEpsilon then (passState, game)
    else
      let base := owner.getBaseActorValue game.player .kAttackDamageMult
      let observed := selectObservedRewardTotal legacyTotal
        (owner.getActorValue game.player .kAttackDamageMult - base)
        (owner.getPermanentActorValue game.player .kAttackDamageMult - base)
        (owner.permanentModifier game.player .kAttackDamageMult)
      -- `std::clamp`
      let removable :=
        if observed < 0.0 then 0.0 else if legacyTotal < observed then legacyTotal else observed
      if kRewardCapEpsilon < removable then
        ({ passState with weaponAbilityRefreshRequested := true },
          { game with
            player := owner.modActorValue game.player .kAttackDamageMult (-removable) })
      else (passState, game)

def prepareRewardSyncPass (passState : RewardSyncPassState) (game : Game P F) :
    RewardSyncPassState × Game P F :=
  if !passState.normalizeCapsOnFirstPass then (passState, game)
  else
    let (passState, game) := migrateLegacyAttackDamageMultReward owner
      { passState with normalizeCapsOnFirstPass := false } game
    (passState, normalizeRewardCapsOnStateAndPlayer owner game)

/-! ## A pass -/

def isBaseStickyRewardActorValue (av : ActorValue) : Bool :=
  av ∈ [ActorValue.kHealth, .kMagicka, .kStamina]

/-- The reward is on the temporary modifier, where older versions put it. -/
def isMigrationCandidate (player : P) (av : ActorValue) (total : F) : Bool :=
  isBaseStickyRewardActorValue av && owner.permanentModifier player av ≤ kRewardCapEpsilon &&
    kRewardCapEpsilon < total && total - kRewardCapEpsilon ≤ owner.temporaryModifier player av

/-- The delta by the rule of the actor value, before and after it is applied. -/
def syncDelta (migrating : Bool) (player : P) (av : ActorValue) (total : F) : F :=
  let base := owner.getBaseActorValue player av
  let cur := owner.getActorValue player av
  let permanent := owner.getPermanentActorValue player av
  let permanentModifier := owner.permanentModifier player av
  if av = .kCarryWeight then
    computeCarryWeightSyncDelta base cur permanent permanentModifier total kRewardCapEpsilon
  else
    match tryGetRewardCap av with
    | some cap => computeCappedRewardSyncDeltaFromSnapshot base cur permanent permanentModifier
        total cap kRewardCapEpsilon
    | none =>
      if isBaseStickyRewardActorValue av && !migrating then
        computeBaseStickyRewardSyncDelta base cur permanent permanentModifier total
          kRewardCapEpsilon
      else computeRewardSyncDelta permanentModifier total kRewardCapEpsilon

/-- No persistent modifier shows the reward, so none is given in this run. -/
def suppressed (migrating : Bool) (player : P) (av : ActorValue) (total delta : F) : Bool :=
  isBaseStickyRewardActorValue av && !migrating && kRewardCapEpsilon < FloatType.abs total &&
    FloatType.abs delta ≤ kRewardCapEpsilon &&
    shouldSuppressBaseStickyPositiveSync
      (owner.getPermanentActorValue player av - owner.getBaseActorValue player av)
      (owner.permanentModifier player av) total kRewardCapEpsilon

/-- The shout cooldown is not lowered under 0.30; none where it is there already. -/
def shoutBounded (player : P) (av : ActorValue) (delta : F) : Option F :=
  if av = .kShoutRecoveryMult then
    let cur := owner.getActorValue player av
    if cur ≤ 0.30 then none
    else if cur + delta < 0.30 then some (0.30 - cur)
    else some delta
  else some delta

/-- The delta goes to the permanent modifier, from the temporary one where it is there. -/
def giveReward (player : P) (av : ActorValue) (delta : F) : P :=
  let permanentModifier := owner.permanentModifier player av
  let player := owner.restoreActorValue player av delta
  if permanentModifier ≤ kRewardCapEpsilon ∧ kRewardCapEpsilon < delta ∧
      delta - kRewardCapEpsilon ≤ owner.temporaryModifier player av then
    owner.modActorValue player av (-delta)
  else player

structure Pass (P : Type) where
  passState : RewardSyncPassState
  player : P
  result : RewardSyncPassResult := {}

/-- An actor value is given its delta, and is left alone in this run if that shows no effect. -/
def correct (migrating : Bool) (pass : Pass P) (av : ActorValue) (total delta : F) : Pass P :=
  let player := giveReward owner pass.player av delta
  let postDelta := syncDelta owner migrating player av total
  { passState :=
      { pass.passState with
        weaponAbilityRefreshRequested :=
          pass.passState.weaponAbilityRefreshRequested || av = .kAttackDamageMult
        nonConvergingActorValues :=
          if kRewardCapEpsilon < FloatType.abs postDelta ∧
              FloatType.abs (postDelta - delta) ≤ kRewardCapEpsilon then
            pass.passState.nonConvergingActorValues.emplace av ()
          else pass.passState.nonConvergingActorValues }
    player
    result := { pass.result with correctedCount := pass.result.correctedCount + 1 } }

/-- A delta that is due, within its bounds. -/
def applyDue (migrating : Bool) (pass : Pass P) (av : ActorValue) (total delta : F) : Pass P :=
  match shoutBounded owner pass.player av delta with
  | none => pass
  | some delta =>
    if FloatType.abs delta ≤ kRewardCapEpsilon then pass
    else correct owner migrating pass av total delta

/-- The body of the loop of `ApplyRewardSyncPass`. -/
def applyRewardSync (minMissingStreak : UInt32) (pass : Pass P) (entry : ActorValue × F) :
    Pass P :=
  let (av, total) := entry
  if av ∈ pass.passState.nonConvergingActorValues then pass
  else
    let migrating := isMigrationCandidate owner pass.player av total
    let delta := syncDelta owner migrating pass.player av total
    let applyImmediately := av = .kCarryWeight && kRewardCapEpsilon < FloatType.abs delta
    let nonConverging :=
      if suppressed owner migrating pass.player av total delta then
        pass.passState.nonConvergingActorValues.emplace av ()
      else pass.passState.nonConvergingActorValues
    let streak := nextMissingStreak delta
      ((pass.passState.missingStreaks.lookup av).getD 0)
    if !applyImmediately && !shouldApplyAfterStreak delta streak minMissingStreak then
      { pass with
        passState := { pass.passState with
          nonConvergingActorValues := nonConverging
          missingStreaks := pass.passState.missingStreaks.insert av streak }
        result :=
          if kRewardCapEpsilon < FloatType.abs delta then
            { pass.result with pendingCount := pass.result.pendingCount + 1 }
          else pass.result }
    else
      applyDue owner migrating
        { pass with
          passState := { pass.passState with
            nonConvergingActorValues := nonConverging
            missingStreaks := pass.passState.missingStreaks.insert av 0 } }
        av total delta

def applyRewardSyncPass (minMissingStreak : UInt32) (passState : RewardSyncPassState)
    (game : Game P F) : Pass P :=
  (snapshotAppliedTotals game.rewardTotals).foldl (applyRewardSync owner minMissingStreak)
    { passState, player := game.player }

def finalizeRewardSyncPass (passState : RewardSyncPassState) (player : P) : P :=
  if !passState.weaponAbilityRefreshRequested then player
  else owner.refreshEquippedWeaponAbilities player

end Engine

/-! ## The quick resync of the carry weight -/

inductive CarryWeightQuickResyncAttemptResult
  | kDone
  | kRetryWithoutAttemptConsume
  | kRetryWithAttemptConsume
deriving DecidableEq

section QuickResync

variable {P F : Type} [FloatType F] (owner : ActorValueOwner P F)

def carryWeightDelta (player : P) (total : F) : F :=
  computeCarryWeightSyncDelta (owner.getBaseActorValue player .kCarryWeight)
    (owner.getActorValue player .kCarryWeight)
    (owner.getPermanentActorValue player .kCarryWeight)
    (owner.permanentModifier player .kCarryWeight) total kRewardCapEpsilon

/-- `TryCarryWeightQuickResyncAttempt`; `ready` is `IsRewardSyncEnvironmentReady`. -/
def tryCarryWeightQuickResyncAttempt (ready : Bool) (game : Game P F) :
    CarryWeightQuickResyncAttemptResult × P :=
  if !ready then (.kRetryWithoutAttemptConsume, game.player)
  else
    let total := Engine.snapshotRewardTotalForActorValue game.rewardTotals .kCarryWeight
    if FloatType.abs total ≤ kRewardCapEpsilon then (.kDone, game.player)
    else
      let delta := carryWeightDelta owner game.player total
      if FloatType.abs delta ≤ kRewardCapEpsilon then (.kDone, game.player)
      else
        let player := Engine.giveReward owner game.player .kCarryWeight delta
        let postDelta := carryWeightDelta owner player total
        if FloatType.abs postDelta ≤ kRewardCapEpsilon then (.kDone, player)
        else (.kRetryWithAttemptConsume, player)

end QuickResync

/-! ## The player of the cleanup -/

section Cleanup

variable {F : Type} [FloatType F]

/-- The player as the cleanup sees it: the actor values show nothing but the base and the
permanent modifier. -/
def cleanupOwner : ActorValueOwner (ActorValues F) F where
  getBaseActorValue player := player.base
  getActorValue player := player.getActorValue
  getPermanentActorValue player := player.getPermanentActorValue
  permanentModifier player := player.permanentModifier
  temporaryModifier _ _ := 0.0
  restoreActorValue player := player.restoreActorValue
  modActorValue player _ _ := player
  refreshEquippedWeaponAbilities player := player

/-- The cleanup normalises the caps as a pass does. -/
theorem normalizeRewardCaps_cleanupOwner (totals : UnorderedMap ActorValue F)
    (player : ActorValues F) :
    Engine.normalizeRewardCapsOnStateAndPlayer cleanupOwner ⟨player, totals⟩ =
      ⟨(normalizeRewardCapsOnStateAndPlayer totals player).2,
        (normalizeRewardCapsOnStateAndPlayer totals player).1⟩ := rfl

end Cleanup

end Rewards

end CodexOfPower
