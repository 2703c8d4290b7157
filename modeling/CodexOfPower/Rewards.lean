/-
# `CodexOfPower.Rewards` — legacy reward totals

Older versions of the plugin granted actor-value rewards and remembered their
totals.  What is left of that is modelled here: the caps, the clamped adjustment
of a total when an old undo record takes its deltas back, and the refund.  The
actor-value changes that go to the player are returned as lists.
-/
import CodexOfPower.State
import Mathlib.Tactic.NormNum

namespace CodexOfPower

open RE Registration

variable {F : Type} [FloatType F]

namespace Rewards

def kRewardCapEpsilon : F := 0.001

/-- The epsilon in exact arithmetic. -/
theorem kRewardCapEpsilon_rat : (kRewardCapEpsilon : ℚ) = 1 / 1000 := by
  show (0.001 : ℚ) = 1 / 1000
  norm_num

def kSkillActorSnapEpsilon : F := 0.0001

def isSkillActorValue (av : ActorValue) : Bool :=
  av ∈ [ActorValue.kOneHanded, .kTwoHanded, .kArchery, .kHeavyArmor, .kLightArmor, .kBlock,
    .kAlchemy, .kLockpicking, .kPickpocket]

/-- `TryGetRewardCap`: the cap, where there is one. -/
def tryGetRewardCap (av : ActorValue) : Option F :=
  if av = .kAttackDamageMult then some 1.0
  else if av = .kCriticalChance then some 50.0
  else if av ∈ [ActorValue.kResistMagic, .kResistFire, .kResistFrost, .kResistShock,
      .kPoisonResist, .kResistDisease] then some 85.0
  else if av ∈ [ActorValue.kAbsorbChance, .kReflectDamage] then some 80.0
  else if av = .kSpeedMult then some 0.50
  else none

def clampRewardTotal (av : ActorValue) (total : F) : F :=
  if !FloatType.isFinite total then 0.0
  else
    match tryGetRewardCap av with
    | none => total
    | some cap => if cap + kRewardCapEpsilon < total then cap else total

def actorAppliedRewardTotal (av : ActorValue) (total : F) : F :=
  let clamped := clampRewardTotal av total
  if !isSkillActorValue av then clamped
  else
    let rounded := FloatType.round clamped
    let snapped :=
      if FloatType.abs (clamped - rounded) ≤ kSkillActorSnapEpsilon then rounded else clamped
    FloatType.trunc snapped

end Rewards

/-! ## The store of totals -/

namespace RewardStateStore

open Rewards

structure RewardTotalTransition (F : Type) where
  existedBefore : Bool
  previousTotal : F
  nextTotal : F

def adjustClamped (totals : UnorderedMap ActorValue F) (av : ActorValue) (delta : F) :
    UnorderedMap ActorValue F × RewardTotalTransition F :=
  let existedBefore := (totals.lookup av).isSome
  let previousTotal := (totals.lookup av).getD 0.0
  let nextTotal := clampRewardTotal av (previousTotal + delta)
  let transition := { existedBefore, previousTotal, nextTotal }
  if FloatType.abs nextTotal ≤ kRewardCapEpsilon then
    (if existedBefore then totals.erase av else totals, transition)
  else (totals.insert av nextTotal, transition)

/-- `ClampAll`: every total brought under its cap, the vanished ones erased. -/
def clampAll (totals : UnorderedMap ActorValue F) : UnorderedMap ActorValue F :=
  totals.toPairs.foldl (fun (totals : UnorderedMap ActorValue F) entry =>
    let clamped := clampRewardTotal entry.1 entry.2
    if FloatType.abs (clamped - entry.2) ≤ kRewardCapEpsilon then totals
    else if FloatType.abs clamped ≤ kRewardCapEpsilon then totals.erase entry.1
    else totals.insert entry.1 clamped) totals

end RewardStateStore

/-! ## Taking rewards back -/

namespace Rewards

open RewardStateStore

/-- `Engine::SnapshotRewardTotals`: what the player has from each total. -/
def snapshotAppliedTotals (totals : UnorderedMap ActorValue F) : List (ActorValue × F) :=
  totals.toPairs.filterMap fun (av, total) =>
    let applied := actorAppliedRewardTotal av (clampRewardTotal av total)
    if kRewardCapEpsilon < FloatType.abs applied then some (av, applied) else none

/-- `RefundRewards`; nothing happens without the player's actor values. -/
def refundRewards (avOwner : Bool) (state : RuntimeState F) :
    RuntimeState F × List (ActorValue × F) :=
  if !avOwner then (state, [])
  else
    let totals := snapshotAppliedTotals (clampAll state.rewardTotals)
    ({ state with rewardTotals := ∅ }, totals.map fun (av, total) => (av, -total))

theorem refundRewards_frame (avOwner : Bool) (state : RuntimeState F) :
    (refundRewards avOwner state).1 =
      { state with rewardTotals := (refundRewards avOwner state).1.rewardTotals } := by
  unfold refundRewards
  split_ifs <;> rfl

/-- One entry of `RollbackRewardDeltas`. -/
def rollbackRewardDelta (totals : UnorderedMap ActorValue F) (entry : RewardDelta F) :
    UnorderedMap ActorValue F × Option (RewardDelta F) :=
  if FloatType.abs entry.delta ≤ kRewardCapEpsilon then (totals, none)
  else
    let (totals, transition) := adjustClamped totals entry.av (-entry.delta)
    if !transition.existedBefore then (totals, none)
    else
      let previousApplied := actorAppliedRewardTotal entry.av transition.previousTotal
      let nextApplied := actorAppliedRewardTotal entry.av transition.nextTotal
      let appliedActorDelta := nextApplied - previousApplied
      if kRewardCapEpsilon < FloatType.abs appliedActorDelta then
        (totals, some { av := entry.av, delta := appliedActorDelta })
      else (totals, none)

/-- `RollbackRewardDeltas`: the new state, and the adjustments made to the player. -/
def rollbackRewardDeltas (avOwner : Bool) (state : RuntimeState F)
    (deltas : List (RewardDelta F)) : RuntimeState F × List (RewardDelta F) :=
  if deltas = [] then (state, [])
  else if !avOwner then (state, [])
  else
    let (totals, adjustments) := deltas.foldl
      (fun (totals, adjustments) entry =>
        let (totals, adjustment) := rollbackRewardDelta totals entry
        (totals, adjustments ++ adjustment.toList))
      (state.rewardTotals, [])
    ({ state with rewardTotals := totals }, adjustments)

theorem rollbackRewardDeltas_frame (avOwner : Bool) (state : RuntimeState F)
    (deltas : List (RewardDelta F)) :
    (rollbackRewardDeltas avOwner state deltas).1 =
      { state with
        rewardTotals := (rollbackRewardDeltas avOwner state deltas).1.rewardTotals } := by
  unfold rollbackRewardDeltas
  split_ifs <;> rfl

end Rewards

end CodexOfPower
