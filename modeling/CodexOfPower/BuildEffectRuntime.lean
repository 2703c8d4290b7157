/-
# `CodexOfPower.BuildEffectRuntime` — from active options to the player

The active options determine a total for each actor value.  The ledger
`buildAppliedEffectTotals` remembers what was given to the player already, and a
sync gives the difference: it visits every actor value of either map, asks the
player for its current value, and may apply less than the difference (shout
recovery is never pushed under 0.30) or nothing (a difference below the epsilon).

`SyncCurrentBuildEffectsToPlayer` returns the calls it made to
`RestoreActorValue`; the readings it got are an argument.

## What is not said

What the game does with a modifier that was given is not modelled: between two syncs the
readings may be anything.  Neither is the log, nor the lock that the state is read under.
What follows for the ledger over many syncs is in `CodexOfPower.SyncLedger`.
-/
import CodexOfPower.Rewards
import CodexOfPower.StateStores

namespace CodexOfPower.Builds

open RE Rewards

variable {F : Type} [FloatType F]

/-! ## What the active options are worth -/

/-- The part of the state that the derived totals depend on. -/
structure BuildRuntimeSnapshot where
  attackScore : UInt32 := 0
  defenseScore : UInt32 := 0
  utilityScore : UInt32 := 0
  attackBuildPointsCenti : BuildPointCenti := 0
  defenseBuildPointsCenti : BuildPointCenti := 0
  utilityBuildPointsCenti : BuildPointCenti := 0
  activeBuildSlots : ActiveBuildSlots := fun _ => []

def buildPointsForDiscipline (snapshot : BuildRuntimeSnapshot) : BuildDiscipline → BuildPointCenti
  | .Attack => snapshot.attackBuildPointsCenti
  | .Defense => snapshot.defenseBuildPointsCenti
  | .Utility => snapshot.utilityBuildPointsCenti
  | .unnamed _ => 0

def toFloatMagnitude : BuildMagnitude F → Option F
  | .float value => some value
  | .int32 _ => none

def toIntMagnitude : BuildMagnitude F → Option Int32
  | .float _ => none
  | .int32 value => some value

/-- The chain of comparisons on an actor-value effect key, in the source's order. -/
def resolveActorValueKey (effectKey : Text) (amount : F) : List (ActorValue × F) :=
  if effectKey = utf8 "attack_damage_mult" then [(.kAttackDamageMult, amount / 100.0)]
  else if effectKey = utf8 "weapon_speed_mult" then [(.kWeaponSpeedMult, amount / 100.0)]
  else if effectKey = utf8 "critical_chance" then [(.kCriticalChance, amount)]
  else if effectKey = utf8 "melee_damage" then [(.kMeleeDamage, amount)]
  else if effectKey = utf8 "unarmed_damage" then [(.kUnarmedDamage, amount)]
  else if effectKey = utf8 "stamina" then [(.kStamina, amount)]
  else if effectKey = utf8 "stamina_rate" then [(.kStaminaRate, amount)]
  else if effectKey = utf8 "destruction_modifier" then [(.kDestructionModifier, amount)]
  else if effectKey = utf8 "damage_resist" then [(.kDamageResist, amount)]
  else if effectKey = utf8 "block_power_modifier" then [(.kBlockPowerModifier, amount)]
  else if effectKey = utf8 "health" then [(.kHealth, amount)]
  else if effectKey = utf8 "heal_rate" then [(.kHealRate, amount)]
  else if effectKey = utf8 "restoration_modifier" then [(.kRestorationModifier, amount)]
  else if effectKey = utf8 "reflect_damage" then [(.kReflectDamage, amount)]
  else if effectKey = utf8 "alteration_modifier" then [(.kAlterationModifier, amount)]
  else if effectKey = utf8 "magic_resist_bundle" then [(.kResistMagic, amount)]
  else if effectKey = utf8 "elemental_resist_bundle" then
    [(.kResistFire, amount), (.kResistFrost, amount), (.kResistShock, amount)]
  else if effectKey = utf8 "status_resist_bundle" then
    [(.kPoisonResist, amount), (.kResistDisease, amount)]
  else if effectKey = utf8 "absorb_chance" then [(.kAbsorbChance, amount)]
  else if effectKey = utf8 "smithing_modifier" then [(.kSmithingModifier, amount)]
  else if effectKey = utf8 "alchemy_modifier" then [(.kAlchemyModifier, amount)]
  else if effectKey = utf8 "enchanting_modifier" then [(.kEnchantingModifier, amount)]
  else if effectKey = utf8 "magicka" then [(.kMagicka, amount)]
  else if effectKey = utf8 "magicka_rate" then [(.kMagickaRate, amount)]
  else if effectKey = utf8 "lockpicking_modifier" then [(.kLockpickingModifier, amount)]
  else if effectKey = utf8 "pickpocket_modifier" then [(.kPickpocketModifier, amount)]
  else if effectKey = utf8 "sneaking_modifier" then [(.kSneakingModifier, amount)]
  else if effectKey = utf8 "conjuration_modifier" then [(.kConjurationModifier, amount)]
  else if effectKey = utf8 "illusion_modifier" then [(.kIllusionModifier, amount)]
  else if effectKey = utf8 "speed_mult" then [(.kSpeedMult, amount / 100.0)]
  else if effectKey = utf8 "shout_recovery_mult" then [(.kShoutRecoveryMult, amount)]
  else []

def resolveActorValueDeltas (effectType : BuildEffectType) (effectKey : Text)
    (magnitude : BuildMagnitude F) : List (ActorValue × F) :=
  match effectType with
  | .ActorValue =>
    match toFloatMagnitude magnitude with
    | none => []
    | some amount => resolveActorValueKey effectKey amount
  | .CarryWeight =>
    match toFloatMagnitude magnitude with
    | none => []
    | some amount =>
      if effectKey ≠ utf8 "carry_weight" then [] else [(.kCarryWeight, amount)]
  | .Economy =>
    match toIntMagnitude magnitude with
    | none => []
    | some amount =>
      if effectKey ≠ utf8 "speechcraft_modifier" then []
      else [(.kSpeechcraftModifier, FloatType.ofInt32 amount * 0.05)]
  | .UtilityFlag => []

/-- `totals[actorValue] += delta`, from 0 where there is no entry. -/
def addDelta (totals : UnorderedMap ActorValue F) (entry : ActorValue × F) :
    UnorderedMap ActorValue F :=
  totals.insert entry.1 ((totals.lookup entry.1).getD 0.0 + entry.2)

def accumulateEffect (totals : UnorderedMap ActorValue F) (part : BuildResolvedEffectPart F) :
    UnorderedMap ActorValue F :=
  (resolveActorValueDeltas part.effectType part.effectKey part.magnitude).foldl addDelta totals

/-- The option a slot contributes, if any: it is known, unlocked and compatible. -/
def slotOption (snapshot : BuildRuntimeSnapshot) (slotId : BuildSlotId) :
    Option (BuildOptionDef F) :=
  let optionId := snapshot.activeBuildSlots slotId
  if optionId = [] then none
  else
    match findOption (F := F) optionId with
    | none => none
    | some option =>
      if buildPointsForDiscipline snapshot option.discipline < option.unlockPointsCenti then none
      else if !isSlotCompatible option slotId then none
      else some option

def accumulateSlot (snapshot : BuildRuntimeSnapshot)
    (acc : UnorderedMap ActorValue F × List Text) (slotId : BuildSlotId) :
    UnorderedMap ActorValue F × List Text :=
  let (totals, appliedOptionIds) := acc
  match slotOption snapshot slotId with
  | none => acc
  | some option =>
    if option.stackRule = .OnceOnly ∧ option.id ∈ appliedOptionIds then acc
    else
      let effectBundle := getResolvedBuildEffectBundle option
        (buildPointsForDiscipline snapshot option.discipline)
      (effectBundle.foldl accumulateEffect totals, option.id :: appliedOptionIds)

/-- The totals before the vanishing ones are dropped. -/
def accumulatedTotals (snapshot : BuildRuntimeSnapshot) : UnorderedMap ActorValue F :=
  (getInitialBuildSlotLayout.foldl (accumulateSlot snapshot) (∅, [])).1

def computeDerivedBuildActorValueTotals (snapshot : BuildRuntimeSnapshot) :
    List (ActorValue × F) :=
  let out := (accumulatedTotals snapshot).toPairs.filter fun entry =>
    !(FloatType.abs entry.2 ≤ kRewardCapEpsilon)
  out.mergeSort fun lhs rhs => lhs.1.raw ≤ rhs.1.raw

/-! ## Giving the difference to the player -/

def clampBuildSyncDeltaForActorValue (av : ActorValue) (currentActorValue desiredDelta : F) : F :=
  if !FloatType.isFinite currentActorValue || !FloatType.isFinite desiredDelta then 0.0
  else if av ≠ .kShoutRecoveryMult ∨ 0.0 ≤ desiredDelta then desiredDelta
  else
    let kShoutRecoveryMinValue : F := 0.30
    if currentActorValue ≤ kShoutRecoveryMinValue + kRewardCapEpsilon then 0.0
    else if currentActorValue + desiredDelta < kShoutRecoveryMinValue then
      kShoutRecoveryMinValue - currentActorValue
    else desiredDelta

def snapshotCurrentBuildRuntime (state : RuntimeState F) : BuildRuntimeSnapshot where
  attackScore := state.attackScore
  defenseScore := state.defenseScore
  utilityScore := state.utilityScore
  attackBuildPointsCenti := state.attackBuildPointsCenti
  defenseBuildPointsCenti := state.defenseBuildPointsCenti
  utilityBuildPointsCenti := state.utilityBuildPointsCenti
  activeBuildSlots := state.activeBuildSlots

/-- One actor value of a sync: the next ledger, and the delta applied if any. -/
def syncActorValue (desired current : UnorderedMap ActorValue F) (reading : ActorValue → F)
    (acc : UnorderedMap ActorValue F × List (ActorValue × F)) (av : ActorValue) :
    UnorderedMap ActorValue F × List (ActorValue × F) :=
  let (next, applied) := acc
  let currentTotal := (current.lookup av).getD 0.0
  let desiredTotal := (desired.lookup av).getD 0.0
  let desiredDelta := desiredTotal - currentTotal
  let delta := clampBuildSyncDeltaForActorValue av (reading av) desiredDelta
  if FloatType.abs delta ≤ kRewardCapEpsilon then
    if FloatType.abs currentTotal ≤ kRewardCapEpsilon then (next.erase av, applied)
    else (next.insert av currentTotal, applied)
  else
    let appliedTotal := currentTotal + delta
    if FloatType.abs appliedTotal ≤ kRewardCapEpsilon then
      (next.erase av, applied ++ [(av, delta)])
    else (next.insert av appliedTotal, applied ++ [(av, delta)])

/-- `desiredTotals`: the derived list as a map. -/
def desiredTotals (state : RuntimeState F) : UnorderedMap ActorValue F :=
  UnorderedMap.emplaceAll
    (computeDerivedBuildActorValueTotals (snapshotCurrentBuildRuntime state)) ∅

def syncedActorValues (current desired : UnorderedMap ActorValue F) : List ActorValue :=
  (current.keys ++ desired.keys).dedup

/-- `avOwner` is the player's actor values, where there are any. -/
def syncCurrentBuildEffectsToPlayer (avOwner : Option (ActorValue → F))
    (state : RuntimeState F) : RuntimeState F × List (ActorValue × F) :=
  match avOwner with
  | none => (state, [])
  | some reading =>
    let desired := desiredTotals state
    let current := state.buildAppliedEffectTotals
    let (next, applied) :=
      (syncedActorValues current desired).foldl (syncActorValue desired current reading)
        (current, [])
    ({ state with buildAppliedEffectTotals := next }, applied)

def resetForLoad (state : RuntimeState F) : RuntimeState F :=
  { state with buildAppliedEffectTotals := ∅ }

theorem sync_frame (avOwner : Option (ActorValue → F)) (state : RuntimeState F) :
    (syncCurrentBuildEffectsToPlayer avOwner state).1 =
      { state with buildAppliedEffectTotals :=
          (syncCurrentBuildEffectsToPlayer avOwner state).1.buildAppliedEffectTotals } := by
  cases avOwner with
  | none => rfl
  | some reading => rfl

end CodexOfPower.Builds
