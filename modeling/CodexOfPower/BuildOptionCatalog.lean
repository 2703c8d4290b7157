/-
# `CodexOfPower.BuildOptionCatalog` — the options, and what they are worth

The catalog in the source's order, and the magnitude of an option at a number of
build points: its base plus one step per full tier of 800 points.  Four options
resolve to two effects instead of one.

## What is not said

The keys of the titles and descriptions are left out: only the page reads them, to look up
its texts.
-/
import CodexOfPower.BuildTypes
import CodexOfPower.Lib.FloatType

namespace CodexOfPower.Builds

section Catalog

variable {F : Type} [FloatType F]

/-- The constructor of `BuildOptionDef`: the unlock value is normalised. -/
def makeOption (id : String) (discipline : BuildDiscipline) (unlockValue : UInt32)
    (slotCompatibility : BuildSlotCompatibility) (effectType : BuildEffectType)
    (effectKey : String) (magnitude magnitudePerTier : BuildMagnitude F) : BuildOptionDef F where
  id := utf8 id
  discipline := discipline
  unlockPointsCenti := normalizeLegacyUnlockToBuildPointsCenti unlockValue
  slotCompatibility := slotCompatibility
  effectType := effectType
  effectKey := utf8 effectKey
  magnitude := magnitude
  magnitudePerTier := magnitudePerTier
  stackRule := .OnceOnly

def getBuildOptionCatalog : List (BuildOptionDef F) :=
  [
    makeOption "build.attack.ferocity" .Attack 5 .SameDisciplineOnly
      .ActorValue "attack_damage_mult" (.float 3.0) (.float 0.5),
    makeOption "build.attack.brawler" .Attack 25 .SameOrWildcard
      .ActorValue "unarmed_damage" (.float 0.2) (.float 0.1),
    makeOption "build.attack.destruction" .Attack 30 .SameOrWildcard
      .ActorValue "destruction_modifier" (.float 0.06) (.float 0.01),
    makeOption "build.attack.precision" .Attack 15 .SameDisciplineOnly
      .ActorValue "weapon_speed_mult" (.float 2.5) (.float 0.35),
    makeOption "build.attack.pinpoint" .Attack 20 .SameOrWildcard
      .ActorValue "critical_chance" (.float 1.5) (.float 0.3),
    makeOption "build.attack.vitals" .Attack 35 .SameOrWildcard
      .ActorValue "melee_damage" (.float 2.0) (.float 0.5),
    makeOption "build.attack.reserve" .Attack 5 .SameDisciplineOnly
      .ActorValue "reserve_bundle" (.float 8.0) (.float 2.0),
    makeOption "build.attack.secondwind" .Attack 10 .SameOrWildcard
      .ActorValue "stamina_rate" (.float 0.1) (.float 0.05),
    makeOption "build.defense.guard" .Defense 5 .SameDisciplineOnly
      .ActorValue "damage_resist" (.float 8.0) (.float 1.5),
    makeOption "build.defense.bulwark" .Defense 20 .SameOrWildcard
      .ActorValue "health" (.float 6.0) (.float 2.5),
    makeOption "build.defense.recovery" .Defense 30 .SameOrWildcard
      .ActorValue "heal_rate" (.float 0.01) (.float 0.005),
    makeOption "build.defense.restoration" .Defense 40 .SameOrWildcard
      .ActorValue "restoration_modifier" (.float 0.05) (.float 0.01),
    makeOption "build.defense.bastion" .Defense 15 .SameOrWildcard
      .ActorValue "block_power_modifier" (.float 5.0) (.float 0.75),
    makeOption "build.defense.reprisal" .Defense 25 .SameOrWildcard
      .ActorValue "reflect_damage" (.float 0.1) (.float 0.05),
    makeOption "build.defense.alteration" .Defense 30 .SameOrWildcard
      .ActorValue "alteration_modifier" (.float 0.05) (.float 0.01),
    makeOption "build.defense.endurance" .Defense 35 .SameOrWildcard
      .ActorValue "stamina" (.float 10.0) (.float 3.0),
    makeOption "build.defense.warding" .Defense 10 .SameDisciplineOnly
      .ActorValue "magic_resist_bundle" (.float 2.0) (.float 0.5),
    makeOption "build.defense.elementalWard" .Defense 20 .SameOrWildcard
      .ActorValue "elemental_resist_bundle" (.float 2.0) (.float 0.5),
    makeOption "build.defense.purification" .Defense 25 .SameOrWildcard
      .ActorValue "status_resist_bundle" (.float 2.0) (.float 0.5),
    makeOption "build.defense.absorption" .Defense 35 .SameOrWildcard
      .ActorValue "absorb_chance" (.float 1.0) (.float 0.5),
    makeOption "build.utility.cache" .Utility 10 .SameDisciplineOnly
      .CarryWeight "carry_weight" (.float 20.0) (.float 1.0),
    makeOption "build.utility.barter" .Utility 25 .SameOrWildcard
      .Economy "speechcraft_modifier" (.int32 8) (.int32 1),
    makeOption "build.utility.smithing" .Utility 20 .SameOrWildcard
      .ActorValue "smithing_modifier" (.float 0.03) (.float 0.005),
    makeOption "build.utility.alchemy" .Utility 25 .SameOrWildcard
      .ActorValue "alchemy_modifier" (.float 0.03) (.float 0.005),
    makeOption "build.utility.meditation" .Utility 30 .SameDisciplineOnly
      .ActorValue "meditation_bundle" (.float 0.08) (.float 0.04),
    makeOption "build.utility.enchanting" .Utility 35 .SameOrWildcard
      .ActorValue "enchanting_modifier" (.float 0.03) (.float 0.005),
    makeOption "build.utility.magicka" .Utility 30 .SameDisciplineOnly
      .ActorValue "magicka_well_bundle" (.float 12.0) (.float 4.0),
    makeOption "build.utility.hauler" .Utility 30 .SameDisciplineOnly
      .ActorValue "hauler_bundle" (.float 6.0) (.float 2.0),
    makeOption "build.utility.mobility" .Utility 20 .SameDisciplineOnly
      .ActorValue "speed_mult" (.float 2.0) (.float 0.15),
    makeOption "build.utility.wayfinder" .Utility 30 .SameDisciplineOnly
      .ActorValue "stamina_rate" (.float 0.05) (.float 0.01),
    makeOption "build.utility.echo" .Utility 35 .SameOrWildcard
      .ActorValue "shout_recovery_mult" (.float (-0.007)) (.float (-0.002)),
    makeOption "build.utility.sneak" .Utility 10 .SameDisciplineOnly
      .ActorValue "sneaking_modifier" (.float 0.03) (.float 0.005),
    makeOption "build.utility.lockpicking" .Utility 15 .SameDisciplineOnly
      .ActorValue "lockpicking_modifier" (.float 0.03) (.float 0.005),
    makeOption "build.utility.pickpocket" .Utility 20 .SameDisciplineOnly
      .ActorValue "pickpocket_modifier" (.float 0.03) (.float 0.005),
    makeOption "build.utility.conjuration" .Utility 25 .SameOrWildcard
      .ActorValue "conjuration_modifier" (.float 0.03) (.float 0.005),
    makeOption "build.utility.illusion" .Utility 30 .SameOrWildcard
      .ActorValue "illusion_modifier" (.float 0.03) (.float 0.005)
  ]

def findOption (optionId : Text) : Option (BuildOptionDef F) :=
  getBuildOptionCatalog.find? fun option => option.id = optionId

end Catalog

/-! ## Slots and options

`FindOption`, `SlotKindForId` and `IsSlotCompatible` are written out three times
in the source, in the state store, in the progression and in the effect runtime,
with the same text; each of those modules names its own copy. -/

def slotKindForId : BuildSlotId → BuildSlotKind
  | .Attack1 => .Attack
  | .Attack2 => .Attack
  | .Defense1 => .Defense
  | .Utility1 => .Utility
  | .Utility2 => .Utility
  | .Wildcard1 => .Wildcard

def isSlotCompatible {F : Type} (option : BuildOptionDef F) (slotId : BuildSlotId) : Bool :=
  let slotKind := slotKindForId slotId
  if slotKind = .Wildcard then
    option.slotCompatibility = .WildcardOnly || option.slotCompatibility = .SameOrWildcard
  else
    let matchesDiscipline :=
      (slotKind = .Attack && option.discipline = .Attack) ||
      (slotKind = .Defense && option.discipline = .Defense) ||
      (slotKind = .Utility && option.discipline = .Utility)
    if !matchesDiscipline then false
    else
      option.slotCompatibility = .SameDisciplineOnly || option.slotCompatibility = .SameOrWildcard

section Find

variable {F : Type} [FloatType F] {optionId : Text} {option : BuildOptionDef F}

theorem mem_catalog_of_findOption (h : findOption optionId = some option) :
    option ∈ getBuildOptionCatalog (F := F) :=
  List.mem_of_find?_eq_some h

theorem id_of_findOption (h : findOption optionId = some option) : option.id = optionId := by
  have h := List.find?_some h
  simpa using h

theorem findOption_nil : findOption (F := F) [] = none := rfl

end Find

/-! ## Magnitudes -/

def getBuildPointsTier (pointsCenti : BuildPointCenti) : UInt32 :=
  pointsCenti / kBuildPointsPerTierCenti

theorem toNat_getBuildPointsTier (pointsCenti : BuildPointCenti) :
    (getBuildPointsTier pointsCenti).toNat = pointsCenti.toNat / 800 := UInt32.toNat_div ..

theorem toNat_getBuildPointsTier_le (pointsCenti : BuildPointCenti) :
    (getBuildPointsTier pointsCenti).toNat ≤ 5368709 := by
  have hlt := pointsCenti.toNat_lt
  rw [toNat_getBuildPointsTier]
  omega

theorem toInt_toInt32 {n : UInt32} (h : n.toNat < 2 ^ 31) : n.toInt32.toInt = n.toNat := by
  have hbits : n.toInt32.toInt = n.toBitVec.toInt := rfl
  rw [hbits, BitVec.toInt_eq_toNat_of_lt (by show 2 * n.toNat < 2 ^ 32; omega)]
  rfl

def getNextBuildPointsThresholdCenti (pointsCenti : BuildPointCenti) : BuildPointCenti :=
  (getBuildPointsTier pointsCenti + 1) * kBuildPointsPerTierCenti

def getBuildPointsToNextTierCenti (pointsCenti : BuildPointCenti) : BuildPointCenti :=
  getNextBuildPointsThresholdCenti pointsCenti - pointsCenti

section Magnitude

variable {F : Type} [FloatType F]

structure BuildResolvedEffectPart (F : Type) where
  effectType : BuildEffectType
  effectKey : Text
  magnitude : BuildMagnitude F
deriving DecidableEq

/-- The first `count` parts of a bundle. -/
abbrev BuildResolvedEffectBundle (F : Type) := List (BuildResolvedEffectPart F)

def scaleFloatMagnitude (baseMagnitude perTierMagnitude : F) (pointsCenti : BuildPointCenti) : F :=
  baseMagnitude + perTierMagnitude * FloatType.ofUInt32 (getBuildPointsTier pointsCenti)

def getScaledBuildMagnitude (option : BuildOptionDef F) (pointsCenti : BuildPointCenti) :
    BuildMagnitude F :=
  let tier := getBuildPointsTier pointsCenti
  match option.magnitude, option.magnitudePerTier with
  | .float magnitude, .float perTier => .float (magnitude + perTier * FloatType.ofUInt32 tier)
  | .int32 magnitude, .int32 perTier => .int32 (magnitude + perTier * tier.toInt32)
  | magnitude, _ => magnitude

def makeSingleEffectBundle (option : BuildOptionDef F) (magnitude : BuildMagnitude F) :
    BuildResolvedEffectBundle F :=
  [⟨option.effectType, option.effectKey, magnitude⟩]

def getResolvedBuildEffectBundle (option : BuildOptionDef F) (pointsCenti : BuildPointCenti) :
    BuildResolvedEffectBundle F :=
  let primaryMagnitude := getScaledBuildMagnitude option pointsCenti
  if option.effectKey = utf8 "reserve_bundle" then
    [⟨.ActorValue, utf8 "stamina", primaryMagnitude⟩,
     ⟨.ActorValue, utf8 "stamina_rate", .float (scaleFloatMagnitude 0.04 0.02 pointsCenti)⟩]
  else if option.effectKey = utf8 "magicka_well_bundle" then
    [⟨.ActorValue, utf8 "magicka", primaryMagnitude⟩,
     ⟨.ActorValue, utf8 "magicka_rate", .float (scaleFloatMagnitude 0.02 0.01 pointsCenti)⟩]
  else if option.effectKey = utf8 "meditation_bundle" then
    [⟨.ActorValue, utf8 "magicka_rate", primaryMagnitude⟩,
     ⟨.ActorValue, utf8 "magicka", .float (scaleFloatMagnitude 2.0 1.0 pointsCenti)⟩]
  else if option.effectKey = utf8 "hauler_bundle" then
    [⟨.ActorValue, utf8 "stamina", primaryMagnitude⟩,
     ⟨.CarryWeight, utf8 "carry_weight", .float (scaleFloatMagnitude 4.0 1.0 pointsCenti)⟩]
  else makeSingleEffectBundle option primaryMagnitude

def getNextTierResolvedBuildEffectBundle (option : BuildOptionDef F)
    (pointsCenti : BuildPointCenti) : BuildResolvedEffectBundle F :=
  getResolvedBuildEffectBundle option (getNextBuildPointsThresholdCenti pointsCenti)

end Magnitude

end CodexOfPower.Builds
