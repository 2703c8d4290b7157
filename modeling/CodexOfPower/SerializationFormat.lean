/-
# `CodexOfPower.SerializationFormat` — record types, versions, limits

The constants that the co-save writer and reader share, and the two whitelists of
the reader: which actor values it accepts in the legacy reward totals, and which
in the ledger of build effects.
-/
import CodexOfPower.State

namespace CodexOfPower.Serialization

open RE Builds Registration

def kSerializationVersion : UInt32 := 2
def kUndoRecordVersion : UInt32 := 4

/-- `'REGI'` -/
def kRecordRegisteredItems : UInt32 := 0x52454749
/-- `'BLCK'` -/
def kRecordBlockedItems : UInt32 := 0x424C434B
/-- `'NTFY'` -/
def kRecordNotifiedItems : UInt32 := 0x4E544659
/-- `'RWDS'` -/
def kRecordRewards : UInt32 := 0x52574453
/-- `'UNDO'` -/
def kRecordUndoHistory : UInt32 := 0x554E444F
/-- `'BSCR'` -/
def kRecordBuildScores : UInt32 := 0x42534352
/-- `'BSLT'` -/
def kRecordBuildSlots : UInt32 := 0x42534C54
/-- `'BMIG'` -/
def kRecordBuildMigration : UInt32 := 0x424D4947
/-- `'BEFX'` -/
def kRecordBuildAppliedEffects : UInt32 := 0x42454658

/-- The group of an item whose group was not stored. -/
def kGroupUnknown : UInt32 := 255

def kMaxSerializedRewardEntries : UInt32 := 256
def kMaxSerializedUndoRewardDeltas : UInt32 := 64
def kMaxSerializedBuildSlotStringLength : UInt32 := 128

def supportedRewardActorValues : List ActorValue :=
  [ActorValue.kOneHanded, .kTwoHanded, .kArchery, .kCriticalChance,
    .kUnarmedDamage, .kStaminaRate, .kStamina, .kSpeedMult, .kCarryWeight, .kDamageResist,
    .kHealth, .kResistMagic, .kResistFire, .kResistFrost, .kResistShock, .kHealRate,
    .kReflectDamage, .kHeavyArmor, .kSmithingModifier, .kLightArmor, .kBlock, .kMagicka,
    .kMagickaRate, .kPoisonResist, .kResistDisease, .kAlchemyModifier, .kAlchemy,
    .kDestructionModifier, .kRestorationModifier, .kAlterationModifier, .kConjurationModifier,
    .kIllusionModifier, .kEnchantingModifier, .kAbsorbChance, .kShoutRecoveryMult,
    .kSpeechcraftModifier, .kLockpickingModifier, .kPickpocketModifier, .kSneakingModifier,
    .kLockpicking, .kPickpocket, .kAttackDamageMult]

def isSupportedRewardActorValue (avRaw : UInt32) : Bool :=
  (ActorValue.mk avRaw) ∈ supportedRewardActorValues

def isSupportedBuildEffectActorValue (avRaw : UInt32) : Bool :=
  (ActorValue.mk avRaw) ∈ [ActorValue.kAttackDamageMult, .kWeaponSpeedMult, .kCriticalChance,
    .kDamageResist, .kBlockPowerModifier, .kHealth, .kCarryWeight, .kSpeechcraftModifier,
    .kSpeedMult]

/-- `LegacyUndoPointsDeltaForDiscipline` -/
def legacyUndoPointsDeltaForDiscipline (discipline : BuildDiscipline) (recordDelta : Int32) :
    Int32 :=
  let perRecord : Int32 := match discipline with
    | .Attack => 60
    | .Defense => 35
    | .Utility => 10
    | .unnamed _ => 0
  perRecord * recordDelta

/-- `ResolveFormID(oldId, newId)`: the id a stored id stands for now, if any. -/
abbrev FormIDResolver := FormID → Option FormID

end CodexOfPower.Serialization
