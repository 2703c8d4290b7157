/-
# `CodexOfPower.Skyrim` — the game's types the plugin computes with

Form ids, form types and actor values, as the plugin's headers name them.  A form
type the plugin never mentions is `other`.  An actor value is any 32-bit code:
the co-save reader casts whatever it reads, so the type has to hold every code,
and the names below are the codes the plugin compares with.
-/
import CodexOfPower.Lib.Bytes

namespace CodexOfPower.RE

abbrev FormID := UInt32

/-- `RE::FormType`, the members the plugin tells apart. -/
inductive FormType
  | Weapon
  | Ammo
  | Armor
  | AlchemyItem
  | Ingredient
  | Book
  | Scroll
  | SoulGem
  | Misc
  | other
deriving DecidableEq, Repr

/-- `RE::ActorValue`: a 32-bit code. -/
structure ActorValue where
  raw : UInt32
deriving DecidableEq, Repr

namespace ActorValue

def kNone : ActorValue := ⟨0xFFFFFFFF⟩
def kOneHanded : ActorValue := ⟨6⟩
def kTwoHanded : ActorValue := ⟨7⟩
def kArchery : ActorValue := ⟨8⟩
def kBlock : ActorValue := ⟨9⟩
def kHeavyArmor : ActorValue := ⟨11⟩
def kLightArmor : ActorValue := ⟨12⟩
def kPickpocket : ActorValue := ⟨13⟩
def kLockpicking : ActorValue := ⟨14⟩
def kAlchemy : ActorValue := ⟨16⟩
def kHealth : ActorValue := ⟨24⟩
def kMagicka : ActorValue := ⟨25⟩
def kStamina : ActorValue := ⟨26⟩
def kHealRate : ActorValue := ⟨27⟩
def kMagickaRate : ActorValue := ⟨28⟩
def kStaminaRate : ActorValue := ⟨29⟩
def kSpeedMult : ActorValue := ⟨30⟩
def kCarryWeight : ActorValue := ⟨32⟩
def kCriticalChance : ActorValue := ⟨33⟩
def kMeleeDamage : ActorValue := ⟨34⟩
def kUnarmedDamage : ActorValue := ⟨35⟩
def kDamageResist : ActorValue := ⟨39⟩
def kPoisonResist : ActorValue := ⟨40⟩
def kResistFire : ActorValue := ⟨41⟩
def kResistShock : ActorValue := ⟨42⟩
def kResistFrost : ActorValue := ⟨43⟩
def kResistMagic : ActorValue := ⟨44⟩
def kResistDisease : ActorValue := ⟨45⟩
def kAbsorbChance : ActorValue := ⟨83⟩
def kWeaponSpeedMult : ActorValue := ⟨85⟩
def kShoutRecoveryMult : ActorValue := ⟨86⟩
def kSmithingModifier : ActorValue := ⟨100⟩
def kPickpocketModifier : ActorValue := ⟨103⟩
def kLockpickingModifier : ActorValue := ⟨104⟩
def kSneakingModifier : ActorValue := ⟨105⟩
def kAlchemyModifier : ActorValue := ⟨106⟩
def kSpeechcraftModifier : ActorValue := ⟨107⟩
def kAlterationModifier : ActorValue := ⟨108⟩
def kConjurationModifier : ActorValue := ⟨109⟩
def kDestructionModifier : ActorValue := ⟨110⟩
def kIllusionModifier : ActorValue := ⟨111⟩
def kRestorationModifier : ActorValue := ⟨112⟩
def kEnchantingModifier : ActorValue := ⟨113⟩
def kBlockPowerModifier : ActorValue := ⟨138⟩
def kAttackDamageMult : ActorValue := ⟨154⟩
def kReflectDamage : ActorValue := ⟨163⟩

end ActorValue

end CodexOfPower.RE
