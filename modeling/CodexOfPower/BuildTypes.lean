/-
# `CodexOfPower.BuildTypes` — disciplines, slots, options, build points

The vocabulary of the build system.  Two enumerations are read from files by an
unchecked cast (`BuildDiscipline` from an undo record, `BuildMigrationState` from
the migration record), so besides the declared members they hold every other
value of their one-byte representation; `ofRaw` is the cast and `toRaw` the way
back.
-/
import CodexOfPower.Skyrim

namespace CodexOfPower.Builds

abbrev BuildPointCenti := UInt32

/-- `std::string` and `std::string_view`: bytes, not characters. -/
abbrev Text := Bytes

/-- A value of a one-byte enumeration outside its first three members. -/
structure Unnamed where
  raw : UInt8
  three_le : 3 ≤ raw
deriving DecidableEq

/-! ## Enumerations -/

inductive BuildDiscipline
  | Attack
  | Defense
  | Utility
  | unnamed (value : Unnamed)
deriving DecidableEq

/-- One of the three disciplines with a score of its own. -/
def BuildDiscipline.IsDeclared : BuildDiscipline → Prop
  | .unnamed _ => False
  | _ => True

inductive BuildSlotKind
  | Attack
  | Defense
  | Utility
  | Wildcard
deriving DecidableEq

inductive BuildSlotId
  | Attack1
  | Attack2
  | Defense1
  | Utility1
  | Utility2
  | Wildcard1
deriving DecidableEq

inductive BuildSlotCompatibility
  | SameDisciplineOnly
  | WildcardOnly
  | SameOrWildcard
deriving DecidableEq

inductive BuildEffectType
  | ActorValue
  | CarryWeight
  | Economy
  | UtilityFlag
deriving DecidableEq

inductive BuildStackRule
  | OnceOnly
deriving DecidableEq

inductive BuildMigrationState
  | kNotStarted
  | kPendingCleanup
  | kComplete
  | unnamed (value : Unnamed)
deriving DecidableEq

theorem three_le_of_ne {raw : UInt8} (h0 : raw ≠ 0) (h1 : raw ≠ 1) (h2 : raw ≠ 2) :
    3 ≤ raw := by
  rw [UInt8.le_iff_toNat_le]
  have h0' : raw.toNat ≠ 0 := fun h => h0 (UInt8.toNat_inj.mp h)
  have h1' : raw.toNat ≠ 1 := fun h => h1 (UInt8.toNat_inj.mp h)
  have h2' : raw.toNat ≠ 2 := fun h => h2 (UInt8.toNat_inj.mp h)
  show 3 ≤ raw.toNat
  omega

theorem Unnamed.raw_ne (value : Unnamed) : value.raw ≠ 0 ∧ value.raw ≠ 1 ∧ value.raw ≠ 2 := by
  have h : 3 ≤ value.raw.toNat := UInt8.le_iff_toNat_le.mp value.three_le
  refine ⟨?_, ?_, ?_⟩ <;> intro h0 <;> rw [h0] at h <;> exact absurd h (by decide)

/-- `static_cast<BuildDiscipline>` of a `uint32_t`: the low byte. -/
def BuildDiscipline.ofRaw (raw : UInt32) : BuildDiscipline :=
  if h0 : raw.toUInt8 = 0 then .Attack
  else if h1 : raw.toUInt8 = 1 then .Defense
  else if h2 : raw.toUInt8 = 2 then .Utility
  else .unnamed ⟨raw.toUInt8, three_le_of_ne h0 h1 h2⟩

/-- `static_cast<uint32_t>` of a `BuildDiscipline`. -/
def BuildDiscipline.toRaw : BuildDiscipline → UInt32
  | .Attack => 0
  | .Defense => 1
  | .Utility => 2
  | .unnamed value => value.raw.toUInt32

/-- `static_cast<BuildMigrationState>` of a `uint32_t`: the low byte. -/
def BuildMigrationState.ofRaw (raw : UInt32) : BuildMigrationState :=
  if h0 : raw.toUInt8 = 0 then .kNotStarted
  else if h1 : raw.toUInt8 = 1 then .kPendingCleanup
  else if h2 : raw.toUInt8 = 2 then .kComplete
  else .unnamed ⟨raw.toUInt8, three_le_of_ne h0 h1 h2⟩

/-- `static_cast<uint32_t>` of a `BuildMigrationState`. -/
def BuildMigrationState.toRaw : BuildMigrationState → UInt32
  | .kNotStarted => 0
  | .kPendingCleanup => 1
  | .kComplete => 2
  | .unnamed value => value.raw.toUInt32

theorem BuildDiscipline.ofRaw_toRaw (d : BuildDiscipline) : ofRaw d.toRaw = d := by
  cases d with
  | Attack => rfl
  | Defense => rfl
  | Utility => rfl
  | unnamed value =>
    obtain ⟨h0, h1, h2⟩ := value.raw_ne
    simp [ofRaw, toRaw, h0, h1, h2]

theorem BuildMigrationState.ofRaw_toRaw (s : BuildMigrationState) : ofRaw s.toRaw = s := by
  cases s with
  | kNotStarted => rfl
  | kPendingCleanup => rfl
  | kComplete => rfl
  | unnamed value =>
    obtain ⟨h0, h1, h2⟩ := value.raw_ne
    simp [ofRaw, toRaw, h0, h1, h2]

/-! ## Build points -/

def kBuildPointScale : BuildPointCenti := 100

def kBuildPointsPerTierCenti : BuildPointCenti := 800

def toBuildPointCenti (wholePoints : UInt32) : BuildPointCenti := wholePoints * kBuildPointScale

def normalizeLegacyUnlockToBuildPointsCenti (value : UInt32) : BuildPointCenti :=
  if value < kBuildPointScale then (value / 5) * toBuildPointCenti 4 else value

/-! ## Slots -/

def kBuildSlotCount : Nat := 6

def BuildSlotId.toIndex : BuildSlotId → Nat
  | .Attack1 => 0
  | .Attack2 => 1
  | .Defense1 => 2
  | .Utility1 => 3
  | .Utility2 => 4
  | .Wildcard1 => 5

/-- The slots in index order: also `GetInitialBuildSlotLayout`. -/
def getInitialBuildSlotLayout : List BuildSlotId :=
  [.Attack1, .Attack2, .Defense1, .Utility1, .Utility2, .Wildcard1]

theorem mem_getInitialBuildSlotLayout (slotId : BuildSlotId) :
    slotId ∈ getInitialBuildSlotLayout := by
  cases slotId <;> decide

/-- The active option of every slot, empty when there is none. -/
abbrev ActiveBuildSlots := BuildSlotId → Text

def ActiveBuildSlots.set (slots : ActiveBuildSlots) (slotId : BuildSlotId) (value : Text) :
    ActiveBuildSlots :=
  fun id => if id = slotId then value else slots id

@[simp] theorem ActiveBuildSlots.set_self (slots : ActiveBuildSlots) (slotId : BuildSlotId)
    (value : Text) : slots.set slotId value slotId = value := if_pos rfl

theorem ActiveBuildSlots.set_of_ne (slots : ActiveBuildSlots) {slotId id : BuildSlotId}
    (h : id ≠ slotId) (value : Text) : slots.set slotId value id = slots id := if_neg h

theorem ActiveBuildSlots.set_cases (slots : ActiveBuildSlots) (slotId : BuildSlotId)
    (value : Text) (id : BuildSlotId) :
    slots.set slotId value id = value ∨ slots.set slotId value id = slots id := by
  unfold ActiveBuildSlots.set
  split_ifs
  · exact .inl rfl
  · exact .inr rfl

/-! ## Options and the migration notice -/

/-- `std::variant<float, std::int32_t>` -/
inductive BuildMagnitude (F : Type)
  | float (value : F)
  | int32 (value : Int32)
deriving DecidableEq

/-- An option of the catalog, the fields the modelled code reads. -/
structure BuildOptionDef (F : Type) where
  id : Text
  discipline : BuildDiscipline
  unlockPointsCenti : BuildPointCenti
  slotCompatibility : BuildSlotCompatibility
  effectType : BuildEffectType
  effectKey : Text
  magnitude : BuildMagnitude F
  magnitudePerTier : BuildMagnitude F
  stackRule : BuildStackRule
deriving DecidableEq

structure BuildMigrationNoticeSnapshot where
  needsNotice : Bool := false
  legacyRewardsMigrated : Bool := false
  unresolvedHistoricalRegistrations : UInt32 := 0
deriving DecidableEq

end CodexOfPower.Builds
