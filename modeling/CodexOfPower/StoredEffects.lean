/-
# `CodexOfPower.StoredEffects` — which effects the reader of a co-save keeps

The writer stores whatever the ledger holds.  The reader has a list of actor values
of its own and caps three of them, so it keeps the total of an option in effect
only if its effect key is one of nine and, for three of these, up to a tier
(`storedEffects`).  Both sides are compared here, option by option, for every tier
and with the rounding of single precision.

## What is not said

Only the options of the catalog are compared, at the tiers a 32-bit total has.  What becomes
of the others is in `CodexOfPower.LostEffects`.
-/
import CodexOfPower.EffectBounds
import CodexOfPower.SerializationFormat

namespace CodexOfPower.Serialization

open RE Builds Rewards Binary32
open Float.Model (Format UnpackedFloat)
open Float.Model.UnpackedFloat (Sign)

/-! ## What the reader makes of a total -/

/-- The effect keys whose actor value the reader accepts, each with the last tier at
which the total is within the reader's cap. -/
def storedEffects : List (Text × Option UInt32) :=
  [(utf8 "attack_damage_mult", some 194), (utf8 "weapon_speed_mult", none),
    (utf8 "critical_chance", some 161), (utf8 "damage_resist", none),
    (utf8 "block_power_modifier", none), (utf8 "health", none), (utf8 "carry_weight", none),
    (utf8 "speechcraft_modifier", none), (utf8 "speed_mult", some 320)]

/-- The tier is within the limit, where there is one. -/
def Within (limit : Option UInt32) (tier : UInt32) : Prop := ∀ last ∈ limit, tier ≤ last

/-- The reader keeps what an option gives at a tier. -/
def OptionStored (option : BuildOptionDef Float32) (tier : UInt32) : Prop :=
  ∃ limit, (option.effectKey, limit) ∈ storedEffects ∧ Within limit tier

section Clamp

variable {av : ActorValue} {total cap : Float32} {v c : ℚ}

theorem clampRewardTotal_of_uncapped (hcap : tryGetRewardCap (F := Float32) av = none)
    (htotal : IsVal .positive total v) : clampRewardTotal av total = total := by
  have hfinite : FloatType.isFinite total = true := htotal.isFinite
  simp [clampRewardTotal, hfinite, hcap]

/-- Strictly on either side of the cap and the epsilon. -/
theorem clampRewardTotal_of_capped (hcap : tryGetRewardCap av = some cap)
    (hlimit : IsVal .positive (cap + kRewardCapEpsilon) c) (hself : ¬ cap + kRewardCapEpsilon < cap)
    (htotal : IsVal .positive total v) :
    (v < c → clampRewardTotal av total = total) ∧ (c < v → clampRewardTotal av total ≠ total) := by
  have hfinite : FloatType.isFinite total = true := htotal.isFinite
  have hclamp : clampRewardTotal av total =
      if cap + kRewardCapEpsilon < total then cap else total := by
    simp [clampRewardTotal, hfinite, hcap]
  rw [hclamp]
  constructor
  · intro hlt
    exact if_neg (htotal.not_lt hlimit hlt)
  · intro hlt hsame
    have hover : cap + kRewardCapEpsilon < total := hlimit.lt htotal hlt
    rw [if_pos hover] at hsame
    rw [← hsame] at hover
    exact hself hover

end Clamp

/-! ## The nine options -/

def ferocity : BuildOptionDef Float32 :=
  makeOption "build.attack.ferocity" .Attack 5 .SameDisciplineOnly
    .ActorValue "attack_damage_mult" (.float 3.0) (.float 0.5)

def precision : BuildOptionDef Float32 :=
  makeOption "build.attack.precision" .Attack 15 .SameDisciplineOnly
    .ActorValue "weapon_speed_mult" (.float 2.5) (.float 0.35)

def pinpoint : BuildOptionDef Float32 :=
  makeOption "build.attack.pinpoint" .Attack 20 .SameOrWildcard
    .ActorValue "critical_chance" (.float 1.5) (.float 0.3)

def guard : BuildOptionDef Float32 :=
  makeOption "build.defense.guard" .Defense 5 .SameDisciplineOnly
    .ActorValue "damage_resist" (.float 8.0) (.float 1.5)

def bulwark : BuildOptionDef Float32 :=
  makeOption "build.defense.bulwark" .Defense 20 .SameOrWildcard
    .ActorValue "health" (.float 6.0) (.float 2.5)

def bastion : BuildOptionDef Float32 :=
  makeOption "build.defense.bastion" .Defense 15 .SameOrWildcard
    .ActorValue "block_power_modifier" (.float 5.0) (.float 0.75)

def cache : BuildOptionDef Float32 :=
  makeOption "build.utility.cache" .Utility 10 .SameDisciplineOnly
    .CarryWeight "carry_weight" (.float 20.0) (.float 1.0)

def barter : BuildOptionDef Float32 :=
  makeOption "build.utility.barter" .Utility 25 .SameOrWildcard
    .Economy "speechcraft_modifier" (.int32 8) (.int32 1)

def mobility : BuildOptionDef Float32 :=
  makeOption "build.utility.mobility" .Utility 20 .SameDisciplineOnly
    .ActorValue "speed_mult" (.float 2.0) (.float 0.15)

def storedOptions : List (BuildOptionDef Float32 × Option UInt32) :=
  [(ferocity, some 194), (precision, none), (pinpoint, some 161), (guard, none), (bulwark, none),
    (bastion, none), (cache, none), (barter, none), (mobility, some 320)]

/-- The options of the catalog whose key is in the table. -/
theorem mem_storedOptions : ∀ option ∈ getBuildOptionCatalog (F := Float32),
    ∀ effect ∈ storedEffects, option.effectKey = effect.1 → (option, effect.2) ∈ storedOptions := by
  decide +kernel

/-- What an option of the table gives: one entry, whose total the reader keeps exactly
within the limit. -/
structure KeptWithin (limit : Option UInt32) (option : BuildOptionDef Float32)
    (pointsCenti : BuildPointCenti) (av : ActorValue) (amount : Float32) : Prop where
  entries : optionEntries option pointsCenti = [(av, amount)]
  supported : isSupportedBuildEffectActorValue av.raw = true
  isVal : ∃ v, IsVal .positive (0.0 + amount) v ∧ 1 / 100 ≤ v ∧ v ≤ 2 ^ 35
  kept : clampRewardTotal av (0.0 + amount) = 0.0 + amount ↔
    Within limit (getBuildPointsTier pointsCenti)

/-! ## The constants -/

/-- The numbers in the nine options, and the limits of the three caps. -/
def effectConstants : List (Float32 × ℚ) :=
  [(3.0, 3), (0.5, 1 / 2), (2.5, 5 / 2), (0.35, 11744051 / 33554432), (1.5, 3 / 2),
    (0.3, 5033165 / 16777216), (8.0, 8), (6.0, 6), (5.0, 5), (0.75, 3 / 4), (20.0, 20), (1.0, 1),
    (2.0, 2), (0.15, 5033165 / 33554432), (0.05, 13421773 / 268435456), (100.0, 100),
    (1.0 + kRewardCapEpsilon, 8396997 / 8388608), (50.0 + kRewardCapEpsilon, 6553731 / 131072),
    (0.50 + kRewardCapEpsilon, 8405385 / 16777216), (kRewardCapEpsilon, 8589935 / 8589934592)]

theorem constant?_effectConstants :
    (∀ c ∈ effectConstants, constant? c.1 = some (.positive, c.2)) ∧
      ∀ cap ∈ [(1.0 : Float32), 50.0, 0.50], ¬ cap + kRewardCapEpsilon < cap := by
  decide +kernel

theorem constant?_of_mem {x : Float32} {v : ℚ} (h : (x, v) ∈ effectConstants) :
    constant? x = some (.positive, v) :=
  constant?_effectConstants.1 (x, v) h

theorem within_none (tier : UInt32) : Within none tier := nofun

section Shapes

variable (base step : Float32) (b p : ℚ) (pointsCenti : BuildPointCenti)

/-- The exact size of an effect. -/
def exactAmount : ℚ := b + p * (getBuildPointsTier pointsCenti).toNat

theorem le_exactAmount (hp : 0 ≤ p) : b ≤ exactAmount b p pointsCenti := by
  have htier : (0 : ℚ) ≤ (getBuildPointsTier pointsCenti).toNat := Nat.cast_nonneg _
  unfold exactAmount
  nlinarith

/-- The exact size at the last tier before a limit and at the first one after it. -/
theorem exactAmount_le (hp : 0 ≤ p) {last : Nat}
    (h : (getBuildPointsTier pointsCenti).toNat ≤ last) :
    exactAmount b p pointsCenti ≤ b + p * last := by
  have hcast : ((getBuildPointsTier pointsCenti).toNat : ℚ) ≤ last := by exact_mod_cast h
  exact add_le_add_right (mul_le_mul_of_nonneg_left hcast hp) b

theorem exactAmount_ge (hp : 0 ≤ p) {first : Nat}
    (h : first ≤ (getBuildPointsTier pointsCenti).toNat) :
    b + p * first ≤ exactAmount b p pointsCenti := by
  have hcast : (first : ℚ) ≤ (getBuildPointsTier pointsCenti).toNat := by exact_mod_cast h
  exact add_le_add_right (mul_le_mul_of_nonneg_left hcast hp) b

/-- A total that is a base and a step. -/
theorem isVal_points (hbase : constant? base = some (.positive, b))
    (hstep : constant? step = some (.positive, p)) (hb : b ≤ 1024)
    (hp₁ : 1 / 1024 ≤ p) (hp₂ : p ≤ 1024) :
    ∃ v, IsVal .positive
        (0.0 + (base + step * FloatType.ofUInt32 (getBuildPointsTier pointsCenti))) v ∧
      exactAmount b p pointsCenti * (1 - 1 / 2 ^ 19) ≤ v ∧
      v ≤ exactAmount b p pointsCenti * (1 + 1 / 2 ^ 19) ∧ v ≤ 2 ^ 35 := by
  have hconstant := isVal_of_constant hbase
  have hb₀ := hconstant.nonneg
  obtain ⟨r, hr, hclose, hrle⟩ := isVal_scaled hconstant (isVal_of_constant hstep)
    hb hp₁ hp₂ pointsCenti
  have hbound : (2 : ℚ) ^ 34 ≤ bound := by unfold bound; norm_num
  obtain ⟨v, hv, hnear⟩ := isVal_zero_add hr (hrle.trans hbound)
  have hexact : 0 ≤ exactAmount b p pointsCenti :=
    hb₀.trans (le_exactAmount b p pointsCenti (by linarith))
  obtain ⟨hlower, hupper⟩ := hclose.near hnear hexact
  have htwice := hnear.le_two_mul hr.nonneg
  exact ⟨v, hv, hlower, hupper, by linarith⟩

/-- A total that is a hundredth of a base and a step. -/
theorem isVal_hundredths (hbase : constant? base = some (.positive, b))
    (hstep : constant? step = some (.positive, p)) (hb₁ : 1 ≤ b) (hb₂ : b ≤ 1024)
    (hp₁ : 1 / 1024 ≤ p) (hp₂ : p ≤ 1024) :
    ∃ v, IsVal .positive
        (0.0 + (base + step * FloatType.ofUInt32 (getBuildPointsTier pointsCenti)) / 100.0) v ∧
      exactAmount b p pointsCenti / 100 * (1 - 1 / 2 ^ 18) ≤ v ∧
      v ≤ exactAmount b p pointsCenti / 100 * (1 + 1 / 2 ^ 18) ∧ v ≤ 2 ^ 35 := by
  obtain ⟨r, hr, hclose, hrle⟩ := isVal_scaled (isVal_of_constant hbase)
    (isVal_of_constant hstep) hb₂ hp₁ hp₂ pointsCenti
  have hexact : 1 ≤ exactAmount b p pointsCenti :=
    hb₁.trans (le_exactAmount b p pointsCenti (by linarith))
  have hrlow := hclose.lower
  rw [← exactAmount] at hrlow
  have hbound : (2 : ℚ) ^ 34 ≤ bound := by unfold bound; norm_num
  have hhundred : IsVal .positive (100.0 : Float32) 100 :=
    isVal_of_constant (constant?_of_mem (by simp [effectConstants]))
  obtain ⟨q, hq, hqn⟩ := hr.div hhundred (by norm_num)
    (.inr (by
      have : (1 : ℚ) / 200 ≤ r / 100 := by linarith
      refine le_trans ?_ this
      norm_num)) (by linarith)
  obtain ⟨v, hv, hnear⟩ := isVal_zero_add hq (by
    have := hqn.le_two_mul (by linarith)
    linarith)
  have hqe : Close (r / 100) (exactAmount b p pointsCenti / 100) := by
    constructor
    · have := hclose.lower
      rw [← exactAmount] at this
      linarith
    · have := hclose.upper
      rw [← exactAmount] at this
      linarith
  obtain ⟨hlower, hupper⟩ := hqe.near hqn (by linarith)
  have h₁ := hnear.lower
  have h₂ := hnear.upper
  refine ⟨v, hv, by nlinarith, by nlinarith, ?_⟩
  have := hqn.le_two_mul (by linarith)
  have := hnear.le_two_mul hq.nonneg
  linarith

end Shapes

/-! ## The nine options, one by one -/

section Kept

variable (pointsCenti : BuildPointCenti)

/-- Without a cap every total is kept. -/
theorem keptWithin_of_uncapped {option : BuildOptionDef Float32} {av : ActorValue}
    {amount : Float32} (hentries : optionEntries option pointsCenti = [(av, amount)])
    (hsupported : isSupportedBuildEffectActorValue av.raw = true)
    (hcap : tryGetRewardCap (F := Float32) av = none)
    (hval : ∃ v, IsVal .positive (0.0 + amount) v ∧ 1 / 100 ≤ v ∧ v ≤ 2 ^ 35) :
    KeptWithin none option pointsCenti av amount where
  entries := hentries
  supported := hsupported
  isVal := hval
  kept := by
    obtain ⟨v, hv, -⟩ := hval
    exact iff_of_true (clampRewardTotal_of_uncapped hcap hv) (within_none _)

/-- With a cap it is kept up to the last tier whose total is below the cap and the
epsilon, if the next one is above. -/
theorem keptWithin_of_capped {option : BuildOptionDef Float32} {av : ActorValue}
    {amount cap : Float32} {c : ℚ} {last : UInt32}
    (hentries : optionEntries option pointsCenti = [(av, amount)])
    (hsupported : isSupportedBuildEffectActorValue av.raw = true)
    (hcap : tryGetRewardCap av = some cap)
    (hlimit : constant? (cap + kRewardCapEpsilon) = some (.positive, c))
    (hself : ¬ cap + kRewardCapEpsilon < cap)
    (hval : ∃ v, IsVal .positive (0.0 + amount) v ∧ 1 / 100 ≤ v ∧ v ≤ 2 ^ 35 ∧
      ((getBuildPointsTier pointsCenti).toNat ≤ last.toNat → v < c) ∧
      (last.toNat + 1 ≤ (getBuildPointsTier pointsCenti).toNat → c < v)) :
    KeptWithin (some last) option pointsCenti av amount := by
  obtain ⟨v, hv, hlow, hhigh, hwithin, hover⟩ := hval
  refine ⟨hentries, hsupported, ⟨v, hv, hlow, hhigh⟩, ?_⟩
  have hclamp := clampRewardTotal_of_capped hcap (isVal_of_constant hlimit) hself hv
  have htier : Within (some last) (getBuildPointsTier pointsCenti) ↔
      (getBuildPointsTier pointsCenti).toNat ≤ last.toNat := by
    simp only [Within, Option.mem_some_iff, forall_eq']
    exact UInt32.le_iff_toNat_le
  rw [htier]
  constructor
  · intro hkept
    by_contra hlt
    exact hclamp.2 (hover (by omega)) hkept
  · intro hle
    exact hclamp.1 (hwithin hle)

theorem kept_ferocity : ∃ amount,
    KeptWithin (some 194) ferocity pointsCenti .kAttackDamageMult amount := by
  obtain ⟨v, hv, hlower, hupper, hle⟩ := isVal_hundredths 3.0 0.5 3 (1 / 2) pointsCenti
    (constant?_of_mem (by simp [effectConstants]))
    (constant?_of_mem (by simp [effectConstants]))
    (by norm_num) (by norm_num) (by norm_num) (by norm_num)
  have hlimit : constant? ((1.0 : Float32) + kRewardCapEpsilon) =
      some (.positive, 8396997 / 8388608) := constant?_of_mem (by simp [effectConstants])
  refine ⟨_, keptWithin_of_capped pointsCenti rfl rfl rfl hlimit
    (constant?_effectConstants.2 _ (by simp))
    ⟨v, hv, ?_, hle, fun htier => ?_, fun htier => ?_⟩⟩
  · have hbase := le_exactAmount 3 (1 / 2) pointsCenti (by norm_num)
    linarith
  · have hexact := exactAmount_le 3 (1 / 2) pointsCenti (by norm_num) htier
    have hcast : ((194 : UInt32).toNat : ℚ) = 194 := rfl
    rw [hcast] at hexact
    linarith
  · have hexact := exactAmount_ge 3 (1 / 2) pointsCenti (by norm_num) htier
    have hcast : (((194 : UInt32).toNat + 1 : Nat) : ℚ) = 195 := rfl
    rw [hcast] at hexact
    linarith

theorem kept_pinpoint : ∃ amount,
    KeptWithin (some 161) pinpoint pointsCenti .kCriticalChance amount := by
  obtain ⟨v, hv, hlower, hupper, hle⟩ := isVal_points 1.5 0.3 (3 / 2) (5033165 / 16777216)
    pointsCenti (constant?_of_mem (by simp [effectConstants]))
    (constant?_of_mem (by simp [effectConstants]))
    (by norm_num) (by norm_num) (by norm_num)
  have hlimit : constant? ((50.0 : Float32) + kRewardCapEpsilon) =
      some (.positive, 6553731 / 131072) := constant?_of_mem (by simp [effectConstants])
  refine ⟨_, keptWithin_of_capped pointsCenti rfl rfl rfl hlimit
    (constant?_effectConstants.2 _ (by simp))
    ⟨v, hv, ?_, hle, fun htier => ?_, fun htier => ?_⟩⟩
  · have hbase := le_exactAmount (3 / 2) (5033165 / 16777216) pointsCenti (by norm_num)
    linarith
  · have hexact := exactAmount_le (3 / 2) (5033165 / 16777216) pointsCenti (by norm_num) htier
    have hcast : ((161 : UInt32).toNat : ℚ) = 161 := rfl
    rw [hcast] at hexact
    linarith
  · have hexact := exactAmount_ge (3 / 2) (5033165 / 16777216) pointsCenti (by norm_num) htier
    have hcast : (((161 : UInt32).toNat + 1 : Nat) : ℚ) = 162 := rfl
    rw [hcast] at hexact
    linarith

theorem kept_mobility : ∃ amount,
    KeptWithin (some 320) mobility pointsCenti .kSpeedMult amount := by
  obtain ⟨v, hv, hlower, hupper, hle⟩ := isVal_hundredths 2.0 0.15 2 (5033165 / 33554432)
    pointsCenti (constant?_of_mem (by simp [effectConstants]))
    (constant?_of_mem (by simp [effectConstants]))
    (by norm_num) (by norm_num) (by norm_num) (by norm_num)
  have hlimit : constant? ((0.50 : Float32) + kRewardCapEpsilon) =
      some (.positive, 8405385 / 16777216) := constant?_of_mem (by simp [effectConstants])
  refine ⟨_, keptWithin_of_capped pointsCenti rfl rfl rfl hlimit
    (constant?_effectConstants.2 _ (by simp))
    ⟨v, hv, ?_, hle, fun htier => ?_, fun htier => ?_⟩⟩
  · have hbase := le_exactAmount 2 (5033165 / 33554432) pointsCenti (by norm_num)
    linarith
  · have hexact := exactAmount_le 2 (5033165 / 33554432) pointsCenti (by norm_num) htier
    have hcast : ((320 : UInt32).toNat : ℚ) = 320 := rfl
    rw [hcast] at hexact
    linarith
  · have hexact := exactAmount_ge 2 (5033165 / 33554432) pointsCenti (by norm_num) htier
    have hcast : (((320 : UInt32).toNat + 1 : Nat) : ℚ) = 321 := rfl
    rw [hcast] at hexact
    linarith

theorem kept_points {option : BuildOptionDef Float32} {av : ActorValue} {base step : Float32}
    {b p : ℚ}
    (hentries : optionEntries option pointsCenti =
      [(av, base + step * FloatType.ofUInt32 (getBuildPointsTier pointsCenti))])
    (hsupported : isSupportedBuildEffectActorValue av.raw = true)
    (hcap : tryGetRewardCap (F := Float32) av = none)
    (hbase : (base, b) ∈ effectConstants) (hstep : (step, p) ∈ effectConstants)
    (hb₁ : 1 / 50 ≤ b) (hb₂ : b ≤ 1024) (hp₁ : 1 / 1024 ≤ p) (hp₂ : p ≤ 1024) :
    ∃ amount, KeptWithin none option pointsCenti av amount := by
  obtain ⟨v, hv, hlower, -, hle⟩ := isVal_points base step b p pointsCenti
    (constant?_of_mem hbase) (constant?_of_mem hstep) hb₂ hp₁ hp₂
  have hexact := le_exactAmount b p pointsCenti (by linarith)
  exact ⟨_, keptWithin_of_uncapped pointsCenti hentries hsupported hcap
    ⟨v, hv, by linarith, hle⟩⟩

theorem kept_guard : ∃ amount, KeptWithin none guard pointsCenti .kDamageResist amount :=
  kept_points (b := 8) (p := 3 / 2) pointsCenti rfl rfl rfl
    (by simp [effectConstants]) (by simp [effectConstants])
    (by norm_num) (by norm_num) (by norm_num) (by norm_num)

theorem kept_bulwark : ∃ amount, KeptWithin none bulwark pointsCenti .kHealth amount :=
  kept_points (b := 6) (p := 5 / 2) pointsCenti rfl rfl rfl
    (by simp [effectConstants]) (by simp [effectConstants])
    (by norm_num) (by norm_num) (by norm_num) (by norm_num)

theorem kept_bastion : ∃ amount, KeptWithin none bastion pointsCenti .kBlockPowerModifier amount :=
  kept_points (b := 5) (p := 3 / 4) pointsCenti rfl rfl rfl
    (by simp [effectConstants]) (by simp [effectConstants])
    (by norm_num) (by norm_num) (by norm_num) (by norm_num)

theorem kept_cache : ∃ amount, KeptWithin none cache pointsCenti .kCarryWeight amount :=
  kept_points (b := 20) (p := 1) pointsCenti rfl rfl rfl
    (by simp [effectConstants]) (by simp [effectConstants])
    (by norm_num) (by norm_num) (by norm_num) (by norm_num)

theorem kept_precision :
    ∃ amount, KeptWithin none precision pointsCenti .kWeaponSpeedMult amount := by
  have hstep : constant? (0.35 : Float32) = some (.positive, 11744051 / 33554432) :=
    constant?_of_mem (by simp [effectConstants])
  obtain ⟨v, hv, hlower, -, hle⟩ := isVal_hundredths 2.5 0.35 (5 / 2) (11744051 / 33554432)
    pointsCenti (constant?_of_mem (by simp [effectConstants])) hstep
    (by norm_num) (by norm_num) (by norm_num) (by norm_num)
  have hexact := le_exactAmount (5 / 2) (11744051 / 33554432) pointsCenti (by norm_num)
  exact ⟨_, keptWithin_of_uncapped pointsCenti rfl rfl rfl ⟨v, hv, by linarith, hle⟩⟩

/-- The economy option counts in integers. -/
theorem kept_barter : ∃ amount,
    KeptWithin none barter pointsCenti .kSpeechcraftModifier amount := by
  set tier := getBuildPointsTier pointsCenti with htier
  have htierle := toNat_getBuildPointsTier_le pointsCenti
  rw [← htier] at htierle
  have hcount : ((8 : Int32) + 1 * tier.toInt32).toInt = ((8 + tier.toNat : Nat) : Int) := by
    have height : (8 : Int32).toInt = 8 := rfl
    rw [Int32.one_mul, Int32.toInt_add, toInt_toInt32 (by omega), height,
      Int.bmod_eq_of_le (by norm_num; omega) (by norm_num; omega)]
    push_cast
    ring
  have hcast : ((8 + tier.toNat : Nat) : ℚ) ≤ 5368717 := by exact_mod_cast (by omega)
  have hcast' : (8 : ℚ) ≤ ((8 + tier.toNat : Nat) : ℚ) := by exact_mod_cast (by omega)
  have hbound : (2 : ℚ) ^ 40 ≤ bound := by unfold bound; norm_num
  obtain ⟨n, hn, hnear⟩ := isVal_ofNat (n := 8 + tier.toNat) (by linarith)
  have hofInt : FloatType.ofInt32 (F := Float32) (8 + 1 * tier.toInt32) =
      .ofModel (.pack (UnpackedFloat.ofNat Format.binary32 (8 + tier.toNat))) := by
    show Float32.ofModel (.pack (UnpackedFloat.ofInt Format.binary32 _)) = _
    rw [hcount]
    rfl
  rw [← hofInt] at hn
  have hn₁ := hnear.lower
  have hn₂ := hnear.upper
  have hrate : IsVal .positive (0.05 : Float32) (13421773 / 268435456) :=
    isVal_of_constant (constant?_of_mem (by simp [effectConstants]))
  obtain ⟨r, hr, hrn⟩ := hn.mul hrate
    (.inr (by
      have : (1 : ℚ) / 4 ≤ n * (13421773 / 268435456) := by linarith
      refine le_trans ?_ this
      norm_num)) (by linarith)
  have hr₁ := hrn.lower
  have hr₂ := hrn.upper
  obtain ⟨v, hv, hvn⟩ := isVal_zero_add hr (by linarith)
  have hv₁ := hvn.lower
  have hv₂ := hvn.upper
  exact ⟨_, keptWithin_of_uncapped pointsCenti rfl rfl rfl ⟨v, hv, by linarith, by linarith⟩⟩

/-- Each of the nine options is kept within its limit. -/
theorem exists_keptWithin {option : BuildOptionDef Float32} {limit : Option UInt32}
    (hmem : (option, limit) ∈ storedOptions) :
    ∃ av amount, KeptWithin limit option pointsCenti av amount := by
  simp only [storedOptions, List.mem_cons, Prod.mk.injEq, List.not_mem_nil, or_false] at hmem
  rcases hmem with ⟨rfl, rfl⟩ | ⟨rfl, rfl⟩ | ⟨rfl, rfl⟩ | ⟨rfl, rfl⟩ | ⟨rfl, rfl⟩ | ⟨rfl, rfl⟩ |
    ⟨rfl, rfl⟩ | ⟨rfl, rfl⟩ | ⟨rfl, rfl⟩
  · exact ⟨_, kept_ferocity pointsCenti⟩
  · exact ⟨_, kept_precision pointsCenti⟩
  · exact ⟨_, kept_pinpoint pointsCenti⟩
  · exact ⟨_, kept_guard pointsCenti⟩
  · exact ⟨_, kept_bulwark pointsCenti⟩
  · exact ⟨_, kept_bastion pointsCenti⟩
  · exact ⟨_, kept_cache pointsCenti⟩
  · exact ⟨_, kept_barter pointsCenti⟩
  · exact ⟨_, kept_mobility pointsCenti⟩

end Kept

end CodexOfPower.Serialization
