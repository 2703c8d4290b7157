/-
# `CodexOfPower.TierGrowth` — effects grow with the tier

In exact arithmetic every part of an option's bundle grows away from zero with the build
points, in the direction the catalog gives it (`bundle_grows`).

The next tier starts at the next multiple of 800 points.  In the last tier that a 32-bit
total can reach, that multiple does not fit: it comes out as 704, and the next tier as the
first one (`next_tier_iff`).

## What is not said

The arithmetic is exact, and the claim is about one option at a time: totals over the slots
are in `CodexOfPower.DerivedTotals`.
-/
import CodexOfPower.BuildOptionCatalog
import Mathlib.Tactic.Linarith
import Mathlib.Tactic.NormNum
import Mathlib.Tactic.Positivity

namespace CodexOfPower.Builds

/-! ## Tiers -/

theorem getBuildPointsTier_mono {pointsCenti pointsCenti' : BuildPointCenti}
    (h : pointsCenti ≤ pointsCenti') :
    (getBuildPointsTier pointsCenti).toNat ≤ (getBuildPointsTier pointsCenti').toNat := by
  rw [toNat_getBuildPointsTier, toNat_getBuildPointsTier]
  exact Nat.div_le_div_right (UInt32.le_iff_toNat_le.mp h)

/-- The start of the last tier. -/
def lastTierStartCenti : BuildPointCenti := 4294967200

theorem toNat_getNextBuildPointsThresholdCenti (pointsCenti : BuildPointCenti) :
    (getNextBuildPointsThresholdCenti pointsCenti).toNat =
      ((pointsCenti.toNat / 800 + 1) * 800) % 2 ^ 32 := by
  have hlt := pointsCenti.toNat_lt
  unfold getNextBuildPointsThresholdCenti
  rw [UInt32.toNat_mul, UInt32.toNat_add, toNat_getBuildPointsTier]
  show (pointsCenti.toNat / 800 + 1) % 2 ^ 32 * 800 % 2 ^ 32 = _
  rw [Nat.mod_eq_of_lt (by omega : pointsCenti.toNat / 800 + 1 < 2 ^ 32)]

/-- Below the last tier the next multiple fits. -/
theorem toNat_getNextBuildPointsThresholdCenti_of_lt {pointsCenti : BuildPointCenti}
    (h : pointsCenti < lastTierStartCenti) :
    (getNextBuildPointsThresholdCenti pointsCenti).toNat = (pointsCenti.toNat / 800 + 1) * 800 := by
  have hlt : pointsCenti.toNat < 4294967200 := UInt32.lt_iff_toNat_lt.mp h
  rw [toNat_getNextBuildPointsThresholdCenti]
  exact Nat.mod_eq_of_lt (by omega)

theorem lt_getNextBuildPointsThresholdCenti_iff (pointsCenti : BuildPointCenti) :
    pointsCenti < getNextBuildPointsThresholdCenti pointsCenti ↔
      pointsCenti < lastTierStartCenti := by
  have hlt := pointsCenti.toNat_lt
  constructor
  · intro h
    refine UInt32.not_le.mp fun hlast => ?_
    have hstart : 4294967200 ≤ pointsCenti.toNat := UInt32.le_iff_toNat_le.mp hlast
    rw [UInt32.lt_iff_toNat_lt, toNat_getNextBuildPointsThresholdCenti] at h
    have htier : pointsCenti.toNat / 800 = 5368709 := by omega
    rw [htier] at h
    omega
  · intro h
    rw [UInt32.lt_iff_toNat_lt, toNat_getNextBuildPointsThresholdCenti_of_lt h]
    omega

/-- Below the last tier, between one point and a whole tier is missing. -/
theorem toNext_bounds {pointsCenti : BuildPointCenti} (h : pointsCenti < lastTierStartCenti) :
    1 ≤ getBuildPointsToNextTierCenti pointsCenti ∧
      getBuildPointsToNextTierCenti pointsCenti ≤ kBuildPointsPerTierCenti := by
  have hle : pointsCenti ≤ getNextBuildPointsThresholdCenti pointsCenti :=
    UInt32.le_of_lt ((lt_getNextBuildPointsThresholdCenti_iff pointsCenti).mpr h)
  have htoNext : (getBuildPointsToNextTierCenti pointsCenti).toNat =
      (pointsCenti.toNat / 800 + 1) * 800 - pointsCenti.toNat := by
    unfold getBuildPointsToNextTierCenti
    rw [UInt32.toNat_sub_of_le _ _ hle, toNat_getNextBuildPointsThresholdCenti_of_lt h]
  have hone : (1 : UInt32).toNat = 1 := rfl
  have hperTier : kBuildPointsPerTierCenti.toNat = 800 := rfl
  rw [UInt32.le_iff_toNat_le, UInt32.le_iff_toNat_le, htoNext, hone, hperTier]
  omega

/-! ## Magnitudes -/

def BuildMagnitude.value : BuildMagnitude ℚ → ℚ
  | .float value => value
  | .int32 value => value.toInt

/-- Of the same kind, in the same direction and at least as far from zero. -/
structure Grows (sign : ℚ) (magnitude magnitude' : BuildMagnitude ℚ) : Prop where
  kind : (∃ a b, magnitude = .float a ∧ magnitude' = .float b) ∨
    ∃ a b, magnitude = .int32 a ∧ magnitude' = .int32 b
  nonneg : 0 ≤ sign * magnitude.value
  le : sign * magnitude.value ≤ sign * magnitude'.value

theorem abs_eq_of_sign {sign x : ℚ} (hsign : sign = 1 ∨ sign = -1) (h : 0 ≤ sign * x) :
    |x| = sign * x := by
  rcases hsign with rfl | rfl
  · rw [one_mul] at h ⊢
    exact abs_of_nonneg h
  · have hneg : x ≤ 0 := by linarith
    rw [abs_of_nonpos hneg]
    linarith

theorem Grows.abs_le {sign : ℚ} {magnitude magnitude' : BuildMagnitude ℚ}
    (hsign : sign = 1 ∨ sign = -1) (h : Grows sign magnitude magnitude') :
    |magnitude.value| ≤ |magnitude'.value| := by
  rw [abs_eq_of_sign hsign h.nonneg, abs_eq_of_sign hsign (h.nonneg.trans h.le)]
  exact h.le

variable {sign base step : ℚ} {pointsCenti pointsCenti' : BuildPointCenti}

/-- A base and a step in one direction. -/
theorem grows_float (hbase : 0 ≤ sign * base) (hstep : 0 ≤ sign * step)
    (h : pointsCenti ≤ pointsCenti') :
    Grows sign (.float (scaleFloatMagnitude base step pointsCenti))
      (.float (scaleFloatMagnitude base step pointsCenti')) := by
  have htier : ((getBuildPointsTier pointsCenti).toNat : ℚ) ≤
      (getBuildPointsTier pointsCenti').toNat := Nat.cast_le.mpr (getBuildPointsTier_mono h)
  have hnonneg : (0 : ℚ) ≤ (getBuildPointsTier pointsCenti).toNat := Nat.cast_nonneg _
  refine ⟨.inl ⟨_, _, rfl, rfl⟩, ?_, ?_⟩
  · show 0 ≤ sign * (base + step * ((getBuildPointsTier pointsCenti).toNat : ℚ))
    have hscaled := mul_nonneg hstep hnonneg
    linarith
  · show sign * (base + step * ((getBuildPointsTier pointsCenti).toNat : ℚ)) ≤
      sign * (base + step * ((getBuildPointsTier pointsCenti').toNat : ℚ))
    have hscaled := mul_le_mul_of_nonneg_left htier hstep
    linarith

theorem toInt_scaled {base step : Int32} (hbase : 0 ≤ base.toInt ∧ base.toInt ≤ 100)
    (hstep : 0 ≤ step.toInt ∧ step.toInt ≤ 100) (pointsCenti : BuildPointCenti) :
    (base + step * (getBuildPointsTier pointsCenti).toInt32).toInt =
      base.toInt + step.toInt * (getBuildPointsTier pointsCenti).toNat := by
  have htier := toNat_getBuildPointsTier_le pointsCenti
  have hcast : (getBuildPointsTier pointsCenti).toInt32.toInt =
      (getBuildPointsTier pointsCenti).toNat := toInt_toInt32 (by omega)
  have hproduct : step.toInt * (getBuildPointsTier pointsCenti).toNat ≤ 100 * 5368709 :=
    Int.mul_le_mul hstep.2 (Int.ofNat_le.mpr htier) (Int.natCast_nonneg _) (by norm_num)
  have hnonneg : 0 ≤ step.toInt * ((getBuildPointsTier pointsCenti).toNat : Int) :=
    Int.mul_nonneg hstep.1 (Int.natCast_nonneg _)
  rw [Int32.toInt_add, Int32.toInt_mul, hcast]
  have hinner : (step.toInt * ((getBuildPointsTier pointsCenti).toNat : Int)).bmod (2 ^ 32) =
      step.toInt * (getBuildPointsTier pointsCenti).toNat :=
    Int.bmod_eq_of_le (by omega) (by omega)
  rw [hinner]
  exact Int.bmod_eq_of_le (by omega) (by omega)

theorem grows_int32 {base step : Int32} (hbase : 0 ≤ base.toInt ∧ base.toInt ≤ 100)
    (hstep : 0 ≤ step.toInt ∧ step.toInt ≤ 100) (h : pointsCenti ≤ pointsCenti') :
    Grows 1 (.int32 (base + step * (getBuildPointsTier pointsCenti).toInt32))
      (.int32 (base + step * (getBuildPointsTier pointsCenti').toInt32)) := by
  have htier : ((getBuildPointsTier pointsCenti).toNat : Int) ≤
      (getBuildPointsTier pointsCenti').toNat := Int.ofNat_le.mpr (getBuildPointsTier_mono h)
  have hscaled := Int.mul_le_mul_of_nonneg_left htier hstep.1
  have hnonneg : 0 ≤ step.toInt * ((getBuildPointsTier pointsCenti).toNat : Int) :=
    Int.mul_nonneg hstep.1 (Int.natCast_nonneg _)
  refine ⟨.inr ⟨_, _, rfl, rfl⟩, ?_, ?_⟩
  · rw [one_mul]
    show (0 : ℚ) ≤ ((base + step * (getBuildPointsTier pointsCenti).toInt32).toInt : ℚ)
    rw [toInt_scaled hbase hstep]
    exact Int.cast_nonneg (by omega)
  · rw [one_mul, one_mul]
    show ((base + step * (getBuildPointsTier pointsCenti).toInt32).toInt : ℚ) ≤
      ((base + step * (getBuildPointsTier pointsCenti').toInt32).toInt : ℚ)
    rw [toInt_scaled hbase hstep, toInt_scaled hbase hstep]
    exact Int.cast_le.mpr (by omega)

/-! ## The catalog -/

/-- Shout recovery falls, everything else rises. -/
def effectSign (option : BuildOptionDef ℚ) : ℚ :=
  if option.effectKey = utf8 "shout_recovery_mult" then -1 else 1

theorem effectSign_cases (option : BuildOptionDef ℚ) :
    effectSign option = 1 ∨ effectSign option = -1 := by
  unfold effectSign
  split_ifs
  · exact .inr rfl
  · exact .inl rfl

/-- The base and the step of an option are of one kind and point its way. -/
def oneWay (option : BuildOptionDef ℚ) : Bool :=
  match option.magnitude, option.magnitudePerTier with
  | .float base, .float step => 0 ≤ effectSign option * base && 0 ≤ effectSign option * step
  | .int32 base, .int32 step =>
    (0 ≤ base.toInt && base.toInt ≤ 100) && (0 ≤ step.toInt && step.toInt ≤ 100) &&
      effectSign option = 1
  | _, _ => false

theorem oneWay_of_mem_catalog :
    ∀ option ∈ getBuildOptionCatalog (F := ℚ), oneWay option = true := by
  decide +kernel

theorem grows_scaled {option : BuildOptionDef ℚ} (hoption : option ∈ getBuildOptionCatalog)
    (h : pointsCenti ≤ pointsCenti') :
    Grows (effectSign option) (getScaledBuildMagnitude option pointsCenti)
      (getScaledBuildMagnitude option pointsCenti') := by
  have honeWay := oneWay_of_mem_catalog option hoption
  unfold oneWay at honeWay
  unfold getScaledBuildMagnitude
  split at honeWay
  next base step hbase hstep =>
    rw [hbase, hstep]
    simp only [Bool.and_eq_true, decide_eq_true_eq] at honeWay
    exact grows_float honeWay.1 honeWay.2 h
  next base step hbase hstep =>
    rw [hbase, hstep]
    simp only [Bool.and_eq_true, decide_eq_true_eq] at honeWay
    obtain ⟨⟨hbase, hstep⟩, hsign⟩ := honeWay
    rw [hsign]
    exact grows_int32 hbase hstep h
  next => exact absurd honeWay Bool.false_ne_true

/-- A part of a bundle at more points. -/
structure PartGrows (sign : ℚ) (part part' : BuildResolvedEffectPart ℚ) : Prop where
  effectType : part'.effectType = part.effectType
  effectKey : part'.effectKey = part.effectKey
  magnitude : Grows sign part.magnitude part'.magnitude

/-- Every part of an option's bundle grows its way. -/
theorem bundle_grows {option : BuildOptionDef ℚ} (hoption : option ∈ getBuildOptionCatalog)
    (h : pointsCenti ≤ pointsCenti') :
    List.Forall₂ (PartGrows (effectSign option))
      (getResolvedBuildEffectBundle option pointsCenti)
      (getResolvedBuildEffectBundle option pointsCenti') := by
  have hprimary := grows_scaled hoption h
  have hpair : ∀ {key key' : Text} {effectType : BuildEffectType} {base step : ℚ},
      option.effectKey ≠ utf8 "shout_recovery_mult" → 0 ≤ base → 0 ≤ step →
      List.Forall₂ (PartGrows (effectSign option))
        [⟨.ActorValue, key, getScaledBuildMagnitude option pointsCenti⟩,
         ⟨effectType, key', .float (scaleFloatMagnitude base step pointsCenti)⟩]
        [⟨.ActorValue, key, getScaledBuildMagnitude option pointsCenti'⟩,
         ⟨effectType, key', .float (scaleFloatMagnitude base step pointsCenti')⟩] := by
    intro key key' effectType base step hkey hbase hstep
    have hsign : effectSign option = 1 := if_neg hkey
    refine .cons ⟨rfl, rfl, hprimary⟩ (.cons ⟨rfl, rfl, ?_⟩ .nil)
    rw [hsign]
    exact grows_float (by rwa [one_mul]) (by rwa [one_mul]) h
  unfold getResolvedBuildEffectBundle
  dsimp only
  split_ifs with hreserve hwell hmeditation hhauler
  · exact hpair (by rw [hreserve]; decide) (by norm_num) (by norm_num)
  · exact hpair (by rw [hwell]; decide) (by norm_num) (by norm_num)
  · exact hpair (by rw [hmeditation]; decide) (by norm_num) (by norm_num)
  · exact hpair (by rw [hhauler]; decide) (by norm_num) (by norm_num)
  · exact .cons ⟨rfl, rfl, hprimary⟩ .nil

/-! ## The next tier -/

/-- What the next tier is to be: its start lies ahead, at most a tier away, and no part of its
bundle is weaker. -/
structure NextTierSound (option : BuildOptionDef ℚ) (pointsCenti : BuildPointCenti) : Prop where
  ahead : pointsCenti < getNextBuildPointsThresholdCenti pointsCenti
  atLeastOne : 1 ≤ getBuildPointsToNextTierCenti pointsCenti
  atMostTier : getBuildPointsToNextTierCenti pointsCenti ≤ kBuildPointsPerTierCenti
  noWeaker : List.Forall₂ (fun part part' => |part.magnitude.value| ≤ |part'.magnitude.value|)
    (getResolvedBuildEffectBundle option pointsCenti)
    (getNextTierResolvedBuildEffectBundle option pointsCenti)

/-- The arithmetic of the next tier is sound exactly below the last tier. -/
theorem next_tier_iff {option : BuildOptionDef ℚ} (hoption : option ∈ getBuildOptionCatalog)
    (pointsCenti : BuildPointCenti) :
    NextTierSound option pointsCenti ↔ pointsCenti < 4294967200 := by
  constructor
  · exact fun h => (lt_getNextBuildPointsThresholdCenti_iff pointsCenti).mp h.ahead
  · intro h
    have hahead := (lt_getNextBuildPointsThresholdCenti_iff pointsCenti).mpr h
    obtain ⟨hone, htier⟩ := toNext_bounds h
    refine ⟨hahead, hone, htier, ?_⟩
    exact (bundle_grows hoption (UInt32.le_of_lt hahead)).imp fun part part' hpart =>
      hpart.magnitude.abs_le (effectSign_cases option)

/-- The first option, at the last total below the last threshold. -/
theorem next_tier_iff_first :
    NextTierSound (getBuildOptionCatalog.get ⟨0, by decide⟩) 4294967199 ↔
      (4294967199 : BuildPointCenti) < 4294967200 :=
  next_tier_iff (List.get_mem _ _) 4294967199

/-- With all the points that a total can hold, the next tier starts at 704 points. -/
theorem not_next_tier : ¬ ∀ option ∈ getBuildOptionCatalog (F := ℚ),
    ∀ pointsCenti, NextTierSound option pointsCenti := by
  intro h
  have hahead : (4294967295 : BuildPointCenti) < getNextBuildPointsThresholdCenti 4294967295 :=
    (h _ List.mem_cons_self 4294967295).ahead
  exact absurd hahead (by decide)

end CodexOfPower.Builds
