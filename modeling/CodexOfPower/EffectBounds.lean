/-
# `CodexOfPower.EffectBounds` — the size of an effect in single precision

An effect is a base plus a step per tier, sometimes divided by 100.  For every
option of the catalog and every tier the result is a normal number that is within
2^-20 of the exact value (`isVal_scaled`), which is far more than is needed to
compare it with the caps and the epsilon of the reader.
-/
import CodexOfPower.SlotEffects
import CodexOfPower.Lib.Binary32

namespace CodexOfPower.Builds

open RE Rewards Binary32
open Float.Model.UnpackedFloat (Sign)

/-! ## A base and a step per tier -/

/-- The rounded value is the exact one up to the rounding of a few operations. -/
structure Close (rounded exact : ℚ) : Prop where
  lower : exact * (1 - 1 / 2 ^ 20) ≤ rounded
  upper : rounded ≤ exact * (1 + 1 / 2 ^ 20)

/-- The base, the product and the sum are rounded in turn. -/
theorem isVal_scaled {s : Sign} {base step : Float32} {b p : ℚ} (hbase : IsVal s base b)
    (hstep : IsVal s step p) (hb : b ≤ 1024) (hp₁ : 1 / 1024 ≤ p) (hp₂ : p ≤ 1024)
    (pointsCenti : BuildPointCenti) :
    ∃ r, IsVal s (base + step * FloatType.ofUInt32 (getBuildPointsTier pointsCenti)) r ∧
      Close r (b + p * (getBuildPointsTier pointsCenti).toNat) ∧ r ≤ 2 ^ 34 := by
  set tier := getBuildPointsTier pointsCenti with htier
  have htierle : (tier.toNat : ℚ) ≤ 5368709 := by
    exact_mod_cast toNat_getBuildPointsTier_le pointsCenti
  have hb₀ := hbase.nonneg
  obtain ⟨t, ht, htn⟩ := isVal_toFloat32 tier
  have htier₀ : (0 : ℚ) ≤ tier.toNat := Nat.cast_nonneg _
  have ht₁ := htn.lower
  have ht₂ := htn.upper
  have ht₀ : 0 ≤ t := ht.nonneg
  have htle : t ≤ 2 ^ 23 := by linarith
  have hbound : (2 : ℚ) ^ 40 ≤ bound := by unfold bound; norm_num
  have hproduct : p * t ≤ 2 ^ 33 := by nlinarith
  have hlow : p * t = 0 ∨ 1 / 2 ^ 100 ≤ p * t := by
    rcases Nat.eq_zero_or_pos tier.toNat with hzero | hpos
    · left
      rw [hzero] at ht₂
      have : t = 0 := by
        have : t ≤ 0 := by simpa using ht₂
        linarith
      rw [this, mul_zero]
    · right
      have hone : (1 : ℚ) ≤ tier.toNat := by exact_mod_cast hpos
      have htlow : 1 / 2 ≤ t := by linarith
      have : 1 / 2048 ≤ p * t := by nlinarith
      refine le_trans ?_ this
      norm_num
  obtain ⟨q, hq, hqn⟩ := hstep.mul ht hlow (by linarith)
  have hq₁ := hqn.lower
  have hq₂ := hqn.upper
  have hsign : s * .positive = s := by cases s <;> rfl
  rw [hsign] at hq
  have hq₀ : 0 ≤ q := hq.nonneg
  have hqle : q ≤ 2 ^ 34 := by linarith
  obtain ⟨r, hr, hrn⟩ := hbase.add hq (by linarith)
  refine ⟨r, hr, ⟨?_, ?_⟩, ?_⟩
  · have hr₁ := hrn.lower
    have hpt : p * tier.toNat * (1 - 1 / 2 ^ 23) ≤ p * t := by nlinarith
    have hqt : p * tier.toNat * ((1 - 1 / 2 ^ 23) * (1 - 1 / 2 ^ 23)) ≤ q := by nlinarith
    nlinarith [mul_nonneg (by linarith : (0 : ℚ) ≤ p) htier₀]
  · have hr₂ := hrn.upper
    have hpt : p * t ≤ p * tier.toNat * (1 + 1 / 2 ^ 23) := by nlinarith
    have hqt : q ≤ p * tier.toNat * ((1 + 1 / 2 ^ 23) * (1 + 1 / 2 ^ 23)) := by nlinarith
    nlinarith [mul_nonneg (by linarith : (0 : ℚ) ≤ p) htier₀]
  · have hr₂ := hrn.upper
    have hproduct' : q ≤ 2 ^ 33 * (1 + 1 / 2 ^ 23) := by nlinarith
    linarith

theorem Close.near {r r' v : ℚ} (h : Close r v) (h' : Near r' r) (hv : 0 ≤ v) :
    v * (1 - 1 / 2 ^ 19) ≤ r' ∧ r' ≤ v * (1 + 1 / 2 ^ 19) := by
  have h₁ := h.lower
  have h₂ := h.upper
  have h₁' := h'.lower
  have h₂' := h'.upper
  constructor <;> nlinarith

/-- Adding the first amount to nothing. -/
theorem isVal_zero_add {s : Sign} {x : Float32} {v : ℚ} (hx : IsVal s x v) (hv : v ≤ bound) :
    ∃ r, IsVal s (0.0 + x) r ∧ Near r v := by
  have hzero : IsVal s (0.0 : Float32) 0 := .zero .positive (by rfl) rfl
  obtain ⟨r, hr, hrn⟩ := hzero.add hx (by rw [zero_add]; exact hv)
  rw [zero_add] at hrn
  exact ⟨r, hr, hrn⟩

/-! ## Sums of effects -/

/-- Any number of amounts of one sign, not too many: the sum is normal, not too large and
not smaller than the first amount, up to rounding. -/
theorem isVal_sumFrom {s : Sign} (amounts : List Float32)
    (hamounts : ∀ amount ∈ amounts, ∃ v, IsVal s amount v ∧ v ≤ 2 ^ 34) {total : Float32}
    {w c : ℚ} (htotal : IsVal s total w) (hc₀ : 0 ≤ c) (hc : c ≤ w) {j : Nat}
    (hw : w ≤ 2 ^ (36 + 2 * j)) (hj : amounts.length + j ≤ 30) :
    ∃ total' w', sumFrom (some total) amounts = some total' ∧ IsVal s total' w' ∧
      c * (1 - amounts.length / 2 ^ 23) ≤ w' ∧ w' ≤ 2 ^ 96 := by
  induction amounts generalizing total w c j with
  | nil =>
    rw [List.length_nil, Nat.zero_add] at hj
    have hpow : (2 : ℚ) ^ (36 + 2 * j) ≤ 2 ^ 96 := pow_le_pow_right₀ (by norm_num) (by omega)
    exact ⟨total, w, rfl, htotal, by simpa using hc, hw.trans hpow⟩
  | cons amount amounts ih =>
    obtain ⟨v, hv, hvle⟩ := hamounts amount List.mem_cons_self
    have hv₀ := hv.nonneg
    rw [List.length_cons] at hj
    have hpow : (2 : ℚ) ^ (36 + 2 * j) ≤ 2 ^ 96 := pow_le_pow_right₀ (by norm_num) (by omega)
    have hbound : (2 : ℚ) ^ 96 + 2 ^ 34 ≤ bound := by unfold bound; norm_num
    obtain ⟨r, hr, hrn⟩ := htotal.add hv (by linarith)
    have hr₁ := hrn.lower
    have hr₂ := hrn.upper
    have hstep : c * (1 - 1 / 2 ^ 23) ≤ r := by nlinarith
    have hle : r ≤ 2 ^ (36 + 2 * (j + 1)) := by
      have hpow₀ : (2 : ℚ) ^ 34 ≤ 2 ^ (36 + 2 * j) := pow_le_pow_right₀ (by norm_num) (by omega)
      have hsucc : (2 : ℚ) ^ (36 + 2 * (j + 1)) = 2 ^ (36 + 2 * j) * 4 := by ring
      rw [hsucc]
      nlinarith
    obtain ⟨total', w', hsum, hw', hlow, hhigh⟩ := ih
      (fun a ha => hamounts a (List.mem_cons_of_mem _ ha)) hr (by nlinarith) hstep hle (by omega)
    refine ⟨total', w', hsum, hw', le_trans ?_ hlow, hhigh⟩
    rw [List.length_cons]
    push_cast
    have hlength : (0 : ℚ) ≤ amounts.length := Nat.cast_nonneg _
    have hproduct := mul_nonneg hc₀ hlength
    nlinarith

end CodexOfPower.Builds
