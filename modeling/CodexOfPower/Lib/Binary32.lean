/-
# `CodexOfPower.Lib.Binary32` — how far an operation is from the exact result

A finite single-precision number that is zero or normal has a sign and an exact
magnitude (`IsVal`).  Each operation that stays within the normal range gives the
exact magnitude up to a relative error of one unit in the last place, 2^-23
(`Near`): the rounding of the model truncates the mantissa to 24 bits and adds at
most one to it, and no more is used here.
-/
import Mathlib

namespace CodexOfPower.Binary32

open Float.Model (Format totalExponent UnpackedFloat)
open Float.Model.UnpackedFloat

/-! ## Shifting a mantissa -/

theorem mantissa_shiftRight (em : ExtendedMantissa) (k : Nat) :
    (em >>> k).mantissa = em.mantissa / 2 ^ k := by
  induction k with
  | zero => simp [HShiftRight.hShiftRight, Nat.repeat]
  | succ k ih =>
    show (em >>> k).mantissa / 2 = em.mantissa / 2 ^ (k + 1)
    rw [ih, Nat.div_div_eq_div_mul, Nat.pow_succ]

theorem mantissa_ofMantissaAndAccuracy (m : Nat) (a : Accuracy) :
    (ExtendedMantissa.ofMantissaAndAccuracy m a).mantissa = m := by
  rcases a with _ | _ | _ | _ <;> rfl

/-- Rounding keeps the mantissa or adds one. -/
theorem roundedMantissa_bounds (em : ExtendedMantissa) :
    em.mantissa ≤ em.roundedMantissa ∧ em.roundedMantissa ≤ em.mantissa + 1 := by
  rcases em with ⟨m, round, sticky⟩
  cases round <;> cases sticky <;>
    simp [ExtendedMantissa.roundedMantissa, ExtendedMantissa.accuracy, Accuracy.roundToNearestEven]
  omega

/-- The exponent a number of the normal range is brought to. -/
theorem targetExponent_eq {m : Nat} {e : Int} (he : -126 ≤ (m.log2 : Int) + e) :
    Format.binary32.targetExponent (totalExponent m e) = (m.log2 : Int) + e - 23 := by
  simp only [Format.targetExponent, totalExponent, Format.mantissaBits, Format.minExponent]
  norm_num
  omega

theorem log2_eq_23 {m : Nat} (hlow : 2 ^ 23 ≤ m) (hhigh : m < 2 ^ 24) : m.log2 = 23 :=
  (Nat.log2_eq_iff (by omega)).mpr ⟨hlow, hhigh⟩

/-- A mantissa of 24 bits is not shifted. -/
theorem shiftToTargetExponent_canonical {m : Nat} {e : Int} (hlow : 2 ^ 23 ≤ m)
    (hhigh : m < 2 ^ 24) (he : -149 ≤ e) :
    shiftToTargetExponent Format.binary32 m e .exact = (⟨m, false, false⟩, e) := by
  have hlog := log2_eq_23 hlow hhigh
  have hshift : ((23 : Nat) : Int) + e - 23 - e = 0 := by omega
  rw [shiftToTargetExponent, targetExponent_eq (by rw [hlog]; omega), hlog, shiftToExponent,
    hshift]
  simp [ExtendedMantissa.ofMantissaAndAccuracy, HShiftRight.hShiftRight, Nat.repeat]

/-- A mantissa that rounding has carried to 25 bits is shifted once. -/
theorem shiftToTargetExponent_carry {e : Int} (he : -149 ≤ e) :
    shiftToTargetExponent Format.binary32 (2 ^ 24) e .exact =
      (⟨2 ^ 23, false, false⟩, e + 1) := by
  have hlog : (2 ^ 24 : Nat).log2 = 24 := Nat.log2_two_pow
  have hshift : ((24 : Nat) : Int) + e - 23 - e = 1 := by omega
  rw [shiftToTargetExponent, targetExponent_eq (by rw [hlog]; omega), hlog, shiftToExponent,
    hshift]
  rfl

/-! ## Rounding -/

/-- The rounded value is the exact one up to one unit in the last place. -/
structure Near (rounded exact : ℚ) : Prop where
  lower : exact * (1 - 1 / 2 ^ 23) ≤ rounded
  upper : rounded ≤ exact * (1 + 1 / 2 ^ 23)

theorem Near.refl {v : ℚ} (hv : 0 ≤ v) : Near v v := by
  constructor <;> nlinarith

def dyadic (m : Nat) (e : Int) : ℚ := (m : ℚ) * 2 ^ e

theorem dyadic_shift (m : Nat) (e : Int) (k : Nat) :
    dyadic (m * 2 ^ k) e = dyadic m (e + k) := by
  rw [dyadic, dyadic, zpow_add₀ (by norm_num), zpow_natCast]
  push_cast
  ring

theorem dyadic_shiftLeft (m : Nat) {e e' : Int} (h : e' ≤ e) :
    dyadic (m <<< (e - e').toNat) e' = dyadic m e := by
  rw [Nat.shiftLeft_eq, dyadic_shift]
  congr 1
  omega

/-- A mantissa of 24 bits, within the exponents of normal numbers. -/
structure Canonical (m : Nat) (e : Int) : Prop where
  low : 2 ^ 23 ≤ m
  high : m < 2 ^ 24
  exponent : -149 ≤ e

/-- The first shift truncates to 24 bits. -/
theorem shiftToTargetExponent_truncates {m : Nat} {e : Int} (a : Accuracy) (hlog : 23 ≤ m.log2)
    (he : -126 ≤ (m.log2 : Int) + e) :
    (shiftToTargetExponent Format.binary32 m e a).1.mantissa = m / 2 ^ (m.log2 - 23) ∧
      (shiftToTargetExponent Format.binary32 m e a).2 = e + (m.log2 - 23 : Nat) := by
  have hshift : ((m.log2 : Int) + e - 23 - e).toNat = m.log2 - 23 := by omega
  rw [shiftToTargetExponent, targetExponent_eq he, shiftToExponent, hshift]
  refine ⟨?_, rfl⟩
  show (ExtendedMantissa.ofMantissaAndAccuracy m a >>> (m.log2 - 23)).mantissa = _
  rw [mantissa_shiftRight, mantissa_ofMantissaAndAccuracy]

/-- Of two neighbours with 24 bits either is near to what lies between them. -/
theorem near_of_truncated {q r : Nat} {e : Int} {v : ℚ} (hq : 2 ^ 23 ≤ q) (hqr : q ≤ r)
    (hrq : r ≤ q + 1) (hdown : dyadic q e ≤ v) (hup : v ≤ dyadic (q + 1) e) :
    Near (dyadic r e) v := by
  have hunit : (0 : ℚ) < 2 ^ e := by positivity
  have hqr' : (q : ℚ) ≤ r := by exact_mod_cast hqr
  have hrq' : (r : ℚ) ≤ q + 1 := by exact_mod_cast hrq
  have hq23 : (2 ^ 23 : ℚ) ≤ q := by exact_mod_cast hq
  have hcast : ((q + 1 : Nat) : ℚ) = q + 1 := by push_cast; ring
  rw [dyadic] at hdown
  rw [dyadic, hcast] at hup
  have hsmall : (2 : ℚ) ^ e ≤ v * (1 / 2 ^ 23) := by
    rw [mul_one_div, le_div_iff₀ (by positivity)]
    nlinarith
  constructor
  · rw [dyadic]
    nlinarith
  · rw [dyadic]
    nlinarith

/-- Rounding a number of the normal range with at least 24 bits: the exact value lies
between the mantissa and its successor. -/
theorem roundWithAccuracy_near (s : Sign) {m : Nat} {e : Int} (a : Accuracy) (hm : 2 ^ 23 ≤ m)
    (he : -126 ≤ (m.log2 : Int) + e) :
    ∃ m' e' h, roundWithAccuracy Format.binary32 s m e a = .finite s m' e' h ∧ Canonical m' e' ∧
      ∀ v, dyadic m e ≤ v → v ≤ dyadic (m + 1) e → Near (dyadic m' e') v := by
  have hne : m ≠ 0 := by omega
  have hlog : 23 ≤ m.log2 := (Nat.le_log2 hne).mpr hm
  set k := m.log2 - 23 with hk
  set q := m / 2 ^ k with hq
  have hqlow : 2 ^ 23 ≤ q := by
    refine (Nat.le_div_iff_mul_le (by positivity)).mpr ?_
    rw [← Nat.pow_add, show 23 + k = m.log2 by omega]
    exact Nat.log2_self_le hne
  have hqhigh : q < 2 ^ 24 := by
    refine (Nat.div_lt_iff_lt_mul (by positivity)).mpr ?_
    rw [← Nat.pow_add, show 24 + k = m.log2 + 1 by omega]
    exact Nat.lt_log2_self
  set first := shiftToTargetExponent Format.binary32 m e a with hfirst
  obtain ⟨hmantissa, hexponent⟩ : first.1.mantissa = q ∧ first.2 = e + k :=
    shiftToTargetExponent_truncates a hlog he
  have hbounds := roundedMantissa_bounds first.1
  rw [hmantissa] at hbounds
  set r := first.1.roundedMantissa with hr
  have hek : -149 ≤ e + k := by omega
  -- whatever the rounding does, the value stays within one unit
  have hnear : ∀ v, dyadic m e ≤ v → v ≤ dyadic (m + 1) e → Near (dyadic r (e + k)) v := by
    intro v hlow hhigh
    have hdown : dyadic q (e + k) ≤ v := by
      refine le_trans ?_ hlow
      rw [← dyadic_shift]
      have hle : q * 2 ^ k ≤ m := Nat.div_mul_le_self m (2 ^ k)
      exact mul_le_mul_of_nonneg_right (by exact_mod_cast hle) (by positivity)
    have hup : v ≤ dyadic (q + 1) (e + k) := by
      refine le_trans hhigh ?_
      rw [← dyadic_shift]
      have hlt : m < (q + 1) * 2 ^ k := by
        rw [Nat.mul_comm]
        exact Nat.lt_mul_div_succ m (by positivity)
      exact mul_le_mul_of_nonneg_right (by exact_mod_cast hlt) (by positivity)
    exact near_of_truncated hqlow hbounds.1 hbounds.2 hdown hup
  have hround : roundWithAccuracy Format.binary32 s m e a =
      (let final := shiftToTargetExponent Format.binary32 r (e + k) .exact
      if h : final.1.mantissa = 0 then .zero s
      else .finite s final.1.mantissa final.2 (Nat.pos_of_ne_zero h)) := by
    rw [← hexponent, hr, hfirst]
    rfl
  by_cases hcarry : r < 2 ^ 24
  · have hrlow : 2 ^ 23 ≤ r := by omega
    refine ⟨r, e + k, by omega, ?_, ⟨hrlow, hcarry, hek⟩, hnear⟩
    rw [hround, shiftToTargetExponent_canonical hrlow hcarry hek]
    exact dif_neg (by show ¬ r = 0; omega)
  · have hrhigh : r = 2 ^ 24 := by omega
    refine ⟨2 ^ 23, e + k + 1, by positivity, ?_, ⟨le_rfl, by norm_num, by omega⟩, ?_⟩
    · rw [hround, hrhigh, shiftToTargetExponent_carry hek]
      rfl
    · intro v hlow hhigh
      have hsame : dyadic (2 ^ 23) (e + k + 1) = dyadic r (e + k) := by
        rw [hrhigh]
        exact (dyadic_shift (2 ^ 23) (e + k) 1).symm
      rw [hsame]
      exact hnear v hlow hhigh

/-- Rounding a number of the normal range; where the mantissa has fewer than 24 bits, the
exponent is brought down first. -/
theorem round_near (s : Sign) {m : Nat} {e : Int} (hm : 0 < m)
    (he : -126 ≤ (m.log2 : Int) + e) :
    ∃ m' e' h, round Format.binary32 s m e = .finite s m' e' h ∧ Canonical m' e' ∧
      Near (dyadic m' e') (dyadic m e) := by
  have hne : m ≠ 0 := by omega
  set j := 23 - m.log2 with hj
  have hdecrease : (e - ((m.log2 : Int) + e - 23)).toNat = j := by omega
  have hround : round Format.binary32 s m e =
      roundWithAccuracy Format.binary32 s (m * 2 ^ j) (e - j) .exact := by
    rw [UnpackedFloat.round, targetExponent_eq he]
    simp only [decreaseExponent, hdecrease, Nat.shiftLeft_eq]
  have hlog : (m * 2 ^ j).log2 = m.log2 + j := by
    refine (Nat.log2_eq_iff (by positivity)).mpr ⟨?_, ?_⟩
    · rw [Nat.pow_add]
      exact Nat.mul_le_mul_right _ (Nat.log2_self_le hne)
    · rw [show m.log2 + j + 1 = m.log2 + 1 + j by omega, Nat.pow_add]
      exact Nat.mul_lt_mul_of_pos_right Nat.lt_log2_self (by positivity)
  have hlow : 2 ^ 23 ≤ m * 2 ^ j := (Nat.le_log2 (by positivity)).mp (by omega)
  obtain ⟨m', e', h, heq, hcanonical, hnear⟩ :=
    roundWithAccuracy_near s (e := e - j) .exact hlow (by rw [hlog]; push_cast; omega)
  refine ⟨m', e', h, hround.trans heq, hcanonical, ?_⟩
  have hvalue : dyadic (m * 2 ^ j) (e - j) = dyadic m e := by
    rw [dyadic_shift, sub_add_cancel]
  rw [← hvalue]
  refine hnear _ le_rfl ?_
  refine mul_le_mul_of_nonneg_right ?_ (by positivity)
  exact_mod_cast Nat.le_succ (m * 2 ^ j)

/-! ## Unpacking what was packed -/

theorem pack_normal (s : Sign) {e : BitVec 8} {m : BitVec 23} (he : e ≠ -1#8)
    (hm : 0 < (1#1 ++ m).toNat) :
    UnpackedFloat.pack Format.binary32 (.finite s (1#1 ++ m).toNat ((e.toNat : Int) - 150) hm)
      = packComponents Format.binary32 s e m := by
  have hlt := m.isLt
  have hel := e.isLt
  have hm1 : (1#1 ++ m).toNat = 2 ^ 23 + m.toNat := by
    rw [BitVec.toNat_append, ← Nat.shiftLeft_add_eq_or_of_lt hlt]
    simp [Nat.shiftLeft_eq]
  have hlog : (1#1 ++ m).toNat.log2 = 23 := (Nat.log2_eq_iff (by omega)).mpr ⟨by omega, by omega⟩
  have hne : e.toNat ≠ 255 := fun h0 => he (BitVec.eq_of_toNat_eq (by rw [h0]; decide))
  have hbias : ((e.toNat : Int) - 150 + (Format.binary32.exponentBias : Int)
      + (Format.binary32.mantissaBitsWithoutImplicit : Int)).toNat = e.toNat := by
    show ((e.toNat : Int) - 150 + 127 + 23).toNat = e.toNat
    omega
  simp only [UnpackedFloat.pack]
  rw [hbias, hlog, if_neg (by show ¬ 2 ^ 8 ≤ e.toNat + 1; omega), if_pos (by decide),
    BitVec.ofNat_toNat, BitVec.setWidth_eq]
  congr 1
  apply BitVec.eq_of_toNat_eq
  rw [BitVec.toNat_ofNat, hm1]
  show (2 ^ 23 + m.toNat) % 2 ^ 23 = m.toNat
  omega

theorem unpack_packComponents (s : Sign) {e : BitVec 8} {m : BitVec 23} (hinf : e ≠ -1#8)
    (hzero : e ≠ 0#8) (hm : 0 < (1#1 ++ m).toNat) :
    unpack Format.binary32 (packComponents Format.binary32 s e m) =
      .finite s (1#1 ++ m).toNat ((e.toNat : Int) - 150) hm := by
  have hexponent := @unpackExponent_packComponents Format.binary32 s e m
  have hmantissa := @unpackMantissa_packComponents Format.binary32 s e m
  have hsign := @unpackSign_packComponents Format.binary32 s e m
  have hbias : ((Format.binary32.exponentBias : Int)
      + (Format.binary32.mantissaBitsWithoutImplicit : Int)) = 150 := by decide
  generalize packComponents Format.binary32 s e m = b at *
  unfold unpack
  dsimp only
  simp only [hexponent, hmantissa, hsign, Sign.ofBitVec_toBitVec]
  rw [if_neg hinf, if_neg hzero]
  simp only [hbias]

theorem toNat_one_append (m : BitVec 23) : (1#1 ++ m).toNat = 2 ^ 23 + m.toNat := by
  have hlt := m.isLt
  rw [BitVec.toNat_append, ← Nat.shiftLeft_add_eq_or_of_lt hlt]
  simp [Nat.shiftLeft_eq]

theorem unpack_pack (s : Sign) {m : Nat} {e : Int} (hm : 0 < m) (hc : Canonical m e)
    (he : e ≤ 104) :
    unpack Format.binary32 (UnpackedFloat.pack Format.binary32 (.finite s m e hm)) =
      .finite s m e hm := by
  obtain ⟨hlow, hhigh, hexponent⟩ := hc
  obtain ⟨field, hfield⟩ : ∃ field : BitVec 8, field.toNat = (e + 150).toNat :=
    ⟨BitVec.ofNat 8 (e + 150).toNat, by rw [BitVec.toNat_ofNat]; omega⟩
  obtain ⟨low, hlowbits⟩ : ∃ low : BitVec 23, low.toNat = m - 2 ^ 23 :=
    ⟨BitVec.ofNat 23 (m - 2 ^ 23), by rw [BitVec.toNat_ofNat]; omega⟩
  have hinf : field ≠ -1#8 := by
    rintro rfl
    have hmax : (-1#8).toNat = 255 := by decide
    omega
  have hzero : field ≠ 0#8 := by
    rintro rfl
    have hmin : (0#8).toNat = 0 := by decide
    omega
  have hmantissa : (1#1 ++ low).toNat = m := by rw [toNat_one_append]; omega
  have hvalue : (field.toNat : Int) - 150 = e := by omega
  have hpos : 0 < (1#1 ++ low).toNat := by omega
  have hsame : UnpackedFloat.finite s m e hm =
      .finite s (1#1 ++ low).toNat ((field.toNat : Int) - 150) hpos := by
    simp only [hmantissa, hvalue]
  rw [hsame, pack_normal s hinf hpos, unpack_packComponents s hinf hzero hpos]

theorem unpack_pack_zero (s : Sign) :
    unpack Format.binary32 (UnpackedFloat.pack Format.binary32 (.zero s)) = .zero s := by
  cases s <;> rfl

/-! ## Values of single-precision numbers -/

/-- The number is zero or normal, of this sign and with this exact magnitude. -/
inductive IsVal (s : Sign) (x : Float32) (v : ℚ) : Prop
  | zero (s' : Sign) (hx : x.toModel.unpack = .zero s') (hv : v = 0)
  | finite (m : Nat) (e : Int) (hm : 0 < m) (hx : x.toModel.unpack = .finite s m e hm)
      (hc : Canonical m e) (hv : v = dyadic m e)

theorem dyadic_pos {m : Nat} (e : Int) (hm : 0 < m) : 0 < dyadic m e :=
  mul_pos (by exact_mod_cast hm) (by positivity)

theorem IsVal.nonneg {s : Sign} {x : Float32} {v : ℚ} (h : IsVal s x v) : 0 ≤ v := by
  cases h with
  | zero s' hx hv => exact hv.ge
  | finite m e hm hx hc hv => exact hv ▸ (dyadic_pos e hm).le

/-- Values are bounded here by a power of two well inside the range of the format. -/
def bound : ℚ := 2 ^ 120

theorem Canonical.exponent_le {m : Nat} {e : Int} (hc : Canonical m e)
    (hv : dyadic m e ≤ 2 * bound) : e ≤ 104 := by
  by_contra hlt
  have hlow : (2 ^ 23 : ℚ) ≤ m := by exact_mod_cast hc.low
  have hpow : (2 : ℚ) ^ (105 : Int) ≤ 2 ^ e := zpow_le_zpow_right₀ (by norm_num) (by omega)
  have hbig : (2 ^ 23 : ℚ) * 2 ^ (105 : Int) ≤ dyadic m e :=
    mul_le_mul hlow hpow (by positivity) (by positivity)
  have hcompare : 2 * bound < (2 ^ 23 : ℚ) * 2 ^ (105 : Int) := by
    unfold bound
    norm_num
  linarith

theorem Near.le_two_mul {r v : ℚ} (h : Near r v) (hv : 0 ≤ v) : r ≤ 2 * v := by
  have hupper := h.upper
  nlinarith

/-- Above this bound the result of an operation is normal. -/
theorem log2_add_exponent {m : Nat} {e : Int} (hv : 1 / 2 ^ 100 ≤ dyadic m e) :
    -126 ≤ (m.log2 : Int) + e := by
  by_contra hlt
  have hm2 : (m : ℚ) ≤ 2 ^ (m.log2 + 1) := by exact_mod_cast Nat.lt_log2_self.le
  have hpow : (2 : ℚ) ^ ((m.log2 : Int) + 1 + e) ≤ 2 ^ (-126 : Int) :=
    zpow_le_zpow_right₀ (by norm_num) (by omega)
  have hup : dyadic m e ≤ 2 ^ ((m.log2 : Int) + 1 + e) := by
    rw [zpow_add₀ (by norm_num)]
    refine mul_le_mul_of_nonneg_right ?_ (by positivity)
    exact_mod_cast hm2
  have hcompare : (2 : ℚ) ^ (-126 : Int) < 1 / 2 ^ 100 := by norm_num
  exact absurd (hv.trans (hup.trans hpow)) (not_le.mpr hcompare)

theorem isVal_pack {s : Sign} {m : Nat} {e : Int} {hm : 0 < m} (hc : Canonical m e)
    (hv : dyadic m e ≤ 2 * bound) :
    IsVal s (.ofModel (.pack (.finite s m e hm))) (dyadic m e) :=
  .finite m e hm (unpack_pack s hm hc (hc.exponent_le hv)) hc rfl

/-- A result that was rounded from an exact value has the value it was rounded to. -/
theorem isVal_rounded {u : UnpackedFloat} {s : Sign} {m : Nat} {e : Int} {hm : 0 < m} {v : ℚ}
    (hu : u = .finite s m e hm) (hc : Canonical m e) (hnear : Near (dyadic m e) v) (hv : 0 ≤ v)
    (hb : v ≤ bound) : IsVal s (.ofModel (.pack u)) (dyadic m e) := by
  rw [hu]
  exact isVal_pack hc ((hnear.le_two_mul hv).trans (by linarith))

theorem isVal_pack_zero {s s' : Sign} : IsVal s (.ofModel (.pack (.zero s'))) 0 :=
  .zero s' (unpack_pack_zero s') rfl

section Operations

variable {s t : Sign} {x y : Float32} {v w : ℚ}

theorem IsVal.mul (hx : IsVal s x v) (hy : IsVal t y w) (hlow : v * w = 0 ∨ 1 / 2 ^ 100 ≤ v * w)
    (hhigh : v * w ≤ bound) : ∃ r, IsVal (s * t) (x * y) r ∧ Near r (v * w) := by
  have hmul : x * y = .ofModel (.pack (UnpackedFloat.mul Format.binary32 x.toModel.unpack
    y.toModel.unpack)) := rfl
  cases hx with
  | zero s' hx hv =>
    subst hv
    refine ⟨0, ?_, by rw [zero_mul]; exact .refl le_rfl⟩
    cases hy with
    | zero t' hy hw => rw [hmul, hx, hy]; exact isVal_pack_zero
    | finite m e hm hy hc hw => rw [hmul, hx, hy]; exact isVal_pack_zero
  | finite m e hm hx hc hv =>
    cases hy with
    | zero t' hy hw =>
      subst hw
      refine ⟨0, ?_, by rw [mul_zero]; exact .refl le_rfl⟩
      rw [hmul, hx, hy]
      exact isVal_pack_zero
    | finite m' e' hm' hy hc' hw =>
      have hvalue : dyadic (m * m') (e + e') = v * w := by
        rw [hv, hw, dyadic, dyadic, dyadic, zpow_add₀ (by norm_num)]
        push_cast
        ring
      have hpos : 0 < m * m' := Nat.mul_pos hm hm'
      have hnormal : 1 / 2 ^ 100 ≤ dyadic (m * m') (e + e') := by
        rw [hvalue]
        refine hlow.resolve_left fun hzero => ?_
        rw [← hvalue] at hzero
        exact (dyadic_pos (e + e') hpos).ne' hzero
      have hbits : 2 ^ 23 ≤ m * m' := by
        have hlow' := hc.low
        exact le_trans hlow' (Nat.le_mul_of_pos_right m hm')
      obtain ⟨m₀, e₀, h, heq, hc₀, hnear⟩ :=
        roundWithAccuracy_near (s * t) .exact hbits (log2_add_exponent hnormal)
      have hnear₀ : Near (dyadic m₀ e₀) (v * w) := by
        rw [← hvalue]
        refine hnear _ le_rfl (mul_le_mul_of_nonneg_right ?_ (by positivity))
        exact_mod_cast Nat.le_succ (m * m')
      refine ⟨dyadic m₀ e₀, ?_, hnear₀⟩
      rw [hmul, hx, hy]
      exact isVal_rounded heq hc₀ hnear₀ (hvalue ▸ (dyadic_pos _ hpos).le) hhigh

/-- The sum of two numbers of one sign has that sign. -/
theorem normalize_apply_add (s : Sign) {n n' : Nat} (hpos : 0 < n + n') (e : Int) :
    UnpackedFloat.normalize Format.binary32 (s.apply n + s.apply n') e .positive =
      round Format.binary32 s (n + n') e := by
  cases s with
  | positive =>
    have hcompare : compare ((n : Int) + n') 0 = .gt := Int.compare_eq_gt.mpr (by omega)
    have hnat : ((n : Int) + n').toNat = n + n' := by omega
    simp only [UnpackedFloat.normalize, Sign.apply, hcompare, hnat]
  | negative =>
    have hcompare : compare (-(n : Int) + -n') 0 = .lt := Int.compare_eq_lt.mpr (by omega)
    have hnat : (-(-(n : Int) + -n')).toNat = n + n' := by omega
    simp only [UnpackedFloat.normalize, Sign.apply, hcompare, hnat]

/-- Numbers of one sign are added like their values, up to rounding. -/
theorem IsVal.add (hx : IsVal s x v) (hy : IsVal s y w) (hhigh : v + w ≤ bound) :
    ∃ r, IsVal s (x + y) r ∧ Near r (v + w) := by
  have hadd : x + y = .ofModel (.pack (UnpackedFloat.add Format.binary32 x.toModel.unpack
    y.toModel.unpack)) := rfl
  have hv₀ := hx.nonneg
  have hw₀ := hy.nonneg
  cases hx with
  | zero s' hx hv =>
    subst hv
    rw [zero_add] at hhigh ⊢
    refine ⟨w, ?_, .refl hw₀⟩
    cases hy with
    | zero t' hy hw =>
      rw [hadd, hx, hy, hw]
      cases s' <;> cases t' <;> exact isVal_pack_zero
    | finite m e hm hy hc hw =>
      rw [hadd, hx, hy, hw]
      exact isVal_pack hc (by rw [← hw]; linarith)
  | finite m e hm hx hc hv =>
    cases hy with
    | zero t' hy hw =>
      subst hw
      rw [add_zero] at hhigh ⊢
      refine ⟨v, ?_, .refl hv₀⟩
      rw [hadd, hx, hy, hv]
      exact isVal_pack hc (by rw [← hv]; linarith)
    | finite m' e' hm' hy hc' hw =>
      set e₁ := min e e' with he₁
      set n := m <<< (e - e₁).toNat with hn
      set n' := m' <<< (e' - e₁).toNat with hn'
      have hvn : dyadic n e₁ = v := (dyadic_shiftLeft m (min_le_left e e')).trans hv.symm
      have hwn : dyadic n' e₁ = w := (dyadic_shiftLeft m' (min_le_right e e')).trans hw.symm
      have hvalue : dyadic (n + n') e₁ = v + w := by
        rw [← hvn, ← hwn, dyadic, dyadic, dyadic]
        push_cast
        ring
      have hnlow : 2 ^ 23 ≤ n := by
        rw [hn, Nat.shiftLeft_eq]
        exact le_trans hc.low (Nat.le_mul_of_pos_right m (by positivity))
      have hnormalize : UnpackedFloat.add Format.binary32 (.finite s m e hm)
          (.finite s m' e' hm') =
            UnpackedFloat.normalize Format.binary32 (s.apply n + s.apply n') e₁ .positive := rfl
      clear_value n n'
      have hpos : 0 < n + n' := by omega
      have hlog : 23 ≤ (n + n').log2 := (Nat.le_log2 (by omega)).mpr (by omega)
      have hexponents : -149 ≤ e₁ := by
        have h := hc.exponent
        have h' := hc'.exponent
        omega
      obtain ⟨m₀, e₀, h, heq, hc₀, hnear⟩ := round_near s hpos (e := e₁) (by omega)
      rw [hvalue] at hnear
      refine ⟨dyadic m₀ e₀, ?_, hnear⟩
      rw [hadd, hx, hy]
      exact isVal_rounded ((hnormalize.trans (normalize_apply_add s hpos e₁)).trans heq) hc₀ hnear
        (by linarith) hhigh

/-- The mantissas differ by a factor below two, so the exponents are close to those of a
quotient that is not too small. -/
theorem sub_exponent_of_quotient {m m' : Nat} {e e' : Int} (hc : Canonical m e)
    (hc' : Canonical m' e') (hlow : 1 / 2 ^ 100 ≤ (m : ℚ) / m' * 2 ^ (e - e')) :
    -124 < e - e' := by
  by_contra hlt
  have hlow' : (2 ^ 23 : ℚ) ≤ m' := by exact_mod_cast hc'.low
  have hratio : (m : ℚ) / m' ≤ 2 := by
    rw [div_le_iff₀ (by linarith)]
    have hhigh' : (m : ℚ) ≤ 2 ^ 24 := by exact_mod_cast hc.high.le
    linarith
  have hpow : (2 : ℚ) ^ (e - e') ≤ 2 ^ (-124 : Int) :=
    zpow_le_zpow_right₀ (by norm_num) (by omega)
  have hsmall : (m : ℚ) / m' * 2 ^ (e - e') ≤ 2 * 2 ^ (-124 : Int) :=
    mul_le_mul hratio hpow (by positivity) (by norm_num)
  have hcompare : (2 : ℚ) * 2 ^ (-124 : Int) < 1 / 2 ^ 100 := by norm_num
  exact absurd (hlow.trans hsmall) (not_le.mpr hcompare)

/-- What is divided are the mantissas, the first with 24 more bits. -/
theorem divCore_of_canonical {m m' : Nat} {e e' : Int} (hc : Canonical m e)
    (hc' : Canonical m' e') (hexponent : -124 < e - e') :
    divCore Format.binary32 m e m' e' =
      (m * 2 ^ 24 / m', e - e' - 24, accuracyOfFraction (m * 2 ^ 24 % m') m') := by
  have htarget : Format.binary32.targetExponent (totalExponent m e - totalExponent m' e') =
      e - e' - 24 := by
    simp only [Format.targetExponent, totalExponent, Format.mantissaBits,
      Format.minExponent, log2_eq_23 hc.low hc.high, log2_eq_23 hc'.low hc'.high]
    norm_num
    omega
  have hmin : min (e - e') (e - e' - 24) = e - e' - 24 := by omega
  have hshift : (e - e' - (e - e' - 24)).toNat = 24 := by omega
  rw [divCore, htarget]
  simp only [hmin, hshift, Nat.shiftLeft_eq]

theorem dyadic_div_bounds (a : Nat) {b : Nat} (hb : 0 < b) (e : Int) :
    dyadic (a / b) e ≤ (a : ℚ) / b * 2 ^ e ∧ (a : ℚ) / b * 2 ^ e ≤ dyadic (a / b + 1) e := by
  have hpos : (0 : ℚ) < b := by exact_mod_cast hb
  constructor
  · refine mul_le_mul_of_nonneg_right ?_ (by positivity)
    rw [le_div_iff₀ hpos]
    exact_mod_cast Nat.div_mul_le_self a b
  · refine mul_le_mul_of_nonneg_right ?_ (by positivity)
    rw [div_le_iff₀ hpos]
    have hlt : a < (a / b + 1) * b := by
      rw [Nat.mul_comm]
      exact Nat.lt_mul_div_succ a hb
    exact_mod_cast hlt.le

/-- Division by a number that is not zero, up to rounding. -/
theorem IsVal.div (hx : IsVal s x v) (hy : IsVal t y w) (hw₀ : 0 < w)
    (hlow : v = 0 ∨ 1 / 2 ^ 100 ≤ v / w) (hhigh : v / w ≤ bound) :
    ∃ r, IsVal (s / t) (x / y) r ∧ Near r (v / w) := by
  have hdiv : x / y = .ofModel (.pack (UnpackedFloat.div Format.binary32 x.toModel.unpack
    y.toModel.unpack)) := rfl
  have hv₀ := hx.nonneg
  cases hy with
  | zero t' hy hw => exact absurd hw hw₀.ne'
  | finite m' e' hm' hy hc' hw =>
    cases hx with
    | zero s' hx hv =>
      subst hv
      refine ⟨0, ?_, by rw [zero_div]; exact .refl le_rfl⟩
      rw [hdiv, hx, hy]
      exact isVal_pack_zero
    | finite m e hm hx hc hv =>
      have hvpos : 0 < v := hv ▸ dyadic_pos e hm
      have hnormal := hlow.resolve_left hvpos.ne'
      have hquotient : v / w = (m : ℚ) / m' * 2 ^ (e - e') := by
        rw [hv, hw, dyadic, dyadic, zpow_sub₀ (by norm_num), mul_div_mul_comm]
      have hexponent : -124 < e - e' := sub_exponent_of_quotient hc hc' (hquotient ▸ hnormal)
      set q := m * 2 ^ 24 / m' with hq
      have hqlow : 2 ^ 23 ≤ q := by
        refine (Nat.le_div_iff_mul_le hm').mpr ?_
        have hm23 := hc.low
        have hm24 := hc'.high
        calc 2 ^ 23 * m' ≤ 2 ^ 23 * 2 ^ 24 := Nat.mul_le_mul_left _ hm24.le
          _ ≤ m * 2 ^ 24 := Nat.mul_le_mul_right _ hm23
      have hscaled : v / w = ((m * 2 ^ 24 : Nat) : ℚ) / m' * 2 ^ (e - e' - 24) := by
        have hpow24 : (2 : ℚ) ^ (e - e') = 2 ^ 24 * 2 ^ (e - e' - 24) := by
          rw [← zpow_natCast, ← zpow_add₀ (by norm_num)]
          congr 1
          omega
        rw [hquotient, hpow24]
        push_cast
        ring
      obtain ⟨hdown, hup⟩ := dyadic_div_bounds (m * 2 ^ 24) hm' (e - e' - 24)
      rw [← hscaled] at hdown hup
      have hlog : 23 ≤ q.log2 := (Nat.le_log2 (by omega)).mpr hqlow
      obtain ⟨m₀, e₀, h, heq, hc₀, hnear⟩ := roundWithAccuracy_near (s / t)
        (accuracyOfFraction (m * 2 ^ 24 % m') m') hqlow (e := e - e' - 24) (by omega)
      have hnear₀ := hnear _ hdown hup
      refine ⟨dyadic m₀ e₀, ?_, hnear₀⟩
      have hunpacked : UnpackedFloat.div Format.binary32 (.finite s m e hm) (.finite t m' e' hm') =
          roundWithAccuracy Format.binary32 (s / t) q (e - e' - 24)
            (accuracyOfFraction (m * 2 ^ 24 % m') m') := by
        simp only [UnpackedFloat.div, divCore_of_canonical hc hc' hexponent, hq]
      rw [hdiv, hx, hy]
      exact isVal_rounded (hunpacked.trans heq) hc₀ hnear₀ (by positivity) hhigh

theorem IsVal.abs (hx : IsVal s x v) (hhigh : v ≤ bound) : IsVal .positive x.abs v := by
  have habs : x.abs = .ofModel (.pack x.toModel.unpack.abs) := rfl
  cases hx with
  | zero s' hx hv =>
    rw [habs, hx, hv]
    exact isVal_pack_zero
  | finite m e hm hx hc hv =>
    rw [habs, hx, hv]
    have hv₀ := dyadic_pos e hm
    exact isVal_pack hc (by rw [← hv] at hv₀ ⊢; linarith)

theorem IsVal.isFinite (hx : IsVal s x v) : x.isFinite = true := by
  have hfinite : x.isFinite = x.toModel.unpack.isFinite := rfl
  cases hx with
  | zero s' hx hv => rw [hfinite, hx]; rfl
  | finite m e hm hx hc hv => rw [hfinite, hx]; rfl

/-- A number minus itself is positive zero. -/
theorem IsVal.sub_self (hx : IsVal s x v) : x - x = .ofModel (.pack (.zero .positive)) := by
  have hsub : x - x = .ofModel (.pack (UnpackedFloat.sub Format.binary32 x.toModel.unpack
    x.toModel.unpack)) := rfl
  cases hx with
  | zero s' hx hv =>
    rw [hsub, hx]
    cases s' <;> rfl
  | finite m e hm hx hc hv =>
    have hzero : UnpackedFloat.sub Format.binary32 (.finite s m e hm) (.finite s m e hm) =
        .zero .positive := by
      have hnormalize : UnpackedFloat.sub Format.binary32 (.finite s m e hm) (.finite s m e hm) =
          UnpackedFloat.normalize Format.binary32 (s.apply (m <<< (e - min e e).toNat)
            - s.apply (m <<< (e - min e e).toNat)) (min e e) .positive := rfl
      rw [hnormalize, Int.sub_self]
      rfl
    rw [hsub, hx, hzero]

/-- Positive numbers are compared like their values. -/
theorem IsVal.compare_lt (hx : IsVal .positive x v) (hy : IsVal .positive y w) (hvw : v < w) :
    x.toModel.unpack.compare y.toModel.unpack = some .lt ∧
      y.toModel.unpack.compare x.toModel.unpack = some .gt := by
  have hv₀ := hx.nonneg
  cases hy with
  | zero t' hy hw => exact absurd (hv₀.trans_lt hvw) (by rw [hw]; exact lt_irrefl 0)
  | finite m' e' hm' hy hc' hw =>
    cases hx with
    | zero s' hx hv =>
      rw [hx, hy]
      exact ⟨rfl, rfl⟩
    | finite m e hm hx hc hv =>
      rw [hx, hy]
      -- a greater exponent outweighs every mantissa
      have hexponent : e ≤ e' := by
        by_contra hlt
        have hlow : (2 ^ 23 : ℚ) ≤ m := by exact_mod_cast hc.low
        have hhigh : (m' : ℚ) < 2 ^ 24 := by exact_mod_cast hc'.high
        have hpow : (2 : ℚ) ^ (e' + 1) ≤ 2 ^ e := zpow_le_zpow_right₀ (by norm_num) (by omega)
        rw [zpow_add₀ (by norm_num), zpow_one] at hpow
        have hpos : (0 : ℚ) < 2 ^ e' := by positivity
        have hge : w ≤ v := by
          rw [hv, hw, dyadic, dyadic]
          calc (m' : ℚ) * 2 ^ e' ≤ 2 ^ 24 * 2 ^ e' :=
                mul_le_mul_of_nonneg_right hhigh.le hpos.le
            _ = 2 ^ 23 * (2 ^ e' * 2) := by ring
            _ ≤ m * 2 ^ e := mul_le_mul hlow hpow (by positivity) (by positivity)
        exact absurd hvw (not_lt.mpr hge)
      rcases lt_or_eq_of_le hexponent with hlt | rfl
      · have hcompare : compare e e' = .lt := Int.compare_eq_lt.mpr hlt
        have hcompare' : compare e' e = .gt := Int.compare_eq_gt.mpr hlt
        simp only [UnpackedFloat.compare, hcompare, hcompare']
        exact ⟨rfl, rfl⟩
      · have hmantissa : m < m' := by
          rw [hv, hw, dyadic, dyadic, mul_lt_mul_iff_left₀ (by positivity)] at hvw
          exact_mod_cast hvw
        have hsame : compare e e = .eq := Int.compare_eq_eq.mpr rfl
        have hcompare : compare m m' = .lt := Nat.compare_eq_lt.mpr hmantissa
        have hcompare' : compare m' m = .gt := Nat.compare_eq_gt.mpr hmantissa
        simp only [UnpackedFloat.compare, hsame, hcompare, hcompare']
        exact ⟨rfl, rfl⟩

theorem lt_iff_compare : x < y ↔ x.toModel.unpack.compare y.toModel.unpack = some .lt := by
  have hlt : x < y ↔ (x.toModel.unpack.compare y.toModel.unpack == some .lt) = true :=
    decide_eq_true_iff
  rw [hlt, beq_iff_eq]

theorem le_iff_compare :
    x ≤ y ↔ (x.toModel.unpack.compare y.toModel.unpack).any (·.isLE) = true :=
  decide_eq_true_iff

theorem IsVal.lt (hx : IsVal .positive x v) (hy : IsVal .positive y w) (hvw : v < w) : x < y :=
  lt_iff_compare.mpr (hx.compare_lt hy hvw).1

theorem IsVal.not_lt (hx : IsVal .positive x v) (hy : IsVal .positive y w) (hvw : v < w) :
    ¬ y < x := by
  rw [lt_iff_compare, (hx.compare_lt hy hvw).2]
  decide

theorem IsVal.not_le (hx : IsVal .positive x v) (hy : IsVal .positive y w) (hvw : v < w) :
    ¬ y ≤ x := by
  rw [le_iff_compare, (hx.compare_lt hy hvw).2]
  decide

end Operations

/-! ## Integers and constants -/

theorem isVal_ofNat {n : Nat} (hn : (n : ℚ) ≤ bound) :
    ∃ r, IsVal .positive (.ofModel (.pack (UnpackedFloat.ofNat Format.binary32 n))) r ∧
      Near r n := by
  rcases Nat.eq_zero_or_pos n with rfl | hpos
  · exact ⟨0, isVal_pack_zero, by rw [Nat.cast_zero]; exact .refl le_rfl⟩
  · have hvalue : dyadic n 0 = n := by simp [dyadic]
    obtain ⟨m, e, h, heq, hc, hnear⟩ := round_near .positive hpos (e := 0) (by omega)
    rw [hvalue] at hnear
    have hunpacked : UnpackedFloat.ofNat Format.binary32 n =
        round Format.binary32 .positive n 0 := by
      have hcompare : compare (n : Int) 0 = .gt := Int.compare_eq_gt.mpr (by omega)
      simp only [UnpackedFloat.ofNat, UnpackedFloat.ofInt, UnpackedFloat.normalize, hcompare,
        Int.toNat_natCast]
    exact ⟨dyadic m e, isVal_rounded (hunpacked.trans heq) hc hnear (by positivity) hn, hnear⟩

theorem isVal_toFloat32 (n : UInt32) :
    ∃ r, IsVal .positive n.toFloat32 r ∧ Near r n.toNat := by
  refine isVal_ofNat ?_
  have hn : (n.toNat : ℚ) ≤ 2 ^ 32 := by exact_mod_cast n.toNat_lt.le
  refine hn.trans ?_
  unfold bound
  norm_num

instance decEqSign : DecidableEq Sign
  | .negative, .negative => .isTrue rfl
  | .negative, .positive => .isFalse nofun
  | .positive, .negative => .isFalse nofun
  | .positive, .positive => .isTrue rfl

/-- The sign and the magnitude of a constant, where it is a normal number. -/
def constant? (x : Float32) : Option (Sign × ℚ) :=
  match x.toModel.unpack with
  | .finite s m e _ =>
    if 2 ^ 23 ≤ m ∧ m < 2 ^ 24 ∧ -149 ≤ e then some (s, dyadic m e) else none
  | _ => none

theorem isVal_of_constant {s : Sign} {x : Float32} {v : ℚ} (h : constant? x = some (s, v)) :
    IsVal s x v := by
  unfold constant? at h
  split at h
  · rename_i s' m e hm hx
    split_ifs at h with hc
    obtain ⟨rfl, rfl⟩ := Prod.mk.inj (Option.some.inj h)
    exact .finite m e hm hx ⟨hc.1, hc.2.1, hc.2.2⟩ rfl
  · cases h

end CodexOfPower.Binary32
