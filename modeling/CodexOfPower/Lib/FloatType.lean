/-
# `CodexOfPower.Lib.FloatType` — arithmetic a program may do on `float`

A program written over `float` is embedded over any type with these operations.
Two instances give it two meanings: `Float32` is what the machine computes,
rounding included, and `ℚ` is the same program in exact arithmetic, for claims
that are about the algorithm and not about rounding.
-/
import Mathlib.Data.Rat.Cast.Order
import Mathlib.Algebra.Order.Field.Rat
import Mathlib.Data.Rat.Floor

namespace CodexOfPower

/-- The operations of a floating-point type. -/
class FloatType (F : Type) extends Add F, Sub F, Mul F, Div F, Neg F, LE F, LT F,
    OfScientific F where
  decidableLE : DecidableLE F
  decidableLT : DecidableLT F
  abs : F → F
  isFinite : F → Bool
  /-- Rounds to the nearest integer, halves away from zero. -/
  round : F → F
  /-- Rounds towards zero. -/
  trunc : F → F
  /-- `static_cast<float>` of a `uint32_t`. -/
  ofUInt32 : UInt32 → F
  /-- `static_cast<float>` of an `int32_t`. -/
  ofInt32 : Int32 → F

namespace FloatType

instance (F : Type) [FloatType F] : DecidableLE F := decidableLE

instance (F : Type) [FloatType F] : DecidableLT F := decidableLT

def max {F : Type} [FloatType F] (a b : F) : F := if a < b then b else a

def min {F : Type} [FloatType F] (a b : F) : F := if b < a then b else a

instance : FloatType Float32 where
  decidableLE := inferInstance
  decidableLT := inferInstance
  abs := Float32.abs
  isFinite := Float32.isFinite
  round := Float32.round
  trunc x := if x < 0.0 then x.ceil else x.floor
  ofUInt32 := UInt32.toFloat32
  ofInt32 n := .ofModel (.ofInt32 n)

instance : FloatType ℚ where
  decidableLE := inferInstance
  decidableLT := inferInstance
  abs x := |x|
  isFinite _ := true
  round x := if x < 0 then -(⌊-x + 1 / 2⌋ : ℚ) else (⌊x + 1 / 2⌋ : ℚ)
  trunc x := if x < 0 then (⌈x⌉ : ℚ) else (⌊x⌋ : ℚ)
  ofUInt32 n := (n.toNat : ℚ)
  ofInt32 n := (n.toInt : ℚ)

end FloatType

end CodexOfPower
