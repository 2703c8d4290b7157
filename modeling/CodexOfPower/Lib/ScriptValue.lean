/-
# `CodexOfPower.Lib.ScriptValue` — the values of a script

What a script gets has no type: a member may be missing or of another kind, and the
script goes on with a default (`value || other`) or with what a conversion makes of the
value.  Here are the values and the conversions that say so.

Numbers are exact.  What the language makes of other values and texts by tables of its
own is a `ScriptLibrary`; results hold for each.
-/
import CodexOfPower.Lib.Bytes

namespace CodexOfPower

inductive ScriptValue
  | undefined
  | null
  | boolean (value : Bool)
  | number (value : ℚ)
  | infinity (negative : Bool)
  | nan
  | string (text : Bytes)
  | array (items : List ScriptValue)
  | object (members : List (Bytes × ScriptValue))

/-- The number and the text that a value of another kind is converted to, and what
becomes of a text that is not plain ASCII. -/
structure ScriptLibrary where
  numberOf : ScriptValue → Option ℚ
  textOf : ScriptValue → Bytes
  trim : Bytes → Bytes
  lowerCase : Bytes → Bytes
  /-- The number that a double is. -/
  ofFloat : Float → ScriptValue

namespace ScriptValue

/-- `value.key`; a member that is missing is `undefined`. -/
def member (value : ScriptValue) (key : String) : ScriptValue :=
  match value with
  | .object members => (members.lookup (utf8 key)).getD .undefined
  | _ => .undefined

/-- `Array.isArray(value) ? value : []` -/
def items : ScriptValue → List ScriptValue
  | .array items => items
  | _ => []

/-- `value && typeof value === "object" ? value : {}` -/
def asObject : ScriptValue → ScriptValue
  | .array items => .array items
  | .object members => .object members
  | _ => .object []

/-- `!!value` -/
def truthy : ScriptValue → Bool
  | .undefined | .null | .nan => false
  | .boolean value => value
  | .number value => value ≠ 0
  | .infinity _ => true
  | .string text => text ≠ []
  | .array _ | .object _ => true

/-- `value || other` -/
def orElse (value other : ScriptValue) : ScriptValue := if value.truthy then value else other

variable (library : ScriptLibrary)

/-- `Number(value)`, where it is finite. -/
def toNumber : ScriptValue → Option ℚ
  | .undefined | .nan | .infinity _ => none
  | .null => some 0
  | .boolean value => some (if value then 1 else 0)
  | .number value => some value
  | value => library.numberOf value

/-- `String(value)` -/
def toText : ScriptValue → Bytes
  | .string text => text
  | value => library.textOf value

/-- `Number(value) >>> 0`: the whole part, modulo 2³². -/
def toUInt32 (value : ScriptValue) : UInt32 :=
  match value.toNumber library with
  | none => 0
  | some n => UInt32.ofInt (n.num.tdiv n.den)

end ScriptValue

/-- The lower case of a letter of ASCII. -/
def lowerAscii (c : UInt8) : UInt8 := if 0x41 ≤ c ∧ c ≤ 0x5A then c + 0x20 else c

/-- `text.toLowerCase()` -/
def ScriptLibrary.toLowerCase (library : ScriptLibrary) (text : Bytes) : Bytes :=
  if text.all (· < 0x80) then text.map lowerAscii else library.lowerCase text

/-! ## Numbers of 32 bits -/

section UInt32

variable {library : ScriptLibrary} {value : ScriptValue} {n : UInt32}

theorem ScriptValue.toUInt32_of_toNumber (h : value.toNumber library = some (n.toNat : ℚ)) :
    value.toUInt32 library = n := by
  have hmod : ((n.toNat : Int) % 2 ^ 32).toNat = n.toNat := by
    have hlt := n.toNat_lt
    omega
  unfold ScriptValue.toUInt32 UInt32.ofInt
  rw [h]
  dsimp only
  rw [Rat.num_natCast, Rat.den_natCast, Nat.cast_one, Int.tdiv_one, hmod, UInt32.ofNat_toNat]

theorem ScriptValue.truthy_number_natCast (k : Nat) :
    (ScriptValue.number k).truthy = true ↔ k ≠ 0 := by
  simp [ScriptValue.truthy]

/-- A default of zero changes no count. -/
@[simp] theorem ScriptValue.toUInt32_number_orElse_zero (n : UInt32) :
    ((ScriptValue.number n.toNat).orElse (.number 0)).toUInt32 library = n := by
  apply toUInt32_of_toNumber
  unfold ScriptValue.orElse
  split_ifs with hn
  · rfl
  · have hzero : n.toNat = 0 := by simpa [truthy_number_natCast] using hn
    rw [hzero, Nat.cast_zero]
    rfl

end UInt32

/-- A default of the empty text changes no text. -/
@[simp] theorem ScriptValue.toText_string_orElse_nil (library : ScriptLibrary) (text : Bytes) :
    ((ScriptValue.string text).orElse (.string [])).toText library = text := by
  unfold ScriptValue.orElse
  split_ifs with htext
  · rfl
  · have hnil : text = [] := by simpa [ScriptValue.truthy] using htext
    exact hnil.symm

/-- A default shows in the empty text alone. -/
theorem ScriptValue.toText_string_orElse {library : ScriptLibrary} {text : Bytes}
    (h : text ≠ []) (other : ScriptValue) :
    ((ScriptValue.string text).orElse other).toText library = text := by
  have htruthy : (ScriptValue.string text).truthy = true := decide_eq_true h
  unfold ScriptValue.orElse
  rw [htruthy]
  rfl

end CodexOfPower
