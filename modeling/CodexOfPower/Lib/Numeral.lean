/-
# `CodexOfPower.Lib.Numeral` — numerals, and reading them

A numeral of a base is a text of one or more of its digits, the most significant
first; letters stand for the digits from ten on, in either case.  `fromChars` is
`std::from_chars` for an unsigned type: it reads the digits it finds, and says where it
stopped and whether the value fits.  A text that is read to its end without an error is
a numeral whose value fits, and the other way round (`fromChars_iff`).
-/
import Mathlib.Data.Nat.Digits.Defs
import CodexOfPower.Lib.Bytes

namespace CodexOfPower

/-! ## Lists, element by element -/

/-- A list has a partner when each of its elements has one. -/
theorem exists_forall₂_iff {α β : Type} {R : α → β → Prop} {xs : List α} :
    (∃ ys, List.Forall₂ R xs ys) ↔ ∀ x ∈ xs, ∃ y, R x y := by
  induction xs with
  | nil => exact ⟨fun _ => nofun, fun _ => ⟨[], .nil⟩⟩
  | cons x xs ih =>
    rw [List.forall_mem_cons, ← ih]
    constructor
    · rintro ⟨ys, h⟩
      cases h with
      | cons hx hrest => exact ⟨⟨_, hx⟩, ⟨_, hrest⟩⟩
    · rintro ⟨⟨y, hx⟩, ⟨ys, hrest⟩⟩
      exact ⟨y :: ys, .cons hx hrest⟩

/-- What a loop that stops at the first failure collects. -/
theorem mapM_eq_some_iff {α β : Type} {f : α → Option β} {xs : List α} {ys : List β} :
    xs.mapM f = some ys ↔ List.Forall₂ (fun x y => f x = some y) xs ys := by
  induction xs generalizing ys with
  | nil =>
    rw [List.mapM_nil, List.forall₂_nil_left_iff]
    exact Option.some_inj.trans eq_comm
  | cons x xs ih =>
    have hcons : (x :: xs).mapM f = (f x).bind fun y => (xs.mapM f).bind fun rest =>
        some (y :: rest) := List.mapM_cons
    rw [hcons, List.forall₂_cons_left_iff, Option.bind_eq_some_iff]
    constructor
    · rintro ⟨y, hy, hrest⟩
      obtain ⟨rest, hmap, heq⟩ := Option.bind_eq_some_iff.mp hrest
      exact ⟨y, rest, hy, ih.mp hmap, (Option.some.inj heq).symm⟩
    · rintro ⟨y, rest, hy, hforall, rfl⟩
      refine ⟨y, hy, ?_⟩
      rw [ih.mpr hforall]
      rfl

/-! ## Digits -/

/-- `0` to `9`, then `a` to `z` or `A` to `Z`. -/
def digitValue (c : UInt8) : Option Nat :=
  if 0x30 ≤ c ∧ c ≤ 0x39 then some (c.toNat - 0x30)
  else if 0x61 ≤ c ∧ c ≤ 0x7A then some (c.toNat - 0x61 + 10)
  else if 0x41 ≤ c ∧ c ≤ 0x5A then some (c.toNat - 0x41 + 10)
  else none

def digitIn (base : Nat) (c : UInt8) : Option Nat :=
  (digitValue c).filter fun digit => digit < base

/-- A numeral of the base, and its value. -/
def Numeral (base : Nat) (text : Bytes) (n : Nat) : Prop :=
  text ≠ [] ∧ ∃ digits : List Nat,
    List.Forall₂ (fun c digit => digitIn base c = some digit) text digits ∧
      Nat.ofDigits base digits.reverse = n

/-! ## Reading -/

inductive Errc
  | ok
  | invalidArgument
  | resultOutOfRange
deriving DecidableEq

/-- Where the reader stopped, how, and what it read. -/
structure FromCharsResult where
  rest : Bytes
  ec : Errc
  value : Nat

def readDigits (base : Nat) (digits : Bytes) : Nat :=
  digits.foldl (fun value c => value * base + (digitIn base c).getD 0) 0

/-- `std::from_chars` for an unsigned type of `limit` values: neither sign nor prefix nor
blanks are skipped, and a value that does not fit is read to its end. -/
def fromChars (limit base : Nat) (text : Bytes) : FromCharsResult :=
  let digits := text.takeWhile fun c => (digitIn base c).isSome
  let rest := text.dropWhile fun c => (digitIn base c).isSome
  if digits = [] then { rest := text, ec := .invalidArgument, value := 0 }
  else if readDigits base digits < limit then
    { rest, ec := .ok, value := readDigits base digits }
  else { rest, ec := .resultOutOfRange, value := 0 }

section Reading

variable {limit base n : Nat} {text : Bytes}

theorem readDigits_eq {digits : List Nat}
    (h : List.Forall₂ (fun c digit => digitIn base c = some digit) text digits) :
    readDigits base text = Nat.ofDigits base digits.reverse := by
  have hfold : ∀ value, text.foldl (fun value c => value * base + (digitIn base c).getD 0) value =
      Nat.ofDigits base digits.reverse + base ^ digits.length * value := by
    induction h with
    | nil => intro value; simp
    | @cons c digit text digits hc _ ih =>
      intro value
      rw [List.foldl_cons, ih, hc, Option.getD_some, List.reverse_cons, Nat.ofDigits_append,
        Nat.ofDigits_singleton, List.length_reverse, List.length_cons, pow_succ]
      ring
  rw [readDigits, hfold, Nat.mul_zero, Nat.add_zero]

theorem exists_digits_iff :
    (∃ digits, List.Forall₂ (fun c digit => digitIn base c = some digit) text digits) ↔
      ∀ c ∈ text, (digitIn base c).isSome = true := by
  simp only [exists_forall₂_iff, Option.isSome_iff_exists]

theorem numeral_iff_readDigits :
    Numeral base text n ↔
      text ≠ [] ∧ (∀ c ∈ text, (digitIn base c).isSome = true) ∧ readDigits base text = n := by
  refine and_congr_right fun _ => ?_
  rw [← exists_digits_iff]
  constructor
  · rintro ⟨digits, hdigits, hvalue⟩
    exact ⟨⟨digits, hdigits⟩, (readDigits_eq hdigits).trans hvalue⟩
  · rintro ⟨⟨digits, hdigits⟩, hvalue⟩
    exact ⟨digits, hdigits, (readDigits_eq hdigits).symm.trans hvalue⟩

/-- Read to the end without an error: a numeral whose value fits. -/
theorem fromChars_iff :
    ((fromChars limit base text).ec = .ok ∧ (fromChars limit base text).rest = [] ∧
        (fromChars limit base text).value = n) ↔
      Numeral base text n ∧ n < limit := by
  have hrest : text.dropWhile (fun c => (digitIn base c).isSome) = [] ↔
      ∀ c ∈ text, (digitIn base c).isSome = true := List.dropWhile_eq_nil_iff
  have hall : (∀ c ∈ text, (digitIn base c).isSome = true) →
      text.takeWhile (fun c => (digitIn base c).isSome) = text := List.takeWhile_eq_self_iff.mpr
  rw [numeral_iff_readDigits]
  unfold fromChars
  dsimp only
  split_ifs with hempty hfits
  · constructor
    · rintro ⟨hec, -, -⟩
      cases hec
    · rintro ⟨⟨hne, hdigits, -⟩, -⟩
      exact absurd ((hall hdigits).symm.trans hempty) hne
  · constructor
    · rintro ⟨-, hend, hvalue⟩
      have hdigits := hrest.mp hend
      rw [hall hdigits] at hempty hfits hvalue
      exact ⟨⟨hempty, hdigits, hvalue⟩, hvalue ▸ hfits⟩
    · rintro ⟨⟨hne, hdigits, hvalue⟩, hlt⟩
      refine ⟨rfl, hrest.mpr hdigits, ?_⟩
      rw [hall hdigits]
      exact hvalue
  · constructor
    · rintro ⟨hec, -, -⟩
      cases hec
    · rintro ⟨⟨hne, hdigits, hvalue⟩, hlt⟩
      rw [hall hdigits, hvalue] at hfits
      exact absurd hlt hfits

theorem not_numeral_of_mem {c : UInt8} (hc : c ∈ text) (hdigit : digitIn base c = none) :
    ¬ Numeral base text n := by
  intro h
  have hsome := (numeral_iff_readDigits.mp h).2.1 c hc
  rw [hdigit] at hsome
  cases hsome

end Reading

end CodexOfPower
