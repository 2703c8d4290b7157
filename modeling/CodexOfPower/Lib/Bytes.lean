/-
# `CodexOfPower.Lib.Bytes` — values as bytes, and parsers over byte lists

A trivially copyable type is written as its object representation: a fixed
number of bytes, least significant first.  `TriviallyCopyable` packages the two
directions with the laws that make them a codec, so that every fixed-width field
of a file format round-trips by one lemma (`parse_encode`).

The second half is the parser monad: a parser takes the bytes that are left and
returns a value with the bytes left after it, or nothing when it ran out.  A
parser describes a format; how a program reads the same bytes piece by piece is
the business of `CodexOfPower.Lib.RecordReader`.
-/
import Mathlib

namespace CodexOfPower

abbrev Bytes := List UInt8

def utf8 (text : String) : Bytes := text.toUTF8.data.toList

/-! ## Little-endian numbers -/

/-- The `n` low bytes of a number, least significant first. -/
def leBytes : Nat → Nat → Bytes
  | 0, _ => []
  | n + 1, v => UInt8.ofNat v :: leBytes n (v / 256)

def leValue : Bytes → Nat
  | [] => 0
  | b :: bs => b.toNat + 256 * leValue bs

@[simp] theorem length_leBytes (n v : Nat) : (leBytes n v).length = n := by
  induction n generalizing v with
  | zero => rfl
  | succ n ih => rw [leBytes, List.length_cons, ih]

theorem leValue_leBytes {n v : Nat} (h : v < 256 ^ n) : leValue (leBytes n v) = v := by
  induction n generalizing v with
  | zero => simp at h; simp [leBytes, leValue, h]
  | succ n ih =>
    have hv : v / 256 < 256 ^ n := by rw [pow_succ] at h; omega
    rw [leBytes, leValue, ih hv, UInt8.toNat_ofNat']
    omega

/-! ## Trivially copyable types -/

/-- A type whose values are written as a fixed number of bytes. -/
class TriviallyCopyable (α : Type) where
  size : Nat
  toBytes : α → Bytes
  ofBytes : Bytes → α
  size_pos : 0 < size
  length_toBytes (x : α) : (toBytes x).length = size
  ofBytes_toBytes (x : α) : ofBytes (toBytes x) = x

export TriviallyCopyable (toBytes)

/-- The size of a type's object representation. -/
abbrev sizeof (α : Type) [TriviallyCopyable α] : Nat := TriviallyCopyable.size α

instance : TriviallyCopyable UInt8 where
  size := 1
  toBytes x := leBytes 1 x.toNat
  ofBytes bs := UInt8.ofNat (leValue bs)
  size_pos := by decide
  length_toBytes _ := length_leBytes _ _
  ofBytes_toBytes x := by
    rw [leValue_leBytes (n := 1) (v := x.toNat) x.toNat_lt]
    exact UInt8.ofNat_toNat

instance : TriviallyCopyable UInt32 where
  size := 4
  toBytes x := leBytes 4 x.toNat
  ofBytes bs := UInt32.ofNat (leValue bs)
  size_pos := by decide
  length_toBytes _ := length_leBytes _ _
  ofBytes_toBytes x := by
    rw [leValue_leBytes (n := 4) (v := x.toNat) x.toNat_lt]
    exact UInt32.ofNat_toNat

instance : TriviallyCopyable UInt64 where
  size := 8
  toBytes x := leBytes 8 x.toNat
  ofBytes bs := UInt64.ofNat (leValue bs)
  size_pos := by decide
  length_toBytes _ := length_leBytes _ _
  ofBytes_toBytes x := by
    rw [leValue_leBytes (n := 8) (v := x.toNat) x.toNat_lt]
    exact UInt64.ofNat_toNat

/-- Two's complement: the bytes of the unsigned number with the same bits. -/
instance : TriviallyCopyable Int32 where
  size := 4
  toBytes x := toBytes x.toUInt32
  ofBytes bs := (TriviallyCopyable.ofBytes bs : UInt32).toInt32
  size_pos := by decide
  length_toBytes x := TriviallyCopyable.length_toBytes x.toUInt32
  ofBytes_toBytes x := by rw [TriviallyCopyable.ofBytes_toBytes, Int32.toInt32_toUInt32]

/-- IEEE single precision: the bytes of the bit pattern. -/
instance : TriviallyCopyable Float32 where
  size := 4
  toBytes x := toBytes x.toBits
  ofBytes bs := Float32.ofBits (TriviallyCopyable.ofBytes bs)
  size_pos := by decide
  length_toBytes x := TriviallyCopyable.length_toBytes x.toBits
  ofBytes_toBytes x := by rw [TriviallyCopyable.ofBytes_toBytes, Float32.ofBits_toBits]

@[simp] theorem length_toBytes {α : Type} [TriviallyCopyable α] (x : α) :
    (toBytes x).length = sizeof α :=
  TriviallyCopyable.length_toBytes x

/-! ## Parsers -/

/-- A parser: from the bytes that are left to a value and the bytes after it. -/
abbrev Parser := StateT Bytes Option

namespace Parser

def take (n : Nat) : Parser Bytes := fun data =>
  if n ≤ data.length then some (data.take n, data.drop n) else none

def value (α : Type) [TriviallyCopyable α] : Parser α := fun data =>
  if sizeof α ≤ data.length then
    some (TriviallyCopyable.ofBytes (data.take (sizeof α)), data.drop (sizeof α))
  else none

def remaining : Parser Nat := fun data => some (data.length, data)

/-- Parse up to `n` elements, stopping when fewer than `least` bytes are left. -/
def upTo {β : Type} (least : Nat) (p : Parser β) : Nat → Parser (List β)
  | 0 => pure []
  | n + 1 => do
    if least ≤ (← remaining) then
      let x ← p
      let xs ← upTo least p n
      pure (x :: xs)
    else pure []

/-- Take what is left and ignore it. -/
def ignoreRest : Parser Unit := fun _ => some ((), [])

theorem bind_eq {α β : Type} {p : Parser α} {q : α → Parser β} {data rest : Bytes} {x : α}
    (h : p data = some (x, rest)) : (p >>= q) data = q x rest := by
  show (p data).bind (fun y => q y.1 y.2) = q x rest
  rw [h, Option.bind_some]

section Encode

variable {α : Type} [TriviallyCopyable α]

@[simp] theorem value_toBytes (x : α) (rest : Bytes) :
    value α (toBytes x ++ rest) = some (x, rest) := by
  unfold value
  rw [if_pos (by simp), List.take_left' (length_toBytes x), List.drop_left' (length_toBytes x),
    TriviallyCopyable.ofBytes_toBytes]

/-- An encoded value at the front of the data is read, and what follows it. -/
theorem value_bind {β : Type} {q : α → Parser β} (x : α) (rest : Bytes) :
    (value α >>= q) (toBytes x ++ rest) = q x rest :=
  bind_eq (value_toBytes x rest)

theorem value_of_short {data : Bytes} (h : data.length < sizeof α) : value α data = none :=
  if_neg (by omega)

@[simp] theorem take_append (bs rest : Bytes) : take bs.length (bs ++ rest) = some (bs, rest) := by
  unfold take
  rw [if_pos (by simp), List.take_left, List.drop_left]

end Encode

/-- The parser fails on fewer than `n` bytes. -/
def Needs {β : Type} (p : Parser β) (n : Nat) : Prop :=
  ∀ data : Bytes, data.length < n → p data = none

theorem Needs.zero {β : Type} (p : Parser β) : p.Needs 0 := fun _ h => absurd h (Nat.not_lt_zero _)

theorem Needs.value {α β : Type} [TriviallyCopyable α] {q : α → Parser β} {n : Nat}
    (h : ∀ x, (q x).Needs n) : (Parser.value α >>= q).Needs (sizeof α + n) := by
  intro data hlen
  show (Parser.value α data).bind _ = none
  unfold Parser.value
  by_cases hs : sizeof α ≤ data.length
  · rw [if_pos hs, Option.bind_some]
    exact h _ _ (by rw [List.length_drop]; omega)
  · rw [if_neg hs, Option.bind_none]

/-- The parser takes exactly `n` bytes, whatever they are. -/
def FixedSize {β : Type} (p : Parser β) (n : Nat) : Prop :=
  ∀ data : Bytes, n ≤ data.length → ∃ x, p data = some (x, data.drop n)

theorem FixedSize.pure {β : Type} (x : β) : FixedSize (Pure.pure x : Parser β) 0 :=
  fun _ _ => ⟨x, rfl⟩

theorem FixedSize.value {α β : Type} [TriviallyCopyable α] {q : α → Parser β} {n : Nat}
    (h : ∀ x, (q x).FixedSize n) : (Parser.value α >>= q).FixedSize (sizeof α + n) := by
  intro data hlen
  have hs : sizeof α ≤ data.length := by omega
  obtain ⟨y, hy⟩ := h (TriviallyCopyable.ofBytes (data.take (sizeof α)))
    (data.drop (sizeof α)) (by rw [List.length_drop]; omega)
  refine ⟨y, ?_⟩
  show (Parser.value α data).bind (fun x => q x.1 x.2) = _
  unfold Parser.value
  rw [if_pos hs, Option.bind_some, hy, List.drop_drop]

def Ensures {β : Type} (p : Parser β) (P : β → Prop) : Prop :=
  ∀ (data rest : Bytes) (x : β), p data = some (x, rest) → P x

theorem Ensures.pure {β : Type} {P : β → Prop} {x : β} (h : P x) :
    Ensures (Pure.pure x : Parser β) P := by
  intro data rest y hy
  cases hy
  exact h

theorem Ensures.bind {α β : Type} {p : Parser α} {q : α → Parser β} {Q : α → Prop} {P : β → Prop}
    (hp : p.Ensures Q) (hq : ∀ x, Q x → (q x).Ensures P) : (p >>= q).Ensures P := by
  intro data rest y hy
  obtain ⟨⟨x, rest'⟩, hx, hrest⟩ := Option.bind_eq_some_iff.mp hy
  exact hq x (hp data rest' x hx) rest' rest y hrest

/-- What a parser returns does not matter to the property of a later one. -/
theorem Ensures.skip {α β : Type} {p : Parser α} {q : α → Parser β} {P : β → Prop}
    (hq : ∀ x, (q x).Ensures P) : (p >>= q).Ensures P :=
  Ensures.bind (Q := fun _ => True) (fun _ _ _ _ => trivial) fun x _ => hq x

theorem upTo_succ {β : Type} (least : Nat) (p : Parser β) (n : Nat) (data : Bytes) :
    upTo least p (n + 1) data
      = if least ≤ data.length then
          (p data).bind fun x => (upTo least p n x.2).bind fun xs => some (x.1 :: xs.1, xs.2)
        else some ([], data) := by
  show (if least ≤ data.length then _ else _ : Parser (List β)) data = _
  by_cases h : least ≤ data.length
  · rw [if_pos h, if_pos h]; rfl
  · rw [if_neg h, if_neg h]; rfl

/-- Every element of a repetition has the property of the elements. -/
theorem Ensures.upTo {β : Type} {p : Parser β} {P : β → Prop} (hp : p.Ensures P) (least n : Nat) :
    (Parser.upTo least p n).Ensures fun xs => ∀ x ∈ xs, P x := by
  induction n with
  | zero => exact .pure fun x hx => absurd hx List.not_mem_nil
  | succ n ih =>
    refine .skip fun left => ?_
    by_cases h : least ≤ left
    · rw [if_pos h]
      refine hp.bind fun x hx => ih.bind fun xs hxs => .pure ?_
      exact List.forall_mem_cons.mpr ⟨hx, hxs⟩
    · rw [if_neg h]
      exact .pure fun x hx => absurd hx List.not_mem_nil

theorem upTo_flatMap {α β : Type} {p : Parser β} {encode : α → Bytes} {decode : α → β}
    {least : Nat} (xs : List α) (hlen : ∀ x ∈ xs, least ≤ (encode x).length)
    (hp : ∀ x ∈ xs, ∀ rest, p (encode x ++ rest) = some (decode x, rest)) (rest : Bytes) :
    upTo least p xs.length (xs.flatMap encode ++ rest) = some (xs.map decode, rest) := by
  induction xs with
  | nil => rfl
  | cons x xs ih =>
    have hx := hlen x List.mem_cons_self
    have ih := ih (fun y hy => hlen y (List.mem_cons_of_mem _ hy))
      (fun y hy => hp y (List.mem_cons_of_mem _ hy))
    rw [List.length_cons, upTo_succ, List.flatMap_cons, List.append_assoc, if_pos
      (by rw [List.length_append]; omega), hp x List.mem_cons_self]
    rw [Option.bind_some, ih]
    rfl

/-- Counting the elements that fit beforehand, or stopping when the next one does
not fit, is the same for elements of a fixed size. -/
theorem upTo_clip {β : Type} {p : Parser β} {size : Nat} (hpos : 0 < size)
    (hp : p.FixedSize size) (n : Nat) (data : Bytes) :
    upTo 0 p (min n (data.length / size)) data = upTo size p n data := by
  induction n generalizing data with
  | zero => rw [Nat.zero_min]; rfl
  | succ n ih =>
    rw [upTo_succ]
    by_cases h : size ≤ data.length
    · obtain ⟨x, hx⟩ := hp data h
      have hdiv : data.length / size = (data.length - size) / size + 1 :=
        Nat.div_eq_sub_div hpos h
      rw [if_pos h, hdiv, Nat.succ_min_succ, upTo_succ, if_pos (Nat.zero_le _), hx,
        Option.bind_some, Option.bind_some]
      show (upTo 0 p _ (data.drop size)).bind _ = _
      rw [← List.length_drop, ih]
    · rw [if_neg h, Nat.div_eq_of_lt (by omega), Nat.min_zero]
      rfl

/-- Elements of a fixed size: as many are parsed as asked for and as fit. -/
theorem upTo_length {β : Type} {p : Parser β} {size : Nat} (hpos : 0 < size)
    (hp : p.FixedSize size) {n : Nat} {data rest : Bytes} {xs : List β}
    (h : upTo size p n data = some (xs, rest)) :
    xs.length = min n (data.length / size) ∧ rest.length + size * xs.length = data.length := by
  induction n generalizing data rest xs with
  | zero =>
    cases h
    exact ⟨(Nat.zero_min _).symm, rfl⟩
  | succ n ih =>
    rw [upTo_succ] at h
    by_cases hlen : size ≤ data.length
    · obtain ⟨x, hx⟩ := hp data hlen
      rw [if_pos hlen, hx, Option.bind_some] at h
      obtain ⟨⟨ys, rest'⟩, hys, heq⟩ := Option.bind_eq_some_iff.mp h
      cases heq
      obtain ⟨hcount, hrest⟩ := ih hys
      rw [List.length_drop] at hcount hrest
      have hdiv : data.length / size = (data.length - size) / size + 1 :=
        Nat.div_eq_sub_div hpos hlen
      show ys.length + 1 = _ ∧ rest'.length + size * (ys.length + 1) = _
      rw [Nat.mul_succ]
      exact ⟨by omega, by omega⟩
    · rw [if_neg hlen] at h
      cases h
      rw [Nat.div_eq_of_lt (by omega), Nat.min_zero]
      exact ⟨rfl, rfl⟩

end Parser

end CodexOfPower
