/-
# `CodexOfPower.FormIdRequests` — form ids in the requests of the page

A form id arrives as a JSON number or as a text in decimal or hexadecimal.  The request
for one item and the request for a batch decode it with two functions written apart,
which agree (`parseBatchFormId_eq`).

Both take a number that was written without a sign by `get<std::uint32_t>`, which keeps
its low 32 bits, where the branch for signed numbers checks the range.  So a number of
2³² or more is not refused: it names another form, or in a batch is refused only if its
low half is zero.  Nothing else goes wrong (`formIds_exact_iff`).

## What is not said

Parsing the JSON text comes before these functions, and what a request does with its form
ids after them (`CodexOfPower.Registration`); neither is meant by "exact".
-/
import CodexOfPower.Settings
import CodexOfPower.Skyrim
import CodexOfPower.Lib.Numeral

namespace CodexOfPower.PrismaUIManager

open RE Builds

/-! ## The decoders -/

def parseFormIDFromJson : Json → Option FormID
  | .numberUnsigned value => some value.toUInt32
  | .numberInteger value =>
    if value < 0 ∨ 0xFFFFFFFF < value then none else some value.toUInt64.toUInt32
  | .string s =>
    let hexadecimal := (utf8 "0x").isPrefixOf s || (utf8 "0X").isPrefixOf s
    let base := if hexadecimal then 16 else 10
    let idx := if hexadecimal then 2 else 0
    let parsed := fromChars (2 ^ 32) base (s.drop idx)
    if parsed.ec ≠ .ok ∨ parsed.rest ≠ [] then none else some (UInt32.ofNat parsed.value)
  | _ => none

def parseBatchFormId : Json → Option FormID
  | .numberUnsigned value => some value.toUInt32
  | .numberInteger parsed =>
    if parsed < 0 ∨ 0xFFFFFFFF < parsed then none else some parsed.toUInt64.toUInt32
  | .string raw =>
    if raw = [] then none
    else
      let (text, base) :=
        if (utf8 "0x").isPrefixOf raw || (utf8 "0X").isPrefixOf raw then (raw.drop 2, 16)
        else (raw, 10)
      let parsed := fromChars (2 ^ 32) base text
      if parsed.ec ≠ .ok ∨ parsed.rest ≠ [] then none else some (UInt32.ofNat parsed.value)
  | _ => none

/-- One turn of the loop over the batch: no id, and the id 0, end it. -/
def parseBatchEntry (rawValue : Json) : Option FormID :=
  match parseBatchFormId rawValue with
  | none => none
  | some formId => if formId = 0 then none else some formId

def parseRegisterBatchRequest (payload : Json) : Option (List FormID) :=
  match payload.find "formIds" with
  | some (.array values) =>
    match values.mapM parseBatchEntry with
    | none => none
    | some formIds => if formIds = [] then none else some formIds
  | _ => none

/-! ## What they should accept -/

/-- The integer that a value stands for: a number written as an integer, or a text in
decimal or, after `0x` or `0X`, in hexadecimal. -/
inductive Denotes : Json → Nat → Prop
  | unsigned (value : UInt64) : Denotes (.numberUnsigned value) value.toNat
  | integer {value : Int64} {n : Nat} (h : value.toInt = n) : Denotes (.numberInteger value) n
  | decimal {text : Text} {n : Nat} (h : Numeral 10 text n) : Denotes (.string text) n
  | hexadecimal {mark digits : Text} {n : Nat} (hmark : mark = utf8 "0x" ∨ mark = utf8 "0X")
      (h : Numeral 16 digits n) : Denotes (.string (mark ++ digits)) n

/-- A form id is decoded exactly where the value stands for it. -/
def Exact (decode : Json → Option FormID) (value : Json) : Prop :=
  ∀ formId, decode value = some formId ↔ Denotes value formId.toNat

/-- A batch is accepted exactly if it lists form ids other than 0, at least one. -/
def BatchExact (payload : Json) : Prop :=
  ∀ formIds, parseRegisterBatchRequest payload = some formIds ↔
    ∃ values, payload.find "formIds" = some (.array values) ∧ values ≠ [] ∧
      List.Forall₂ (fun value formId => Denotes value formId.toNat ∧ formId ≠ 0) values formIds

/-- A number without a sign that has more than 32 bits. -/
def Wraps (value : Json) : Prop := ∃ n : UInt64, value = .numberUnsigned n ∧ 2 ^ 32 ≤ n.toNat

/-- A batch of ids other than 0 and numbers that wrap to one, with such a number in it. -/
def BatchWraps (payload : Json) : Prop :=
  ∃ values, payload.find "formIds" = some (.array values) ∧ (∃ value ∈ values, Wraps value) ∧
    ∀ value ∈ values, (∃ formId : FormID, Denotes value formId.toNat ∧ formId ≠ 0) ∨
      ∃ n : UInt64, value = .numberUnsigned n ∧ 2 ^ 32 ≤ n.toNat ∧ n.toUInt32 ≠ 0

/-! ## Texts -/

section Texts

variable {text mark digits : Text} {n : Nat} {formId : FormID}

theorem parsed_iff (base : Nat) (text : Text) :
    (if (fromChars (2 ^ 32) base text).ec ≠ .ok ∨ (fromChars (2 ^ 32) base text).rest ≠ [] then none
      else some (UInt32.ofNat (fromChars (2 ^ 32) base text).value)) = some formId ↔
      Numeral base text formId.toNat := by
  have hlt : formId.toNat < 2 ^ 32 := formId.toNat_lt
  have hread : Numeral base text formId.toNat ↔ (fromChars (2 ^ 32) base text).ec = .ok ∧
      (fromChars (2 ^ 32) base text).rest = [] ∧
      (fromChars (2 ^ 32) base text).value = formId.toNat :=
    (and_iff_left hlt).symm.trans fromChars_iff.symm
  rw [hread]
  split_ifs with hbad
  · constructor
    · nofun
    · rintro ⟨hec, hrest, -⟩
      exact absurd hrest (hbad.resolve_left (not_not.mpr hec))
  · rw [not_or, not_not, not_not] at hbad
    have hvalue : (fromChars (2 ^ 32) base text).value < 2 ^ 32 :=
      (fromChars_iff.mp ⟨hbad.1, hbad.2, rfl⟩).2
    rw [Option.some.injEq]
    constructor
    · rintro rfl
      exact ⟨hbad.1, hbad.2, (UInt32.toNat_ofNat_of_lt' hvalue).symm⟩
    · rintro ⟨-, -, heq⟩
      rw [heq, UInt32.ofNat_toNat]

/-- The mark of a hexadecimal text is no part of a decimal one. -/
theorem not_decimal_of_mark (hmark : mark = utf8 "0x" ∨ mark = utf8 "0X") :
    ¬ Numeral 10 (mark ++ digits) n := by
  rcases hmark with rfl | rfl
  · exact not_numeral_of_mem (List.mem_append_left _ (by decide : (0x78 : UInt8) ∈ utf8 "0x"))
      (by decide)
  · exact not_numeral_of_mem (List.mem_append_left _ (by decide : (0x58 : UInt8) ∈ utf8 "0X"))
      (by decide)

theorem marked_cases (text : Text) :
    (∃ mark digits, (mark = utf8 "0x" ∨ mark = utf8 "0X") ∧ text = mark ++ digits ∧
      ((utf8 "0x").isPrefixOf text || (utf8 "0X").isPrefixOf text) = true ∧
      text.drop 2 = digits) ∨
    (∀ mark digits, (mark = utf8 "0x" ∨ mark = utf8 "0X") → text ≠ mark ++ digits) ∧
      ((utf8 "0x").isPrefixOf text || (utf8 "0X").isPrefixOf text) = false := by
  cases hmarked : (utf8 "0x").isPrefixOf text || (utf8 "0X").isPrefixOf text with
  | true =>
    rw [Bool.or_eq_true, List.isPrefixOf_iff_prefix, List.isPrefixOf_iff_prefix] at hmarked
    rcases hmarked with ⟨digits, rfl⟩ | ⟨digits, rfl⟩
    · exact .inl ⟨_, digits, .inl rfl, rfl, rfl, rfl⟩
    · exact .inl ⟨_, digits, .inr rfl, rfl, rfl, rfl⟩
  | false =>
    rw [Bool.or_eq_false_iff] at hmarked
    refine .inr ⟨?_, rfl⟩
    rintro mark digits (rfl | rfl) rfl
    · have hprefix := List.isPrefixOf_iff_prefix.mpr (List.prefix_append (utf8 "0x") digits)
      rw [hmarked.1] at hprefix
      cases hprefix
    · have hprefix := List.isPrefixOf_iff_prefix.mpr (List.prefix_append (utf8 "0X") digits)
      rw [hmarked.2] at hprefix
      cases hprefix

theorem denotes_marked_iff (hmark : mark = utf8 "0x" ∨ mark = utf8 "0X") :
    Denotes (.string (mark ++ digits)) n ↔ Numeral 16 digits n := by
  constructor
  · intro h
    generalize htext : mark ++ digits = text at h
    cases h with
    | decimal h => exact absurd (htext ▸ h) (not_decimal_of_mark hmark)
    | @hexadecimal mark' digits' n hmark' h =>
      have hdrop := congrArg (List.drop 2) htext
      rcases hmark with rfl | rfl <;> rcases hmark' with rfl | rfl <;>
        · obtain rfl : digits = digits' := hdrop
          exact h
  · exact .hexadecimal hmark

theorem denotes_unmarked_iff
    (h : ∀ mark digits, (mark = utf8 "0x" ∨ mark = utf8 "0X") → text ≠ mark ++ digits) :
    Denotes (.string text) n ↔ Numeral 10 text n := by
  constructor
  · intro hdenotes
    cases hdenotes with
    | decimal h => exact h
    | hexadecimal hmark _ => exact absurd rfl (h _ _ hmark)
  · exact .decimal

theorem parse_string (text : Text) :
    parseFormIDFromJson (.string text) = some formId ↔ Denotes (.string text) formId.toNat := by
  unfold parseFormIDFromJson
  dsimp only
  rcases marked_cases text with ⟨mark, digits, hmark, heq, hmarked, hdrop⟩ | ⟨hnone, hmarked⟩
  · rw [hmarked, if_pos rfl, if_pos rfl, hdrop, parsed_iff, heq, denotes_marked_iff hmark]
  · rw [hmarked, if_neg Bool.false_ne_true, if_neg Bool.false_ne_true, List.drop_zero, parsed_iff,
      denotes_unmarked_iff hnone]

end Texts

/-! ## Numbers -/

section Numbers

variable {formId : FormID}

/-- The signed branch of the decoder checks the range. -/
theorem parse_integer (value : Int64) :
    parseFormIDFromJson (.numberInteger value) = some formId ↔
      Denotes (.numberInteger value) formId.toNat := by
  have hdenotes : Denotes (.numberInteger value) formId.toNat ↔ value.toInt = formId.toNat :=
    ⟨fun h => by cases h with | integer h => exact h, .integer⟩
  have hzero : (0 : Int64).toInt = 0 := by decide
  have hmax : (0xFFFFFFFF : Int64).toInt = 2 ^ 32 - 1 := by decide
  have hlt : formId.toNat < 2 ^ 32 := formId.toNat_lt
  have hout : (value < 0 ∨ 0xFFFFFFFF < value) ↔ value.toInt < 0 ∨ 2 ^ 32 - 1 < value.toInt := by
    rw [Int64.lt_iff_toInt_lt, Int64.lt_iff_toInt_lt, hzero, hmax]
  rw [hdenotes]
  unfold parseFormIDFromJson
  dsimp only
  split_ifs with hrange
  · rw [hout] at hrange
    constructor
    · nofun
    · intro hvalue
      omega
  · rw [hout] at hrange
    have hnonneg : 0 ≤ value := by
      rw [Int64.le_iff_toInt_le, hzero]
      omega
    have hlow : value.toUInt64.toUInt32.toNat = value.toInt.toNat % 2 ^ 32 := by
      rw [UInt64.toNat_toUInt32, Int64.toNat_toUInt64_of_le hnonneg, Int64.toNat_toInt]
    rw [Option.some.injEq, ← UInt32.toNat_inj, hlow]
    omega

/-- The unsigned branch of the decoder keeps the low 32 bits. -/
theorem exact_unsigned_iff (value : UInt64) :
    Exact parseFormIDFromJson (.numberUnsigned value) ↔ value.toNat < 2 ^ 32 := by
  have hlow : value.toUInt32.toNat = value.toNat % 2 ^ 32 := UInt64.toNat_toUInt32 value
  have hdenotes : ∀ n, Denotes (.numberUnsigned value) n ↔ value.toNat = n := by
    intro n
    constructor
    · intro h
      cases h
      rfl
    · rintro rfl
      exact .unsigned value
  constructor
  · intro h
    have hwhole := (hdenotes _).mp ((h value.toUInt32).mp rfl)
    rw [hwhole]
    exact value.toUInt32.toNat_lt
  · intro hlt formId
    rw [Nat.mod_eq_of_lt hlt] at hlow
    rw [hdenotes, ← hlow, UInt32.toNat_inj]
    exact Option.some_inj

end Numbers

/-! ## One id -/

theorem exact_iff (value : Json) : Exact parseFormIDFromJson value ↔ ¬ Wraps value := by
  have hother : (∀ n : UInt64, value ≠ .numberUnsigned n) → ¬ Wraps value := by
    rintro hne ⟨n, heq, -⟩
    exact hne n heq
  -- what is neither number nor text stands for nothing, and is refused
  have hrefused : (∀ n, ¬ Denotes value n) → (∀ formId, parseFormIDFromJson value ≠ some formId) →
      Exact parseFormIDFromJson value := by
    intro hnothing hnone formId
    exact ⟨fun h => absurd h (hnone formId), fun h => absurd h (hnothing _)⟩
  cases value with
  | numberUnsigned n =>
    rw [exact_unsigned_iff]
    constructor
    · rintro hlt ⟨m, heq, hle⟩
      obtain rfl := Json.numberUnsigned.inj heq
      exact absurd hlt (not_lt.mpr hle)
    · intro hwraps
      by_contra hge
      exact hwraps ⟨n, rfl, not_lt.mp hge⟩
  | numberInteger n => exact ⟨fun _ => hother nofun, fun _ formId => parse_integer n⟩
  | string text => exact ⟨fun _ => hother nofun, fun _ formId => parse_string text⟩
  | null => exact ⟨fun _ => hother nofun, fun _ => hrefused nofun nofun⟩
  | boolean b => exact ⟨fun _ => hother nofun, fun _ => hrefused nofun nofun⟩
  | numberFloat x => exact ⟨fun _ => hother nofun, fun _ => hrefused nofun nofun⟩
  | array items => exact ⟨fun _ => hother nofun, fun _ => hrefused nofun nofun⟩
  | object members => exact ⟨fun _ => hother nofun, fun _ => hrefused nofun nofun⟩

/-- The check for an empty text makes no difference. -/
theorem parseBatchFormId_eq (value : Json) :
    parseBatchFormId value = parseFormIDFromJson value := by
  cases value with
  | string raw =>
    by_cases hempty : raw = []
    · subst hempty
      rfl
    · unfold parseBatchFormId parseFormIDFromJson
      dsimp only
      rw [if_neg hempty]
      cases (utf8 "0x").isPrefixOf raw || (utf8 "0X").isPrefixOf raw with
      | true => rfl
      | false => rfl
  | _ => rfl

theorem not_wraps_of_denotes {value : Json} {formId : FormID} (h : Denotes value formId.toNat) :
    ¬ Wraps value := by
  rintro ⟨n, rfl, hle⟩
  generalize hvalue : formId.toNat = k at h
  cases h
  exact absurd formId.toNat_lt (not_lt.mpr (hvalue ▸ hle))

theorem parse_of_denotes {value : Json} {formId : FormID} (h : Denotes value formId.toNat) :
    parseFormIDFromJson value = some formId :=
  ((exact_iff value).mpr (not_wraps_of_denotes h) formId).mpr h

/-! ## A batch -/

section Batch

variable {payload : Json} {values : List Json} {formIds : List FormID}

theorem parseBatchEntry_iff {value : Json} {formId : FormID} :
    parseBatchEntry value = some formId ↔ parseFormIDFromJson value = some formId ∧ formId ≠ 0 := by
  unfold parseBatchEntry
  rw [parseBatchFormId_eq]
  cases parseFormIDFromJson value with
  | none => exact ⟨nofun, fun h => nomatch h.1⟩
  | some other =>
    dsimp only
    rw [Option.some.injEq]
    split_ifs with hzero
    · constructor
      · nofun
      · rintro ⟨rfl, hne⟩
        exact absurd hzero hne
    · rw [Option.some.injEq]
      constructor
      · rintro rfl
        exact ⟨rfl, hzero⟩
      · exact And.left

/-- The batches that the code accepts, and what it makes of them. -/
theorem parseRegisterBatchRequest_iff :
    parseRegisterBatchRequest payload = some formIds ↔
      ∃ values, payload.find "formIds" = some (.array values) ∧ values ≠ [] ∧
        List.Forall₂ (fun value formId => parseFormIDFromJson value = some formId ∧ formId ≠ 0)
          values formIds := by
  have hentries : ∀ values, values.mapM parseBatchEntry = some formIds ↔
      List.Forall₂ (fun value formId => parseFormIDFromJson value = some formId ∧ formId ≠ 0)
        values formIds := by
    intro values
    simp only [mapM_eq_some_iff, parseBatchEntry_iff]
  unfold parseRegisterBatchRequest
  constructor
  · intro h
    split at h
    · rename_i values hfind
      split at h
      · cases h
      · rename_i accepted haccepted
        split_ifs at h with hempty
        obtain rfl := Option.some.inj h
        refine ⟨values, hfind, ?_, (hentries values).mp haccepted⟩
        rintro rfl
        exact hempty (Option.some.inj haccepted).symm
    · cases h
  · rintro ⟨values, hfind, hne, hforall⟩
    have hnonempty : formIds ≠ [] := by
      rintro rfl
      exact hne (List.forall₂_nil_right_iff.mp hforall)
    rw [hfind]
    dsimp only
    rw [(hentries values).mpr hforall]
    exact if_neg hnonempty

/-- A batch with a number that wraps is decoded as intended only if it is refused. -/
theorem batchExact_iff (payload : Json) : BatchExact payload ↔ ¬ BatchWraps payload := by
  constructor
  · rintro hexact ⟨values, hfind, ⟨value, hmem, hwraps⟩, hall⟩
    have haccepted : ∀ value ∈ values, ∃ formId,
        parseFormIDFromJson value = some formId ∧ formId ≠ 0 := by
      intro value hvalue
      rcases hall value hvalue with ⟨formId, hdenotes, hne⟩ | ⟨n, rfl, -, hne⟩
      · exact ⟨formId, parse_of_denotes hdenotes, hne⟩
      · exact ⟨n.toUInt32, rfl, hne⟩
    obtain ⟨formIds, hforall⟩ := exists_forall₂_iff.mpr haccepted
    have hparsed := parseRegisterBatchRequest_iff.mpr
      ⟨values, hfind, List.ne_nil_of_mem hmem, hforall⟩
    obtain ⟨values', hfind', -, hdenotes⟩ := (hexact formIds).mp hparsed
    obtain rfl : values' = values := Json.array.inj (Option.some.inj (hfind'.symm.trans hfind))
    obtain ⟨formId, hvalue, -⟩ := exists_forall₂_iff.mp ⟨formIds, hdenotes⟩ value hmem
    exact not_wraps_of_denotes hvalue hwraps
  · intro hnone formIds
    rw [parseRegisterBatchRequest_iff]
    refine exists_congr fun values => and_congr_right fun hfind => and_congr_right fun _ => ?_
    constructor
    · intro hforall
      have haccepted := exists_forall₂_iff.mp ⟨formIds, hforall⟩
      -- nothing of an accepted batch wraps
      have hexact : ∀ value ∈ values, ¬ Wraps value := by
        intro value hmem hwraps
        refine hnone ⟨values, hfind, ⟨value, hmem, hwraps⟩, fun other hother => ?_⟩
        obtain ⟨formId, hparsed, hne⟩ := haccepted other hother
        by_cases hwrapsOther : Wraps other
        · obtain ⟨n, rfl, hle⟩ := hwrapsOther
          exact .inr ⟨n, rfl, hle, Option.some.inj hparsed ▸ hne⟩
        · exact .inl ⟨formId, ((exact_iff other).mpr hwrapsOther formId).mp hparsed, hne⟩
      refine ((List.forall₂_and_left _ _).mpr ⟨hexact, hforall⟩).imp ?_
      rintro value formId ⟨hvalue, hparsed, hne⟩
      exact ⟨((exact_iff value).mpr hvalue formId).mp hparsed, hne⟩
    · intro hforall
      exact hforall.imp fun _ _ h => ⟨parse_of_denotes h.1, h.2⟩

end Batch

/-! ## Both requests -/

/-- The two decoders agree on every value, and are exact on every value but numbers
without a sign from 2³² on.  A batch is decoded exactly unless it has such a number, and
nothing else in it, nor a low half of zero, gets it refused. -/
theorem formIds_exact_iff (value payload : Json) :
    (Exact parseFormIDFromJson value ↔ ¬ Wraps value) ∧
      (Exact parseBatchFormId value ↔ ¬ Wraps value) ∧
      parseBatchFormId value = parseFormIDFromJson value ∧
      (BatchExact payload ↔ ¬ BatchWraps payload) := by
  have hsame : parseBatchFormId = parseFormIDFromJson := funext parseBatchFormId_eq
  refine ⟨exact_iff value, ?_, parseBatchFormId_eq value, batchExact_iff payload⟩
  rw [hsame]
  exact exact_iff value

/-- 2³² + 1 is taken for the form id 1. -/
theorem not_formIds_exact : ¬ ((∀ value, Exact parseFormIDFromJson value) ∧
    (∀ value, Exact parseBatchFormId value) ∧ ∀ payload, BatchExact payload) := by
  rintro ⟨hsingle, -, -⟩
  have hlt := (exact_unsigned_iff 4294967297).mp (hsingle (.numberUnsigned 4294967297))
  exact absurd hlt (by decide)

end CodexOfPower.PrismaUIManager
