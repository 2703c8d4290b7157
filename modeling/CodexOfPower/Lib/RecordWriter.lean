/-
# `CodexOfPower.Lib.RecordWriter` — writing records to a host

A host collects records: a program opens one, then appends bytes to it.  Any call
may be refused (a full disk, a closed stream), and the host refuses to let a
record grow to `2³²` bytes, the first length its header cannot hold.  `SaveM` is
a program that writes and gives up with a message at the first refusal.

`Emits m bytes` says what a successful run of `m` leaves behind: exactly `bytes`,
appended to the open record.  It is closed under sequencing and loops, so the
contents of a record are read off the program that writes it.
-/
import CodexOfPower.Lib.RecordReader

namespace CodexOfPower

structure WrittenRecord where
  type : UInt32
  version : UInt32
  contents : Bytes
  fits : contents.length < 2 ^ 32

def WrittenRecord.toRecord (r : WrittenRecord) : Record where
  type := r.type
  version := r.version
  length := UInt32.ofNat r.contents.length
  contents := r.contents
  wellSized := by rw [UInt32.toNat_ofNat', Nat.mod_eq_of_lt r.fits]

/-- The host: the records so far, newest first, and the calls it has answered. -/
structure Writer where
  records : List WrittenRecord := []
  calls : Nat := 0

/-- A program that writes records and may give up with a message. -/
abbrev SaveM := EStateM String Writer

section

-- whether the host accepts its `n`-th call
variable (accepts : Nat → Bool)

/-- `OpenRecord(type, version)`; a refusal is an error, with a message. -/
def openRecord (type version : UInt32) (error : String) : SaveM Unit := fun w =>
  let called := { w with calls := w.calls + 1 }
  if accepts w.calls then
    .ok () { called with records := ⟨type, version, [], by decide⟩ :: w.records }
  else .error error called

/-- `WriteRecordData(buffer, n)`; a refusal is an error, with a message. -/
def writeRecordBytes (bytes : Bytes) (error : String) : SaveM Unit := fun w =>
  let called := { w with calls := w.calls + 1 }
  match w.records with
  | [] => .error error called
  | r :: rs =>
    if h : (r.contents ++ bytes).length < 2 ^ 32 then
      if accepts w.calls then
        .ok () { called with records := ⟨r.type, r.version, r.contents ++ bytes, h⟩ :: rs }
      else .error error called
    else .error error called

def writeRecordData {α : Type} [TriviallyCopyable α] (x : α) (error : String) : SaveM Unit :=
  writeRecordBytes accepts (toBytes x) error

end

/-! ## What a successful run leaves behind -/

/-- A record with bytes appended to it, when it still fits. -/
def WrittenRecord.Extends (r : WrittenRecord) (bytes : Bytes) (r' : WrittenRecord) : Prop :=
  r'.type = r.type ∧ r'.version = r.version ∧ r'.contents = r.contents ++ bytes

/-- When `m` succeeds, it appended exactly `bytes` to the open record. -/
def Emits (m : SaveM Unit) (bytes : Bytes) : Prop :=
  ∀ w w', m w = .ok () w' → ∀ r rs, w.records = r :: rs →
    ∃ r', r.Extends bytes r' ∧ w'.records = r' :: rs

section Emits

variable {accepts : Nat → Bool} {m n : SaveM Unit} {a b : Bytes}

theorem Emits.pure : Emits (pure ()) [] := by
  intro w w' h r rs hr
  cases h
  exact ⟨r, ⟨rfl, rfl, (List.append_nil _).symm⟩, hr⟩

theorem Emits.seq (hm : Emits m a) (hn : Emits n b) : Emits (do m; n) (a ++ b) := by
  intro w w' h r rs hr
  change EStateM.bind m (fun _ => n) w = _ at h
  unfold EStateM.bind at h
  cases hmw : m w with
  | error e w₁ => rw [hmw] at h; cases h
  | ok u w₁ =>
    rw [hmw] at h
    obtain ⟨r₁, h₁, hr₁⟩ := hm w w₁ hmw r rs hr
    obtain ⟨r₂, h₂, hr₂⟩ := hn w₁ w' h r₁ rs hr₁
    refine ⟨r₂, ⟨h₂.1.trans h₁.1, h₂.2.1.trans h₁.2.1, ?_⟩, hr₂⟩
    rw [h₂.2.2, h₁.2.2, List.append_assoc]

theorem emits_writeRecordBytes (bytes : Bytes) (error : String) :
    Emits (writeRecordBytes accepts bytes error) bytes := by
  intro w w' h r rs hr
  unfold writeRecordBytes at h
  rw [hr] at h
  dsimp only at h
  split_ifs at h with hfits
  cases h
  exact ⟨⟨r.type, r.version, r.contents ++ bytes, hfits⟩, ⟨rfl, rfl, rfl⟩, rfl⟩

theorem emits_writeRecordData {α : Type} [TriviallyCopyable α] (x : α) (error : String) :
    Emits (writeRecordData accepts x error) (toBytes x) :=
  emits_writeRecordBytes (toBytes x) error

theorem Emits.forM {α : Type} {f : α → SaveM Unit} {encode : α → Bytes}
    (hf : ∀ x, Emits (f x) (encode x)) (xs : List α) :
    Emits (xs.forM f) (xs.flatMap encode) := by
  induction xs with
  | nil => exact .pure
  | cons x xs ih => exact (hf x).seq ih

/-- A program that, when it succeeds, adds one record to the host. -/
def Writes (m : SaveM Unit) (type version : UInt32) (bytes : Bytes) : Prop :=
  ∀ w w', m w = .ok () w' → ∃ r : WrittenRecord,
    r.type = type ∧ r.version = version ∧ r.contents = bytes ∧ w'.records = r :: w.records

theorem Emits.openRecord {type version : UInt32} {error : String} (hm : Emits m a) :
    Writes (do CodexOfPower.openRecord accepts type version error; m) type version a := by
  intro w w' h
  change EStateM.bind _ (fun _ => m) w = _ at h
  unfold EStateM.bind CodexOfPower.openRecord at h
  dsimp only at h
  by_cases hacc : accepts w.calls
  · rw [if_pos hacc] at h
    obtain ⟨r, hr, hrs⟩ := hm _ _ h _ _ rfl
    exact ⟨r, hr.1, hr.2.1, hr.2.2, hrs⟩
  · rw [if_neg hacc] at h
    cases h

end Emits

end CodexOfPower
