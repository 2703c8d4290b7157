/-
# `CodexOfPower.Lib.RecordReader` — reading a record, and what the reading means

A record is a typed, versioned chunk of at most `2³² − 1` bytes.  A program reads
it through a cursor: every call asks for some bytes and gets fewer than it asked
for only at the record's end.  Programs also keep a counter of the bytes they
believe are left, in unsigned arithmetic.

`ReadM` is the program's side: a state monad over the cursor that can fail with a
message.  Two ghost fields of the cursor record what a safety statement needs
and no program can see: how many bytes were handed out (`consumed`), and whether
a counter was ever taken below zero (`underflow`).

`Agrees` is the meaning of a read: run from a cursor, the program and a parser on
the unread bytes both succeed, with related results and the same bytes left, or
both fail; either way no counter underflowed and no byte was handed out twice.
It is closed under sequencing (`Agrees.bind`) and counted loops
(`agrees_forWhile`), so a program is compared with its grammar piece by piece.
-/
import CodexOfPower.Lib.Bytes

namespace CodexOfPower

/-- One chunk of a file: its announced length is the length of its contents. -/
structure Record where
  type : UInt32
  version : UInt32
  length : UInt32
  contents : Bytes
  wellSized : contents.length = length.toNat

/-- Where a program stands in a record. -/
structure Cursor where
  unread : Bytes
  /-- Ghost: bytes handed out so far. -/
  consumed : Nat := 0
  /-- Ghost: some counter of remaining bytes was taken below zero. -/
  underflow : Bool := false
deriving DecidableEq

def Record.start (r : Record) : Cursor := { unread := r.contents }

/-- A program that reads a record and may give up with a message. -/
abbrev ReadM := EStateM String Cursor

namespace Cursor

/-- The cursor after `n` bytes were asked for. -/
def advance (c : Cursor) (n : Nat) : Cursor :=
  { c with unread := c.unread.drop n, consumed := c.consumed + min n c.unread.length }

/-- `c'` was reached from `c` by reading alone. -/
structure Leads (c c' : Cursor) : Prop where
  underflow : c'.underflow = c.underflow
  total : c'.consumed + c'.unread.length = c.consumed + c.unread.length

variable {c c' c'' : Cursor}

theorem Leads.refl (c : Cursor) : Leads c c := ⟨rfl, rfl⟩

theorem Leads.trans (h : Leads c c') (h' : Leads c' c'') : Leads c c'' :=
  ⟨h'.underflow.trans h.underflow, h'.total.trans h.total⟩

theorem leads_advance (c : Cursor) (n : Nat) : Leads c (c.advance n) :=
  ⟨rfl, by simp only [advance, List.length_drop]; omega⟩

@[simp] theorem advance_unread (c : Cursor) (n : Nat) :
    (c.advance n).unread = c.unread.drop n := rfl

@[simp] theorem advance_underflow (c : Cursor) (n : Nat) :
    (c.advance n).underflow = c.underflow := rfl

theorem advance_advance (c : Cursor) (m n : Nat) :
    (c.advance m).advance n = c.advance (m + n) := by
  simp only [advance, List.drop_drop, List.length_drop, Cursor.mk.injEq, and_true, true_and]
  omega

/-- Asking for more than there is always asks for everything. -/
theorem advance_of_le {n : Nat} (h : c.unread.length ≤ n) :
    c.advance n = c.advance c.unread.length := by
  simp only [advance, List.drop_of_length_le h, List.drop_length, min_eq_right h, min_self]

theorem advance_of_nil (h : c.unread = []) (n : Nat) : c.advance n = c := by
  cases c
  simp_all [advance]

@[simp] theorem advance_zero (c : Cursor) : c.advance 0 = c := by
  cases c; simp [advance]

end Cursor

/-! ## What a program can do -/

/-- `ReadRecordData(buffer, n)`: up to `n` bytes, fewer only at the record's end. -/
def readRecordBytes (n : Nat) : ReadM Bytes := fun c => .ok (c.unread.take n) (c.advance n)

/-- `ReadRecordData(x) != sizeof(x)` is an error, with a message. -/
def readRecordData (α : Type) [TriviallyCopyable α] (error : String) : ReadM α := do
  let bytes ← readRecordBytes (sizeof α)
  if bytes.length ≠ sizeof α then throw error
  else pure (TriviallyCopyable.ofBytes bytes)

/-- `remaining -= n`, in 32 bits; the ghost flag notes a wrap. -/
def subRemaining (remaining n : UInt32) : ReadM UInt32 := fun c =>
  .ok (remaining - n) { c with underflow := c.underflow || remaining < n }

/-- A counted loop that may stop early: `for (i = 0; i < n && cond; ++i)`. -/
def forWhile {m : Type → Type} [Monad m] {σ : Type} (cond : σ → Bool) (body : Nat → σ → m σ) :
    Nat → Nat → σ → m σ
  | 0, _, s => pure s
  | n + 1, i, s => if cond s then do
      let s ← body i s
      forWhile cond body n (i + 1) s
    else pure s

theorem toNat_min (a b : UInt32) : (min a b).toNat = min a.toNat b.toNat := by
  show (if a ≤ b then a else b).toNat = _
  by_cases h : a ≤ b
  · rw [if_pos h, min_eq_left (UInt32.le_iff_toNat_le.mp h)]
  · rw [if_neg h, min_eq_right (by rw [UInt32.le_iff_toNat_le] at h; omega)]

theorem min_le_toNat (a b : UInt32) : min a b ≤ a := by
  rw [UInt32.le_iff_toNat_le, toNat_min]
  exact Nat.min_le_left _ _

/-- A read of at most `length` bytes returns a count that fits and does not exceed it. -/
theorem toNat_bytesRead {n length : UInt32} (data : Bytes) (h : n ≤ length) :
    (UInt32.ofNat (data.take n.toNat).length).toNat = min n.toNat data.length ∧
      UInt32.ofNat (data.take n.toNat).length ≤ length := by
  have hn := n.toNat_lt
  have hread : (UInt32.ofNat (data.take n.toNat).length).toNat = min n.toNat data.length := by
    rw [UInt32.toNat_ofNat', List.length_take]
    exact Nat.mod_eq_of_lt (by omega)
  refine ⟨hread, UInt32.le_iff_toNat_le.mpr ?_⟩
  have := UInt32.le_iff_toNat_le.mp h
  omega

/-- Skip bytes in chunks of 256, stopping when the record has no more. -/
def skipFrom (length : UInt32) (c : Cursor) : Cursor :=
  if 0 < length then
    let chunkSize := min length 256
    let bytesRead := UInt32.ofNat (c.unread.take chunkSize.toNat).length
    if _h : bytesRead = 0 then c.advance chunkSize.toNat
    else skipFrom (length - bytesRead)
      { c.advance chunkSize.toNat with
        underflow := c.underflow || length < bytesRead }
  else c
termination_by length.toNat
decreasing_by
  have hle := (toNat_bytesRead c.unread (min_le_toNat length 256)).2
  have hpos : (UInt32.ofNat (c.unread.take (min length 256).toNat).length).toNat ≠ 0 :=
    fun h0 => _h (UInt32.toNat_inj.mp h0)
  have hlt := UInt32.le_iff_toNat_le.mp hle
  rw [UInt32.toNat_sub_of_le _ _ hle]
  omega

def skip (length : UInt32) : ReadM Unit := fun c => .ok () (skipFrom length c)

/-- Skipping is advancing: its own counter never wraps. -/
theorem skipFrom_eq (length : UInt32) (c : Cursor) :
    skipFrom length c = c.advance length.toNat := by
  induction length, c using skipFrom.induct with
  | case1 length c hpos chunk read hread =>
    have hr := (toNat_bytesRead c.unread (min_le_toNat length 256)).1
    have hmin := toNat_min length 256
    have hlen : 0 < length.toNat := UInt32.lt_iff_toNat_lt.mp hpos
    have h0 : min (min length 256).toNat c.unread.length = 0 := by
      rw [← hr]; exact congrArg UInt32.toNat hread
    have hnil : c.unread = [] := List.eq_nil_of_length_eq_zero (by
      have : (256 : UInt32).toNat = 256 := rfl
      omega)
    rw [skipFrom, if_pos hpos, dif_pos hread, Cursor.advance_of_nil hnil,
      Cursor.advance_of_nil hnil]
  | case2 length c hpos chunk read hread ih =>
    obtain ⟨hr, hle⟩ := toNat_bytesRead c.unread (min_le_toNat length 256)
    rw [skipFrom, if_pos hpos, dif_neg hread]
    have hflag : (c.underflow || decide (length < read)) = c.underflow := by
      rw [decide_eq_false (UInt32.not_lt.mpr hle), Bool.or_false]
    rw [hflag] at ih
    rw [hflag, ih]
    show (c.advance chunk.toNat).advance _ = _
    have hle' := UInt32.le_iff_toNat_le.mp hle
    rw [Cursor.advance_advance, UInt32.toNat_sub_of_le _ _ hle]
    -- a short read means the record ended, and then every larger request is the same
    by_cases hshort : c.unread.length ≤ chunk.toNat
    · have hchunk : chunk.toNat ≤ length.toNat :=
        UInt32.le_iff_toNat_le.mp (min_le_toNat length 256)
      exact (Cursor.advance_of_le (by omega)).trans (Cursor.advance_of_le (by omega)).symm
    · have hread' : read.toNat = chunk.toNat := by
        rw [show read.toNat = min chunk.toNat c.unread.length from hr]; omega
      rw [show chunk.toNat + (length.toNat - read.toNat) = length.toNat by
        have : read.toNat ≤ length.toNat := hle'
        omega]
  | case3 length c hpos =>
    have h0 : length.toNat = 0 := by
      by_contra h
      exact hpos (UInt32.lt_iff_toNat_lt.mpr (Nat.pos_of_ne_zero h))
    rw [skipFrom, if_neg hpos, h0, Cursor.advance_zero]

/-! ## Agreement of a program with a parser -/

/-- The program succeeded exactly where the parser does, with related results and
the same bytes left; and it only ever read. -/
def Agrees {α β : Type} (c : Cursor) (result : EStateM.Result String Cursor α)
    (spec : Option (β × Bytes)) (R : α → β → Bytes → Prop) : Prop :=
  match result with
  | .ok a c' => ∃ b, spec = some (b, c'.unread) ∧ Cursor.Leads c c' ∧ R a b c'.unread
  | .error _ c' => spec = none ∧ Cursor.Leads c c'

section Agrees

variable {α β γ δ : Type} {c : Cursor} {R : α → β → Bytes → Prop} {S : γ → δ → Bytes → Prop}

theorem Agrees.ok {a : α} {b : β} (h : R a b c.unread) :
    Agrees c (.ok a c) (some (b, c.unread)) R :=
  ⟨b, rfl, .refl c, h⟩

theorem Agrees.pure {a : α} {b : β} (h : R a b c.unread) :
    Agrees c ((pure a : ReadM α) c) ((pure b : Parser β) c.unread) R :=
  .ok h

theorem Agrees.of_leads {c' : Cursor} {result : EStateM.Result String Cursor α}
    {spec : Option (β × Bytes)} (hl : Cursor.Leads c c') (h : Agrees c' result spec R) :
    Agrees c result spec R := by
  cases result with
  | ok a c'' =>
    obtain ⟨b, hs, hl', hr⟩ := h
    exact ⟨b, hs, hl.trans hl', hr⟩
  | error e c'' => exact ⟨h.1, hl.trans h.2⟩

/-- Sequencing: what follows agrees from wherever the first part left the cursor. -/
theorem Agrees.bind {m : ReadM α} {p : Parser β} {f : α → ReadM γ} {q : β → Parser δ}
    (hm : Agrees c (m c) (p c.unread) R)
    (hf : ∀ a b c', Cursor.Leads c c' → R a b c'.unread →
      Agrees c' (f a c') (q b c'.unread) S) :
    Agrees c ((m >>= f) c) ((p >>= q) c.unread) S := by
  show Agrees c (EStateM.bind m f c) ((p c.unread).bind fun x => q x.1 x.2) S
  unfold EStateM.bind
  cases hmc : m c with
  | ok a c' =>
    rw [hmc] at hm
    obtain ⟨b, hp, hl, hr⟩ := hm
    rw [hp]
    exact (hf a b c' hl hr).of_leads hl
  | error e c' =>
    rw [hmc] at hm
    rw [hm.1]
    exact ⟨rfl, hm.2⟩

/-- A counter that covers what is subtracted from it does not wrap. -/
theorem Agrees.sub {remaining n : UInt32} {f : UInt32 → ReadM γ} {spec : Option (δ × Bytes)}
    (h : n ≤ remaining) (hf : Agrees c (f (remaining - n) c) spec S) :
    Agrees c ((subRemaining remaining n >>= f) c) spec S := by
  have hflag : (c.underflow || decide (remaining < n)) = c.underflow := by
    rw [decide_eq_false (UInt32.not_lt.mpr h), Bool.or_false]
  show Agrees c (f (remaining - n) { c with underflow := c.underflow || remaining < n }) spec S
  rw [hflag]
  exact hf

/-- A counter of what is unread, and of `n` bytes just read, loses those bytes. -/
theorem Agrees.count {remaining n : UInt32} {f : UInt32 → ReadM γ} {spec : Option (δ × Bytes)}
    (h : remaining.toNat = c.unread.length + n.toNat)
    (hf : ∀ r : UInt32, r.toNat = c.unread.length → Agrees c (f r c) spec S) :
    Agrees c ((subRemaining remaining n >>= f) c) spec S := by
  have hle : n ≤ remaining := UInt32.le_iff_toNat_le.mpr (by omega)
  refine .sub hle (hf _ ?_)
  rw [UInt32.toNat_sub_of_le _ _ hle]
  omega

theorem agrees_readRecordData (α : Type) [TriviallyCopyable α] (error : String) (c : Cursor) :
    Agrees c (readRecordData α error c) (Parser.value α c.unread)
      fun a b rest => a = b ∧ rest.length + sizeof α = c.unread.length := by
  unfold readRecordData Parser.value
  show Agrees c ((if (c.unread.take (sizeof α)).length ≠ sizeof α then throw error
    else Pure.pure (TriviallyCopyable.ofBytes (c.unread.take (sizeof α))) : ReadM α)
      (c.advance (sizeof α))) _ _
  have hl := c.leads_advance (sizeof α)
  by_cases h : sizeof α ≤ c.unread.length
  · rw [if_neg (by rw [List.length_take, min_eq_left h]; simp), if_pos h]
    refine ⟨_, rfl, hl, rfl, ?_⟩
    rw [Cursor.advance_unread, List.length_drop]
    omega
  · rw [if_pos (by rw [List.length_take]; omega), if_neg h]
    exact ⟨rfl, hl⟩

theorem Agrees.read {α : Type} [TriviallyCopyable α] {error : String} {f : α → ReadM γ}
    {q : α → Parser δ} (n : Nat)
    (hf : ∀ a c', c'.unread.length + n = c.unread.length →
      Agrees c' (f a c') (q a c'.unread) S) (hn : sizeof α = n := by rfl) :
    Agrees c ((readRecordData α error >>= f) c) ((Parser.value α >>= q) c.unread) S :=
  (agrees_readRecordData α error c).bind fun a _ c' _ ⟨hab, h⟩ => hab ▸ hf a c' (hn ▸ h)

/-- Where a program agrees with a parser, what the parser returned is known. -/
theorem Agrees.and_spec {result : EStateM.Result String Cursor α} {spec : Option (β × Bytes)}
    (h : Agrees c result spec R) :
    Agrees c result spec fun a b rest => R a b rest ∧ spec = some (b, rest) := by
  cases result with
  | ok a c' =>
    obtain ⟨b, hs, hl, hr⟩ := h
    exact ⟨b, hs, hl, hr, hs⟩
  | error e c' => exact h

theorem Agrees.skip {n : UInt32} {f : Unit → ReadM γ} {spec : Option (δ × Bytes)}
    (h : Agrees (c.advance n.toNat) (f () (c.advance n.toNat)) spec S) :
    Agrees c ((CodexOfPower.skip n >>= f) c) spec S := by
  show Agrees c (f () (skipFrom n c)) spec S
  rw [skipFrom_eq]
  exact h.of_leads (c.leads_advance n.toNat)

/-- Skipping what is left is ignoring what is left. -/
theorem agrees_skip_rest {n : UInt32} (h : n.toNat = c.unread.length) :
    Agrees c (CodexOfPower.skip n c) (Parser.ignoreRest c.unread) fun _ _ _ => True := by
  have hnil : (c.advance n.toNat).unread = [] := by
    rw [Cursor.advance_unread, h, List.drop_length]
  refine ⟨(), ?_, ?_, trivial⟩
  · rw [skipFrom_eq, hnil]; rfl
  · rw [skipFrom_eq]; exact c.leads_advance n.toNat

/-- A value computed from the parsed one. -/
theorem Agrees.map {result : EStateM.Result String Cursor α} {q : Parser β} {g : β → δ}
    {S : α → δ → Bytes → Prop} (h : Agrees c result (q c.unread) R)
    (hR : ∀ a b rest, R a b rest → S a (g b) rest) :
    Agrees c result ((q >>= fun b => Pure.pure (g b)) c.unread) S := by
  show Agrees c result ((q c.unread).bind fun x => some (g x.1, x.2)) S
  cases result with
  | ok a c' =>
    obtain ⟨b, hs, hl, hr⟩ := h
    exact ⟨g b, by rw [hs]; rfl, hl, hR _ _ _ hr⟩
  | error e c' => exact ⟨by rw [h.1]; rfl, h.2⟩

end Agrees

/-- A counted loop agrees with repeated parsing when its body agrees with one
element.  `I` relates the loop's state to the elements parsed so far. -/
theorem agrees_forWhile_from {σ β : Type} {cond : σ → Bool} {body : Nat → σ → ReadM σ}
    {p : Parser β} {least : Nat} {I : σ → List β → Bytes → Prop}
    (hcond : ∀ s done rest, I s done rest → cond s = decide (least ≤ rest.length))
    (hbody : ∀ s done c, I s done c.unread → least ≤ c.unread.length →
      Agrees c (body done.length s c) (p c.unread) fun s' x rest => I s' (done ++ [x]) rest)
    (n : Nat) {s : σ} {done : List β} {c : Cursor} (h : I s done c.unread) :
    Agrees c (forWhile cond body n done.length s c) (Parser.upTo least p n c.unread)
      fun s' xs rest => I s' (done ++ xs) rest := by
  induction n generalizing s done c with
  | zero => exact .pure (by rwa [List.append_nil])
  | succ n ih =>
    show Agrees c ((if cond s then _ else _ : ReadM σ) c)
      ((if least ≤ c.unread.length then _ else _ : Parser (List β)) c.unread) _
    rw [hcond s done _ h]
    by_cases hlen : least ≤ c.unread.length
    · rw [decide_eq_true hlen, if_pos rfl, if_pos hlen]
      refine (hbody s done c h hlen).bind fun s' x c' _ hs' => ?_
      have hlen' : done.length + 1 = (done ++ [x]).length := by simp
      rw [hlen']
      refine (ih hs').map fun s'' xs rest hr => ?_
      rwa [List.append_assoc] at hr
    · rw [decide_eq_false hlen, if_neg hlen]
      exact .pure (by rwa [List.append_nil])

theorem agrees_forWhile {σ β : Type} {cond : σ → Bool} {body : Nat → σ → ReadM σ}
    {p : Parser β} {least : Nat} {I : σ → List β → Bytes → Prop}
    (hcond : ∀ s done rest, I s done rest → cond s = decide (least ≤ rest.length))
    (hbody : ∀ s done c, I s done c.unread → least ≤ c.unread.length →
      Agrees c (body done.length s c) (p c.unread) fun s' x rest => I s' (done ++ [x]) rest)
    (n : Nat) {s : σ} {c : Cursor} (h : I s [] c.unread) :
    Agrees c (forWhile cond body n 0 s c) (Parser.upTo least p n c.unread) I :=
  agrees_forWhile_from hcond hbody n h

end CodexOfPower
