/-
# `CodexOfPower.SerializationSafety` — the reader agrees with the grammar

For every record, whatever its type, version, length and contents, the reader of
`CodexOfPower.SerializationLoad` succeeds exactly where the grammar of
`CodexOfPower.SerializationDecode` does, with the same snapshot; and on the way no
counter of remaining bytes goes below zero and no more bytes are handed out than
the record has.  `load` is therefore all or nothing.

The reader keeps a counter where the grammar has the bytes themselves, so every
lemma below carries the same hypothesis: the counter is the number of unread bytes.

## What is not said

Which snapshot a record should give is the grammar, and is taken from the same source: that
writer and grammar fit is `CodexOfPower.SavedRecords`.  Memory is not counted.
-/
import CodexOfPower.SerializationLoad
import CodexOfPower.SerializationDecode

namespace CodexOfPower.Serialization

open RE Builds Registration SerializationStateStore

variable {γ δ : Type} {c : Cursor} {S : γ → δ → Bytes → Prop}

/-! ## Counters and counted loops -/

theorem agrees_readCount {length : UInt32} {error : String} {f : UInt32 → ReadM γ}
    {q : UInt32 → Parser δ} (h : length.toNat = c.unread.length)
    (hf : ∀ a c', c'.unread.length + 4 = c.unread.length → Agrees c' (f a c') (q a c'.unread) S) :
    Agrees c ((readCount length error >>= f) c) ((Parser.value UInt32 >>= q) c.unread) S := by
  unfold readCount
  by_cases hlen : length < 4
  · rw [if_pos hlen]
    have hshort : c.unread.length < sizeof UInt32 := h ▸ UInt32.lt_iff_toNat_lt.mp hlen
    have hnone : (Parser.value UInt32 >>= q) c.unread = none := by
      show (Parser.value UInt32 c.unread).bind _ = none
      rw [Parser.value_of_short hshort, Option.bind_none]
    exact ⟨hnone, .refl c⟩
  · rw [if_neg hlen]
    exact .read 4 hf

theorem agrees_skipRemaining {remaining : UInt32} (h : remaining.toNat = c.unread.length) :
    Agrees c (skipRemaining remaining c) (Parser.ignoreRest c.unread) fun _ _ _ => True := by
  unfold skipRemaining
  by_cases hpos : 0 < remaining
  · rw [if_pos hpos]
    exact agrees_skip_rest h
  · rw [if_neg hpos]
    have hzero : remaining.toNat = 0 := by
      by_contra hne
      exact hpos (UInt32.lt_iff_toNat_lt.mpr (Nat.pos_of_ne_zero hne))
    have hnil : c.unread = [] := List.eq_nil_of_length_eq_zero (by omega)
    refine ⟨(), ?_, .refl c, trivial⟩
    rw [hnil]
    rfl

/-- The end of a record: skip what is left and return. -/
theorem agrees_finish {remaining : UInt32} {s : γ} {t : δ} (h : remaining.toNat = c.unread.length)
    (hst : ∀ rest, S s t rest) :
    Agrees c ((do skipRemaining remaining; pure s : ReadM γ) c)
      ((do Parser.ignoreRest; pure t : Parser δ) c.unread) S :=
  (agrees_skipRemaining h).bind fun _ _ c' _ _ => .pure (hst c'.unread)

/-- A record of a version the reader does not know. -/
theorem agrees_ignore {length : UInt32} {s : γ} {t : δ} (h : length.toNat = c.unread.length)
    (hst : ∀ rest, S s t rest) :
    Agrees c ((do skip length; pure s : ReadM γ) c)
      ((do Parser.ignoreRest; pure t : Parser δ) c.unread) S :=
  (agrees_skip_rest h).bind fun _ _ c' _ _ => .pure (hst c'.unread)

/-- A counter of unread bytes, with a value. -/
def Carries {σ : Type} (s : UInt32 × σ) (value : σ) (rest : Bytes) : Prop :=
  s.1.toNat = rest.length ∧ s.2 = value

/-- The body of a loop reads one entry; `build` says what it makes of the entries. -/
def ReadsEntry {σ β : Type} (body : Nat → UInt32 × σ → ReadM (UInt32 × σ)) (p : Parser β)
    (build : List β → σ) : Prop :=
  ∀ s done c, Carries s (build done) c.unread →
    Agrees c (body done.length s c) (p c.unread)
      fun s' x rest => Carries s' (build (done ++ [x])) rest

/-- A loop over as many entries as the count asks for and the record holds. -/
theorem agrees_forCount {σ β : Type} {body : Nat → UInt32 × σ → ReadM (UInt32 × σ)}
    {p : Parser β} {build : List β → σ} {size : UInt32} (hpos : 0 < size.toNat)
    (hp : p.FixedSize size.toNat)
    (hbody : ReadsEntry body p build)
    (count : UInt32) {remaining : UInt32} (h : remaining.toNat = c.unread.length) :
    Agrees c (forCount (min count (remaining / size)) body (remaining, build []) c)
      (Parser.upTo size.toNat p count.toNat c.unread)
      fun s xs rest => Carries s (build xs) rest := by
  have hcount : (min count (remaining / size)).toNat
      = min count.toNat (c.unread.length / size.toNat) := by
    rw [toNat_min, UInt32.toNat_div, h]
  rw [← Parser.upTo_clip hpos hp, ← hcount]
  exact agrees_forWhile (I := fun s xs rest => Carries s (build xs) rest)
    (fun _ _ rest _ => (decide_eq_true (Nat.zero_le rest.length)).symm)
    (fun s done c hs _ => hbody s done c hs) _ ⟨h, rfl⟩

/-! ## Entries -/

theorem resolveKeys_append {ν : Type} (resolveFormID : FormIDResolver)
    (l l' : List (FormID × ν)) :
    resolveKeys resolveFormID (l ++ l') =
      resolveKeys resolveFormID l ++ resolveKeys resolveFormID l' :=
  List.filterMap_append

/-- Emplacing one more entry under its resolved key, if it has one. -/
theorem emplaceAll_resolveKeys_snoc {ν : Type} (resolveFormID : FormIDResolver)
    (done : List (FormID × ν)) (oldId : FormID) (v : ν) (m : UnorderedMap FormID ν) :
    m.emplaceAll (resolveKeys resolveFormID (done ++ [(oldId, v)])) =
      match resolveFormID oldId with
      | none => m.emplaceAll (resolveKeys resolveFormID done)
      | some newId => (m.emplaceAll (resolveKeys resolveFormID done)).emplace newId v := by
  rw [resolveKeys_append, UnorderedMap.emplaceAll_append]
  cases h : resolveFormID oldId with
  | none => simp [resolveKeys, h, UnorderedMap.emplaceAll]
  | some newId => simp [resolveKeys, h, UnorderedMap.emplaceAll]

section Entries

variable (resolveFormID : FormIDResolver)

theorem readsEntry_registeredV1 (m : UnorderedMap FormID UInt32) :
    ReadsEntry (readRegisteredV1Entry resolveFormID) (registeredEntryParser 1)
      fun done => m.emplaceAll (resolveKeys resolveFormID done) := by
  rintro ⟨remaining, items⟩ done c ⟨hr, rfl⟩
  refine .read 4 fun oldId c₁ h₁ => .count (by rw [hr, ← h₁]; rfl) fun r hr₁ => ?_
  have hbuild := emplaceAll_resolveKeys_snoc resolveFormID done oldId kGroupUnknown m
  cases hres : resolveFormID oldId with
  | none =>
    rw [hres] at hbuild
    exact .pure ⟨hr₁, hbuild.symm⟩
  | some newId =>
    rw [hres] at hbuild
    exact .pure ⟨hr₁, hbuild.symm⟩

theorem readsEntry_registeredV2 (m : UnorderedMap FormID UInt32) {version : UInt32}
    (hv : version ≠ 1) :
    ReadsEntry (readRegisteredV2Entry resolveFormID) (registeredEntryParser version)
      fun done => m.emplaceAll (resolveKeys resolveFormID done) := by
  rintro ⟨remaining, items⟩ done c ⟨hr, rfl⟩
  rw [registeredEntryParser, if_neg hv]
  refine .read 4 fun oldId c₁ h₁ => .read 4 fun group c₂ h₂ =>
    .count (by rw [hr, ← h₁, ← h₂]; rfl) fun r hr₂ => ?_
  have hbuild := emplaceAll_resolveKeys_snoc resolveFormID done oldId group m
  cases hres : resolveFormID oldId with
  | none =>
    rw [hres] at hbuild
    exact .pure ⟨hr₂, hbuild.symm⟩
  | some newId =>
    rw [hres] at hbuild
    exact .pure ⟨hr₂, hbuild.symm⟩

theorem readsEntry_formId (m : UnorderedSet FormID) :
    ReadsEntry (readFormIdEntry resolveFormID) (Parser.value FormID)
      (addFormIds resolveFormID m) := by
  rintro ⟨remaining, formIds⟩ done c ⟨hr, rfl⟩
  have hvalue : Parser.value FormID = Parser.value FormID >>= fun x => pure x :=
    (bind_pure _).symm
  rw [hvalue]
  refine .read 4 fun oldId c₁ h₁ => .count (by rw [hr, ← h₁]; rfl) fun r hr₁ => ?_
  cases hres : resolveFormID oldId with
  | none => exact .pure ⟨hr₁, by simp [addFormIds, hres]⟩
  | some newId =>
    refine .pure ⟨hr₁, ?_⟩
    simp [addFormIds, hres, UnorderedMap.emplaceAll]

end Entries

theorem readsEntry_total (supported : UInt32 → Bool) (error : String)
    (m : UnorderedMap ActorValue Float32) :
    ReadsEntry (readTotalEntry supported error) totalParser
      fun done => m.insertAll (keptTotals supported done) := by
  rintro ⟨remaining, totals⟩ done c ⟨hr, rfl⟩
  refine .read 4 fun av c₁ h₁ => .read 4 fun total c₂ h₂ =>
    .count (by rw [hr, ← h₁, ← h₂]; rfl) fun r hr₂ => ?_
  cases hsup : supported av with
  | false =>
    refine .pure ⟨hr₂, ?_⟩
    simp [keptTotals, List.filter_append, hsup]
  | true =>
    refine .pure ⟨hr₂, ?_⟩
    simp [keptTotals, List.filter_append, hsup, UnorderedMap.insertAll]

theorem four_pos : 0 < (4 : UInt32).toNat := by decide

theorem eight_pos : 0 < (8 : UInt32).toNat := by decide

theorem fixedSize_registeredEntry (version : UInt32) :
    (registeredEntryParser version).FixedSize (registeredEntrySize version) := by
  unfold registeredEntryParser registeredEntrySize
  split_ifs with h
  · exact .value fun _ => .pure _
  · exact .value fun _ => .value fun _ => .pure _

theorem fixedSize_formId : (Parser.value FormID).FixedSize 4 := fun _ h => ⟨_, if_pos h⟩

theorem fixedSize_total : totalParser.FixedSize 8 := .value fun _ => .value fun _ => .pure _

theorem fixedSize_rewardDelta : rewardDeltaParser.FixedSize 8 :=
  .value fun _ => .value fun _ => .pure _

/-! ## Records -/

/-- A record that is a list: its count, its entries, and nothing else that counts. -/
theorem agrees_listRecord {σ β τ : Type} {body : Nat → UInt32 × σ → ReadM (UInt32 × σ)}
    {p : Parser β} {build : List β → σ} {size : UInt32} (hpos : 0 < size.toNat)
    (hp : p.FixedSize size.toNat)
    (hbody : ReadsEntry body p build)
    (result : σ → τ) {length : UInt32} {error : String} (h : length.toNat = c.unread.length) :
    Agrees c ((do
        let count ← readCount length error
        let remaining ← subRemaining length 4
        let (remaining, value) ← forCount (min count (remaining / size)) body (remaining, build [])
        skipRemaining remaining
        pure (result value) : ReadM τ) c)
      ((do
        let entries ← listParser size.toNat p
        pure (result (build entries)) : Parser τ) c.unread) fun a b _ => a = b := by
  unfold listParser
  simp only [bind_assoc, pure_bind]
  refine agrees_readCount h fun count c₁ h₁ => .count (by rw [h, ← h₁]; rfl) fun r hr => ?_
  refine (agrees_forCount hpos hp hbody count hr).bind fun s entries c₂ _ hs => ?_
  obtain ⟨remaining, value⟩ := s
  obtain ⟨hr₂, rfl⟩ := hs
  exact agrees_finish hr₂ fun _ => rfl

/-- A record's cursor after reading: no counter underflowed, and the bytes handed out
and the bytes left make up the record. -/
structure ReadSafely (record : Record) (cursor : Cursor) : Prop where
  underflow : cursor.underflow = false
  total : cursor.consumed + cursor.unread.length = record.length.toNat

theorem readSafely_of_leads {record : Record} {cursor : Cursor}
    (h : Cursor.Leads record.start cursor) : ReadSafely record cursor :=
  ⟨h.underflow, h.total.trans ((Nat.zero_add _).trans record.wellSized)⟩

section Records

variable (resolveFormID : FormIDResolver) (loaded : Snapshot Float32) (c : Cursor)

theorem agrees_registeredItems (version length : UInt32) (h : length.toNat = c.unread.length) :
    Agrees c (loadRegisteredItems resolveFormID version length loaded c)
      (decodeRegisteredItems resolveFormID version loaded c.unread) fun a b _ => a = b := by
  have hfix := fixedSize_registeredEntry version
  unfold loadRegisteredItems decodeRegisteredItems
  by_cases h1 : version = 1
  · subst h1
    exact agrees_listRecord four_pos hfix (readsEntry_registeredV1 resolveFormID _)
      (fun items => { loaded with registeredItems := items }) h
  · by_cases h2 : version = 2
    · subst h2
      exact agrees_listRecord eight_pos hfix (readsEntry_registeredV2 resolveFormID _ h1)
        (fun items => { loaded with registeredItems := items }) h
    · rw [if_neg (by tauto)]
      simp only [if_neg h1, if_neg h2, bind_assoc, pure_bind]
      refine agrees_readCount h fun count c₁ h₁ => .count (by rw [h, ← h₁]; rfl) fun r hr => ?_
      exact agrees_finish hr fun _ => rfl

theorem agrees_formIdList (type length : UInt32) (h : length.toNat = c.unread.length) :
    Agrees c (loadFormIdList resolveFormID type length loaded c)
      (decodeFormIdList resolveFormID type loaded c.unread) fun a b _ => a = b := by
  unfold loadFormIdList decodeFormIdList
  by_cases ht : type = kRecordBlockedItems
  · simp only [if_pos ht]
    exact agrees_listRecord four_pos fixedSize_formId (readsEntry_formId resolveFormID _)
      (fun formIds => { loaded with blockedItems := formIds }) h
  · simp only [if_neg ht]
    exact agrees_listRecord four_pos fixedSize_formId (readsEntry_formId resolveFormID _)
      (fun formIds => { loaded with notifiedItems := formIds }) h

theorem agrees_buildAppliedEffects (version length : UInt32) (h : length.toNat = c.unread.length) :
    Agrees c (loadBuildAppliedEffects version length loaded c)
      (decodeBuildAppliedEffects version loaded c.unread) fun a b _ => a = b := by
  unfold loadBuildAppliedEffects decodeBuildAppliedEffects
  by_cases hv : version ≠ 1
  · rw [if_pos hv, if_pos hv]
    exact agrees_ignore h fun _ => rfl
  · rw [if_neg hv, if_neg hv]
    exact agrees_listRecord eight_pos fixedSize_total (readsEntry_total _ _ _)
      (fun totals => { loaded with buildAppliedEffectTotals := totals }) h

theorem agrees_buildScores (version length : UInt32) (h : length.toNat = c.unread.length) :
    Agrees c (loadBuildScores version length loaded c)
      (decodeBuildScores version loaded c.unread) fun a b _ => a = b := by
  unfold loadBuildScores decodeBuildScores
  by_cases hv : version ≠ 1 ∧ version ≠ 2
  · rw [if_pos hv, if_pos hv]
    exact agrees_ignore h fun _ => rfl
  rw [if_neg hv, if_neg hv]
  by_cases h2 : 2 ≤ version
  · simp only [if_pos h2]
    by_cases hlen : length < 12 + 12
    · rw [if_pos hlen]
      refine ⟨?_, .refl c⟩
      have hneeds : length.toNat < 24 := UInt32.lt_iff_toNat_lt.mp hlen
      exact Parser.Needs.value (n := 20)
        (fun _ => .value (n := 16) fun _ => .value (n := 12) fun _ =>
        .value (n := 8) fun _ => .value (n := 4) fun _ => .value (n := 0) fun _ => .zero _) _
        (h ▸ hneeds)
    · rw [if_neg hlen]
      refine .read 4 fun _ c₁ h₁ => .read 4 fun _ c₂ h₂ => .read 4 fun _ c₃ h₃ =>
        .read 4 fun _ c₄ h₄ => .read 4 fun _ c₅ h₅ => .read 4 fun _ c₆ h₆ => ?_
      exact .count (n := 24) (by rw [h]; show _ = _ + 24; omega) fun r hr =>
        agrees_finish hr fun _ => rfl
  · simp only [if_neg h2]
    by_cases hlen : length < 12 + 0
    · rw [if_pos hlen]
      refine ⟨?_, .refl c⟩
      have hneeds : length.toNat < 12 := UInt32.lt_iff_toNat_lt.mp hlen
      exact Parser.Needs.value (n := 8) (fun _ => .value (n := 4) fun _ => .value (n := 0) fun _ =>
        .zero _) _ (h ▸ hneeds)
    · rw [if_neg hlen]
      refine .read 4 fun _ c₁ h₁ => .read 4 fun _ c₂ h₂ => .read 4 fun _ c₃ h₃ => ?_
      exact .count (n := 12) (by rw [h]; show _ = _ + 12; omega) fun r hr =>
        agrees_finish hr fun _ => rfl

theorem agrees_buildMigration (version length : UInt32) (h : length.toNat = c.unread.length) :
    Agrees c (loadBuildMigration version length loaded c)
      (decodeBuildMigration version loaded c.unread) fun a b _ => a = b := by
  unfold loadBuildMigration decodeBuildMigration
  by_cases hv : version ≠ 1
  · rw [if_pos hv, if_pos hv]
    exact agrees_ignore h fun _ => rfl
  rw [if_neg hv, if_neg hv]
  by_cases hlen : length < 14
  · rw [if_pos hlen]
    refine ⟨?_, .refl c⟩
    have hneeds : length.toNat < 14 := UInt32.lt_iff_toNat_lt.mp hlen
    exact Parser.Needs.value (n := 10) (fun _ => .value (n := 6) fun _ => .value (n := 5) fun _ =>
      .value (n := 4) fun _ => .value (n := 0) fun _ => .zero _) _ (h ▸ hneeds)
  · rw [if_neg hlen]
    refine .read 4 fun _ c₁ h₁ => .read 4 fun _ c₂ h₂ => .read 1 fun _ c₃ h₃ =>
      .read 1 fun _ c₄ h₄ => .read 4 fun _ c₅ h₅ => ?_
    exact .count (n := 14) (by rw [h]; show _ = _ + 14; omega) fun r hr =>
      agrees_finish hr fun _ => rfl

/-! ### The slots -/

theorem agrees_readString (remaining : UInt32) (error : String)
    (h : remaining.toNat = c.unread.length) :
    Agrees c (readString remaining error c) (textParser c.unread) fun s value rest =>
      Carries s value rest := by
  unfold readString textParser
  refine agrees_readCount h fun length c₁ h₁ => .count (by rw [h, ← h₁]; rfl) fun r hr => ?_
  have hlength : r < length ↔ c₁.unread.length < length.toNat := by
    rw [UInt32.lt_iff_toNat_lt, hr]
  show Agrees c₁ _ ((Parser.take length.toNat c₁.unread).bind _) _
  unfold Parser.take
  by_cases hlt : r < length
  · rw [if_pos hlt, if_neg (Nat.not_le.mpr (hlength.mp hlt))]
    exact ⟨rfl, .refl c₁⟩
  · have hle : length.toNat ≤ c₁.unread.length := Nat.not_lt.mp fun hn => hlt (hlength.mpr hn)
    rw [if_neg hlt, if_pos hle, Option.bind_some]
    refine .of_leads (c₁.leads_advance length.toNat) ?_
    have htaken : (c₁.unread.take length.toNat).length = length.toNat := by
      rw [List.length_take, min_eq_left hle]
    show Agrees (c₁.advance length.toNat)
      ((if (c₁.unread.take length.toNat).length ≠ length.toNat then throw error
        else _ : ReadM (UInt32 × Text)) (c₁.advance length.toNat)) _ _
    rw [if_neg (not_not.mpr htaken)]
    have hleft : r.toNat = (c₁.advance length.toNat).unread.length + length.toNat := by
      rw [Cursor.advance_unread, List.length_drop, hr, Nat.sub_add_cancel hle]
    refine .count hleft fun r' hr' => .ok ⟨hr', ?_⟩
    by_cases hlong : kMaxSerializedBuildSlotStringLength < length
    · exact if_pos hlong
    · refine (if_neg hlong).trans (List.take_of_length_le ?_).symm
      rw [htaken]
      exact UInt32.le_iff_toNat_le.mp (UInt32.not_lt.mp hlong)

theorem getInitialBuildSlotLayout_toIndex (slotId : BuildSlotId) :
    getInitialBuildSlotLayout[slotId.toIndex]? = some slotId := by
  cases slotId <;> rfl

theorem toIndex_of_getInitialBuildSlotLayout {i : Nat} {slotId : BuildSlotId}
    (h : getInitialBuildSlotLayout[i]? = some slotId) : slotId.toIndex = i := by
  have hi : i < getInitialBuildSlotLayout.length := (List.getElem?_eq_some_iff.mp h).1
  have hnodup : getInitialBuildSlotLayout.Nodup := by decide
  exact ((List.getElem?_inj hi hnodup).mp
    (h.trans (getInitialBuildSlotLayout_toIndex slotId).symm)).symm

/-- Assigning slot number `n` after the first `n` texts is having one text more. -/
theorem assignSlot_slotsOfTexts (texts : List Text) (text : Text) :
    assignSlot (slotsOfTexts texts) texts.length text = slotsOfTexts (texts ++ [text]) := by
  have hother : ∀ id : BuildSlotId, id.toIndex ≠ texts.length →
      slotsOfTexts texts id = slotsOfTexts (texts ++ [text]) id := by
    intro id hne
    unfold slotsOfTexts
    rcases Nat.lt_or_gt_of_ne hne with hlt | hgt
    · rw [List.getElem?_append_left hlt]
    · rw [List.getElem?_eq_none (Nat.le_of_lt hgt),
        List.getElem?_eq_none (by rw [List.length_append]; exact hgt)]
  funext id
  unfold assignSlot
  cases hslot : getInitialBuildSlotLayout[texts.length]? with
  | none =>
    refine hother id fun heq => ?_
    rw [← heq, getInitialBuildSlotLayout_toIndex] at hslot
    cases hslot
  | some slotId =>
    have hindex := toIndex_of_getInitialBuildSlotLayout hslot
    by_cases hid : id = slotId
    · subst hid
      refine (ActiveBuildSlots.set_self _ _ _).trans ?_
      rw [slotsOfTexts, hindex, List.getElem?_concat_length]
      rfl
    · refine (ActiveBuildSlots.set_of_ne _ hid _).trans (hother id fun heq => hid ?_)
      have hslot' := getInitialBuildSlotLayout_toIndex id
      rw [heq, hslot] at hslot'
      exact (Option.some.inj hslot').symm

theorem readsEntry_slot : ReadsEntry readSlotEntry textParser slotsOfTexts := by
  rintro ⟨remaining, slots⟩ texts c ⟨hr, rfl⟩
  rw [← bind_pure textParser]
  refine (agrees_readString c remaining _ hr).bind fun s text c' _ hs => ?_
  obtain ⟨remaining', value⟩ := s
  obtain ⟨hr', rfl⟩ := hs
  exact .pure ⟨hr', assignSlot_slotsOfTexts texts value⟩

theorem agrees_buildSlots (version length : UInt32) (h : length.toNat = c.unread.length) :
    Agrees c (loadBuildSlots version length loaded c)
      (decodeBuildSlots version loaded c.unread) fun a b _ => a = b := by
  unfold loadBuildSlots decodeBuildSlots listParser
  by_cases hv : version ≠ 1
  · rw [if_pos hv, if_pos hv]
    exact agrees_ignore h fun _ => rfl
  rw [if_neg hv, if_neg hv]
  simp only [bind_assoc, pure_bind]
  refine agrees_readCount h fun count c₁ h₁ => .count (by rw [h, ← h₁]; rfl) fun r hr => ?_
  -- the loop looks at its counter before each text, the grammar at the bytes
  have hcond : ∀ (s : UInt32 × ActiveBuildSlots) (texts : List Text) (rest : Bytes),
      Carries s (slotsOfTexts texts) rest → decide (0 < s.1) = decide (1 ≤ rest.length) := by
    intro s texts rest hs
    exact decide_eq_decide.mpr (UInt32.lt_iff_toNat_lt.trans (by rw [hs.1]; rfl))
  refine (agrees_forWhile hcond (fun s texts c hs _ => readsEntry_slot s texts c hs)
    count.toNat ⟨hr, rfl⟩).bind fun s texts c₂ _ hs => ?_
  obtain ⟨remaining, slots⟩ := s
  obtain ⟨hr₂, rfl⟩ := hs
  exact agrees_finish hr₂ fun _ => rfl

/-! ### The reward totals -/

theorem agrees_rewards (length : UInt32) (h : length.toNat = c.unread.length) :
    Agrees c (loadRewards length loaded c) (decodeRewards loaded c.unread) fun a b _ => a = b := by
  unfold loadRewards decodeRewards
  refine agrees_readCount h fun count c₁ h₁ => .count (by rw [h, ← h₁]; rfl) fun r hr => ?_
  -- the two clippings commute
  have hclip : min (min count (r / 8)) kMaxSerializedRewardEntries
      = min (min count kMaxSerializedRewardEntries) (r / 8) := by
    rw [← UInt32.toNat_inj]
    simp only [toNat_min]
    omega
  dsimp only
  have hloop := (agrees_forCount eight_pos fixedSize_total
    (readsEntry_total isSupportedRewardActorValue "Failed to read reward entry"
      loaded.rewardTotals) (min count kMaxSerializedRewardEntries) hr).and_spec
  rw [← hclip] at hloop
  refine hloop.bind fun s entries c₂ _ hs => ?_
  obtain ⟨remaining, totals⟩ := s
  obtain ⟨⟨hr₂, rfl⟩, hspec⟩ := hs
  obtain ⟨hcount, hrest⟩ := Parser.upTo_length eight_pos fixedSize_total hspec
  -- what was clipped away still fits into what is left
  have hread : (min (min count (r / 8)) kMaxSerializedRewardEntries).toNat = entries.length := by
    rw [hclip, toNat_min, UInt32.toNat_div, hr, hcount]
  have hle : min (min count (r / 8)) kMaxSerializedRewardEntries ≤ min count (r / 8) :=
    min_le_toNat _ _
  refine .sub hle ?_
  generalize hskipped : min count (r / 8) - min (min count (r / 8)) kMaxSerializedRewardEntries
    = skippedEntries
  have hfits : skippedEntries.toNat * 8 ≤ c₂.unread.length := by
    rw [← hskipped, UInt32.toNat_sub_of_le _ _ hle, hread, toNat_min, UInt32.toNat_div, hr]
    have h8 : (8 : UInt32).toNat = 8 := rfl
    rw [h8] at hrest ⊢
    omega
  by_cases hpos : 0 < skippedEntries
  · simp only [if_pos hpos, bind_assoc]
    have hbytes : (skippedEntries * 8).toNat = skippedEntries.toNat * 8 := by
      rw [UInt32.toNat_mul]
      refine Nat.mod_eq_of_lt ?_
      have := r.toNat_lt
      show skippedEntries.toNat * 8 < 2 ^ 32
      omega
    refine .skip (.count ?_ fun r' hr' => agrees_finish hr' fun _ => rfl)
    rw [Cursor.advance_unread, List.length_drop, hbytes, Nat.sub_add_cancel hfits]
    exact hr₂
  · simp only [if_neg hpos, pure_bind]
    exact agrees_finish hr₂ fun _ => rfl

/-! ### The undo history -/

theorem toNat_undoHeaderSize (version : UInt32) :
    (undoHeaderSize version).toNat = undoEntryLeast version := by
  unfold undoHeaderSize undoEntryLeast
  by_cases hlt : version < 3
  · rw [if_neg (UInt32.not_le.mpr hlt), if_pos hlt]
    rfl
  · rw [if_pos (UInt32.not_lt.mp hlt), if_neg hlt]
    by_cases h3 : version = 3
    · rw [if_pos h3, if_pos h3]
      rfl
    · rw [if_neg h3, if_neg h3]
      rfl

theorem agrees_contribution (version remaining : UInt32) (h : remaining.toNat = c.unread.length) :
    Agrees c (readUndoContribution version remaining c) (contributionParser version c.unread)
      fun s value rest => Carries s value rest := by
  unfold readUndoContribution contributionParser
  by_cases h3 : 3 ≤ version
  · rw [if_pos h3, if_pos h3]
    refine .read 4 fun present c₁ h₁ => .read 4 fun discipline c₂ h₂ =>
      .read 4 fun recordDelta c₃ h₃ => .count (n := 12) (by rw [h]; show _ = _ + 12; omega)
        fun r hr => ?_
    have hstored : Agrees c₃
        ((if 4 ≤ version then do
            let points ← readRecordData Int32 "Failed to read undo build point delta"
            let remaining ← subRemaining r 4
            pure (remaining, points)
          else pure (r, (0 : Int32)) : ReadM (UInt32 × Int32)) c₃)
        ((if 4 ≤ version then Parser.value Int32 else pure 0 : Parser Int32) c₃.unread)
        fun s value rest => Carries s value rest := by
      by_cases h4 : 4 ≤ version
      · rw [if_pos h4, if_pos h4, ← bind_pure (Parser.value Int32)]
        exact .read 4 fun points c₄ h₄ => .count (by rw [hr, ← h₄]; rfl) fun r' hr' =>
          .pure ⟨hr', rfl⟩
      · rw [if_neg h4, if_neg h4]
        exact .pure ⟨hr, rfl⟩
    refine hstored.bind fun s storedPoints c₄ _ hs => ?_
    obtain ⟨r', points⟩ := s
    obtain ⟨hr', rfl⟩ := hs
    by_cases hpresent : present ≠ 0
    · simp only [if_pos hpresent]
      exact .pure ⟨hr', rfl⟩
    · simp only [if_neg hpresent]
      exact .pure ⟨hr', rfl⟩
  · rw [if_neg h3, if_neg h3]
    exact .pure ⟨h, rfl⟩

theorem readsEntry_rewardDelta :
    ReadsEntry readUndoRewardDelta rewardDeltaParser keptRewardDeltas := by
  rintro ⟨remaining, deltas⟩ done c ⟨hr, rfl⟩
  refine .read 4 fun av c₁ h₁ => .read 4 fun delta c₂ h₂ =>
    .count (by rw [hr, ← h₁, ← h₂]; rfl) fun r hr₂ => ?_
  by_cases hmany : kMaxSerializedUndoRewardDeltas.toNat ≤ done.length
  · rw [if_pos hmany]
    refine .pure ⟨hr₂, ?_⟩
    unfold keptRewardDeltas
    rw [List.take_append_of_le_length hmany]
  · rw [if_neg hmany]
    have htake : ∀ x : RewardDelta Float32,
        keptRewardDeltas (done ++ [x]) = keptRewardDeltas done ++
          [x].filter fun entry => isSupportedRewardActorValue entry.av.raw := by
      intro x
      unfold keptRewardDeltas
      rw [List.take_of_length_le (by rw [List.length_append, List.length_singleton]; omega),
        List.take_of_length_le (by omega), List.filter_append]
    cases hsup : isSupportedRewardActorValue av with
    | false => exact .pure ⟨hr₂, by simp [htake, hsup]⟩
    | true => exact .pure ⟨hr₂, by simp [htake, hsup]⟩

theorem readsEntry_undo (version : UInt32) :
    ReadsEntry (readUndoEntry resolveFormID version) (undoEntryParser version)
      fun done => trimHistory (done.filterMap (resolveUndoRecord resolveFormID)) := by
  rintro ⟨remaining, history⟩ done c ⟨hr, rfl⟩
  refine .read 8 fun actionId c₁ h₁ => .read 4 fun formId c₂ h₂ => .read 4 fun regKey c₃ h₃ =>
    .read 4 fun group c₄ h₄ =>
      .count (n := 20) (by rw [hr]; show _ = _ + 20; omega) fun r₄ hr₄ => ?_
  refine (agrees_contribution c₄ version r₄ hr₄).bind fun s contribution c₅ _ hs => ?_
  obtain ⟨r₅, buildContribution⟩ := s
  obtain ⟨hr₅, rfl⟩ := hs
  refine .read 4 fun rewardCount c₆ h₆ => .count (by rw [hr₅, ← h₆]; rfl) fun r₆ hr₆ => ?_
  refine (agrees_forCount eight_pos fixedSize_rewardDelta readsEntry_rewardDelta
    rewardCount hr₆).bind fun s deltas c₇ _ hs => ?_
  obtain ⟨r₇, rewardDeltas⟩ := s
  obtain ⟨hr₇, rfl⟩ := hs
  dsimp only
  cases hkey : resolveFormID regKey with
  | none =>
    refine .pure ⟨hr₇, ?_⟩
    simp [resolveUndoRecord, hkey]
  | some newKey =>
    cases hform : resolveFormID formId with
    | none =>
      refine .pure ⟨hr₇, ?_⟩
      simp [resolveUndoRecord, hkey, hform]
    | some newForm =>
      refine .pure ⟨hr₇, ?_⟩
      simp [resolveUndoRecord, hkey, hform, trimHistory_append]

theorem nextActionIdAfter_eq (history : List (UndoRecord Float32)) (stored : UInt64) :
    nextActionIdAfter history stored = nextActionIdOf history stored := by
  unfold nextActionIdAfter nextActionIdOf
  cases history.getLast? <;> rfl

theorem agrees_undoHistory (version length : UInt32) (h : length.toNat = c.unread.length) :
    Agrees c (loadUndoHistory resolveFormID version length loaded c)
      (decodeUndoHistory resolveFormID version loaded c.unread) fun a b _ => a = b := by
  unfold loadUndoHistory decodeUndoHistory
  by_cases hlen : length < 12
  · rw [if_pos hlen]
    refine ⟨?_, .refl c⟩
    have hneeds : length.toNat < 12 := UInt32.lt_iff_toNat_lt.mp hlen
    exact Parser.Needs.value (n := 8) (fun _ => .value (n := 0) fun _ => .zero _) _ (h ▸ hneeds)
  rw [if_neg hlen]
  refine .read 4 fun count c₁ h₁ => .read 8 fun nextActionId c₂ h₂ =>
    .count (n := 12) (by rw [h]; show _ = _ + 12; omega) fun r hr => ?_
  have hcond : ∀ (s : UInt32 × List (UndoRecord Float32)) (done : List (UndoRecord Float32))
      (rest : Bytes),
      Carries s (trimHistory (done.filterMap (resolveUndoRecord resolveFormID))) rest →
        decide (undoHeaderSize version ≤ s.1) = decide (undoEntryLeast version ≤ rest.length) := by
    intro s done rest hs
    exact decide_eq_decide.mpr (UInt32.le_iff_toNat_le.trans
      (by rw [hs.1, toNat_undoHeaderSize]))
  refine (agrees_forWhile hcond
    (fun s done c hs _ => readsEntry_undo resolveFormID version s done c hs)
    count.toNat ⟨hr, rfl⟩).bind fun s entries c₃ _ hs => ?_
  obtain ⟨remaining, history⟩ := s
  obtain ⟨hr₃, rfl⟩ := hs
  refine agrees_finish hr₃ fun _ => ?_
  rw [nextActionIdAfter_eq]

/-! ## Every record, and the whole file -/

theorem agrees_loadRecord (type version length : UInt32) (h : length.toNat = c.unread.length) :
    Agrees c (loadRecord resolveFormID type version length loaded c)
      (recordParser resolveFormID type version loaded c.unread) fun a b _ => a = b := by
  unfold loadRecord recordParser
  split_ifs
  · exact agrees_registeredItems resolveFormID loaded c version length h
  · exact agrees_formIdList resolveFormID loaded c type length h
  · exact agrees_buildScores loaded c version length h
  · exact agrees_buildSlots loaded c version length h
  · exact agrees_buildMigration loaded c version length h
  · exact agrees_rewards loaded c length h
  · exact agrees_buildAppliedEffects loaded c version length h
  · exact agrees_undoHistory resolveFormID loaded c version length h
  · exact agrees_ignore h fun _ => rfl

/-- Reading all records is decoding them; each one opened was read safely, and they
were opened in order. -/
theorem loadRecords_eq (records : List Record) (loaded : Snapshot Float32) :
    (loadRecords resolveFormID records loaded).1 = decodeRecords resolveFormID records loaded ∧
      ((loadRecords resolveFormID records loaded).2.map Prod.fst <+: records) ∧
      ∀ entry ∈ (loadRecords resolveFormID records loaded).2, ReadSafely entry.1 entry.2 := by
  induction records generalizing loaded with
  | nil => exact ⟨rfl, List.prefix_refl _, fun _ h => absurd h List.not_mem_nil⟩
  | cons record records ih =>
    have hagrees := agrees_loadRecord resolveFormID loaded record.start record.type
      record.version record.length record.wellSized.symm
    unfold loadRecords decodeRecords decodeRecord
    cases hload : loadRecord resolveFormID record.type record.version record.length loaded
        record.start with
    | error message cursor =>
      rw [hload] at hagrees
      obtain ⟨hnone, hleads⟩ := hagrees
      refine ⟨?_, ?_, ?_⟩
      · rw [show recordParser resolveFormID record.type record.version loaded record.contents
          = none from hnone]
        rfl
      · exact List.prefix_append [record] records
      · intro entry hentry
        obtain rfl := List.mem_singleton.mp hentry
        exact readSafely_of_leads hleads
    | ok loaded' cursor =>
      rw [hload] at hagrees
      obtain ⟨decoded, hsome, hleads, rfl⟩ := hagrees
      obtain ⟨hstate, hprefix, hsafe⟩ := ih loaded'
      refine ⟨?_, ?_, ?_⟩
      · rw [show recordParser resolveFormID record.type record.version loaded record.contents
          = some (loaded', cursor.unread) from hsome]
        exact hstate
      · exact List.cons_prefix_cons.mpr ⟨rfl, hprefix⟩
      · intro entry hentry
        rcases List.mem_cons.mp hentry with rfl | hentry
        · exact readSafely_of_leads hleads
        · exact hsafe entry hentry

/-- What a load leaves behind, in terms of the grammar alone. -/
theorem load_state (lookupFormType : BuildProgression.FormTypeLookup) (records : List Record)
    (state : RuntimeState Float32) :
    (load resolveFormID lookupFormType records state).state =
      match decodeRecords resolveFormID records {} with
      | none => state
      | some decoded => BuildProgression.normalizeLoadedSnapshot lookupFormType none decoded := by
  rw [← (loadRecords_eq resolveFormID records {}).1]
  unfold load
  rcases loadRecords resolveFormID records {} with ⟨_ | loaded, cursors⟩ <;> rfl

theorem load_cursors (lookupFormType : BuildProgression.FormTypeLookup) (records : List Record)
    (state : RuntimeState Float32) :
    (load resolveFormID lookupFormType records state).cursors =
      (loadRecords resolveFormID records {}).2 := by
  unfold load
  rcases loadRecords resolveFormID records {} with ⟨_ | loaded, cursors⟩ <;> rfl

/-- A load of arbitrary records is safe and all or nothing.  Every loop of the
reader is bounded by a count or by the bytes left, so the function is total; no
counter of remaining bytes underflows in any record, no record gives more bytes
than it has, and the state afterwards is either the state before or the
normalised decoding of all records. -/
theorem load_safe_all_or_nothing (lookupFormType : BuildProgression.FormTypeLookup)
    (records : List Record) (state : RuntimeState Float32) :
    (∀ entry ∈ (load resolveFormID lookupFormType records state).cursors,
      entry.2.underflow = false ∧ entry.2.consumed ≤ entry.1.length.toNat) ∧
    (load resolveFormID lookupFormType records state).state =
      match decodeRecords resolveFormID records {} with
      | none => state
      | some decoded => BuildProgression.normalizeLoadedSnapshot lookupFormType none decoded := by
  refine ⟨fun entry hentry => ?_, load_state resolveFormID lookupFormType records state⟩
  rw [load_cursors] at hentry
  have hsafe := (loadRecords_eq resolveFormID records {}).2.2 entry hentry
  exact ⟨hsafe.underflow, by have := hsafe.total; omega⟩

end Records

end CodexOfPower.Serialization
