/-
# `CodexOfPower.Lib.UnorderedMap` — hash maps and hash sets by their content

A hash map is an association list with distinct keys (Mathlib's `AList`).  The
order of the list is the iteration order of one particular table; nothing a
program may rely on depends on it, so two maps are compared by `Same`: every
key looks up to the same value in both.

Three kinds of facts are here, and the developments above use no others:

  * what `emplace` (first value wins) and `insert` (last value wins) do to a
    lookup, and that reading a map's own pairs back rebuilds it;
  * sums over the entries, and how they move under an insertion and a removal
    — the accounting lemmas of every "total equals what is stored" invariant;
  * `Same` is an equivalence that all of the above respect.
-/
import Mathlib.Data.List.AList
import Mathlib.Data.Finmap
import Mathlib.Algebra.BigOperators.Group.List.Basic
import Mathlib.Algebra.GroupWithZero.Nat

namespace CodexOfPower

universe u v

/-- A hash map: distinct keys, in the iteration order of the table. -/
abbrev UnorderedMap (κ : Type u) (ν : Type v) := AList fun _ : κ => ν

/-- A hash set is a map that carries no values. -/
abbrev UnorderedSet (κ : Type u) := UnorderedMap κ Unit

namespace UnorderedMap

variable {κ : Type u} {ν : Type v}

/-! ## Operations -/

/-- Insert unless the key is already there. -/
def emplace [DecidableEq κ] (k : κ) (v : ν) (m : UnorderedMap κ ν) : UnorderedMap κ ν :=
  if k ∈ m then m else m.insert k v

def size (m : UnorderedMap κ ν) : Nat := m.entries.length

def toPairs (m : UnorderedMap κ ν) : List (κ × ν) := m.entries.map fun e => (e.1, e.2)

/-- Emplace every pair in turn. -/
def emplaceAll [DecidableEq κ] (l : List (κ × ν)) (m : UnorderedMap κ ν) : UnorderedMap κ ν :=
  l.foldl (fun m e => m.emplace e.1 e.2) m

/-- Insert or assign every pair in turn. -/
def insertAll [DecidableEq κ] (l : List (κ × ν)) (m : UnorderedMap κ ν) : UnorderedMap κ ν :=
  l.foldl (fun m e => m.insert e.1 e.2) m

/-- Two tables with the same content. -/
def Same [DecidableEq κ] (m m' : UnorderedMap κ ν) : Prop := ∀ k, m.lookup k = m'.lookup k

/-- The sum of a weight over the entries. -/
def sum (f : κ → ν → Nat) (m : UnorderedMap κ ν) : Nat :=
  (m.entries.map fun e => f e.1 e.2).sum

theorem length_toPairs (m : UnorderedMap κ ν) : m.toPairs.length = m.size :=
  List.length_map _

theorem nodup_fst_toPairs (m : UnorderedMap κ ν) : (m.toPairs.map Prod.fst).Nodup := by
  have h : m.toPairs.map Prod.fst = m.keys := by
    simp [toPairs, AList.keys, List.keys, Function.comp_def]
  rw [h]
  exact m.keys_nodup

@[simp] theorem sum_empty (f : κ → ν → Nat) : (∅ : UnorderedMap κ ν).sum f = 0 := rfl

/-! ## Lookups -/

variable [DecidableEq κ]

@[simp] theorem lookup_empty (k : κ) : (∅ : UnorderedMap κ ν).lookup k = none :=
  AList.lookup_eq_none.mpr (AList.notMem_empty k)

theorem lookup_eq_some_iff {m : UnorderedMap κ ν} {k : κ} {v : ν} :
    m.lookup k = some v ↔ (⟨k, v⟩ : Sigma fun _ : κ => ν) ∈ m.entries :=
  AList.mem_lookup_iff

theorem mem_of_lookup {m : UnorderedMap κ ν} {k : κ} {v : ν} (h : m.lookup k = some v) :
    k ∈ m :=
  AList.lookup_isSome.mp (by rw [h]; rfl)

theorem lookup_insert_eq (m : UnorderedMap κ ν) (k k' : κ) (v : ν) :
    (m.insert k v).lookup k' = if k' = k then some v else m.lookup k' := by
  by_cases h : k' = k
  · subst h; rw [if_pos rfl, AList.lookup_insert]
  · rw [if_neg h, AList.lookup_insert_ne h]

theorem lookup_erase_eq (m : UnorderedMap κ ν) (k k' : κ) :
    (m.erase k).lookup k' = if k' = k then none else m.lookup k' := by
  by_cases h : k' = k
  · subst h; rw [if_pos rfl, AList.lookup_erase]
  · rw [if_neg h, AList.lookup_erase_ne h]

theorem emplace_of_notMem {m : UnorderedMap κ ν} {k : κ} (h : k ∉ m) (v : ν) :
    m.emplace k v = m.insert k v := if_neg h

theorem emplace_of_mem {m : UnorderedMap κ ν} {k : κ} (h : k ∈ m) (v : ν) :
    m.emplace k v = m := if_pos h

theorem mem_emplace {m : UnorderedMap κ ν} {k k' : κ} {v : ν} :
    k' ∈ m.emplace k v ↔ k' = k ∨ k' ∈ m := by
  by_cases h : k ∈ m
  · rw [emplace_of_mem h]
    exact ⟨.inr, fun h' => h'.elim (fun heq => heq ▸ h) id⟩
  · rw [emplace_of_notMem h, AList.mem_insert]

/-- A new key is one more. -/
theorem keys_emplace_of_notMem {m : UnorderedMap κ ν} {k : κ} (h : k ∉ m) (v : ν) :
    (m.emplace k v).keys = k :: m.keys := by
  rw [emplace_of_notMem h, AList.keys_insert, List.erase_of_not_mem h]

/-! ## The content relation -/

namespace Same

variable {m m' m'' : UnorderedMap κ ν}

theorem refl (m : UnorderedMap κ ν) : Same m m := fun _ => rfl

theorem trans (h : Same m m') (h' : Same m' m'') : Same m m'' := fun k => (h k).trans (h' k)

theorem mem_iff (h : Same m m') (k : κ) : k ∈ m ↔ k ∈ m' := by
  rw [← AList.lookup_isSome, ← AList.lookup_isSome, h k]

/-- Same content, same entries up to their order. -/
theorem perm (h : Same m m') : m.entries.Perm m'.entries :=
  List.lookup_ext m.nodupKeys m'.nodupKeys fun k v => by
    have hk : List.dlookup k m.entries = List.dlookup k m'.entries := h k
    rw [hk]

theorem size_eq (h : Same m m') : m.size = m'.size := h.perm.length_eq

theorem sum_eq (h : Same m m') (f : κ → ν → Nat) : m.sum f = m'.sum f :=
  (h.perm.map _).sum_eq

end Same

/-- Erasing a key and putting its value back restores the content. -/
theorem same_insert_erase {m : UnorderedMap κ ν} {k : κ} {v : ν} (h : m.lookup k = some v) :
    Same ((m.erase k).insert k v) m := by
  intro k'
  rw [lookup_insert_eq, lookup_erase_eq]
  by_cases hk : k' = k
  · subst hk; simp [h]
  · simp [hk]

/-- Inserting a new key and erasing it again restores the content. -/
theorem same_erase_insert {m : UnorderedMap κ ν} {k : κ} (h : k ∉ m) (v : ν) :
    Same ((m.insert k v).erase k) m := by
  intro k'
  rw [lookup_erase_eq, lookup_insert_eq]
  by_cases hk : k' = k
  · subst hk; simp [AList.lookup_eq_none.mpr h]
  · simp [hk]

/-! ## Rebuilding a table from its pairs -/

theorem mem_toPairs {m : UnorderedMap κ ν} {k : κ} {v : ν} :
    (k, v) ∈ m.toPairs ↔ m.lookup k = some v := by
  rw [lookup_eq_some_iff, toPairs, List.mem_map]
  constructor
  · rintro ⟨⟨k', v'⟩, he, heq⟩
    obtain ⟨rfl, rfl⟩ := Prod.mk.inj heq
    exact he
  · intro h
    exact ⟨_, h, rfl⟩

theorem size_ne_zero_of_lookup {m : UnorderedMap κ ν} {k : κ} {v : ν}
    (h : m.lookup k = some v) : m.size ≠ 0 := by
  rw [← length_toPairs]
  exact (List.length_pos_of_mem (mem_toPairs.mpr h)).ne'

theorem lookup_insertAll_of_notMem {l : List (κ × ν)} {m : UnorderedMap κ ν} {k : κ}
    (h : k ∉ l.map Prod.fst) : (insertAll l m).lookup k = m.lookup k := by
  induction l generalizing m with
  | nil => rfl
  | cons e l ih =>
    rw [List.map_cons, List.mem_cons, not_or] at h
    show (insertAll l (m.insert e.1 e.2)).lookup k = m.lookup k
    rw [ih h.2, lookup_insert_eq, if_neg h.1]

theorem lookup_insertAll_of_mem {l : List (κ × ν)} {m : UnorderedMap κ ν} {k : κ} {v : ν}
    (hn : (l.map Prod.fst).Nodup) (h : (k, v) ∈ l) : (insertAll l m).lookup k = some v := by
  induction l generalizing m with
  | nil => cases h
  | cons e l ih =>
    rw [List.map_cons, List.nodup_cons] at hn
    show (insertAll l (m.insert e.1 e.2)).lookup k = some v
    rcases List.mem_cons.mp h with rfl | h
    · rw [lookup_insertAll_of_notMem hn.1, AList.lookup_insert]
    · exact ih hn.2 h

theorem lookup_insertAll_iff {l : List (κ × ν)} {k : κ} {v : ν} (hn : (l.map Prod.fst).Nodup) :
    (insertAll l ∅).lookup k = some v ↔ (k, v) ∈ l := by
  constructor
  · intro h
    by_cases hk : k ∈ l.map Prod.fst
    · obtain ⟨⟨k', w⟩, hw, rfl⟩ := List.mem_map.mp hk
      rw [lookup_insertAll_of_mem hn hw] at h
      exact Option.some.inj h ▸ hw
    · rw [lookup_insertAll_of_notMem hk, lookup_empty] at h
      cases h
  · exact lookup_insertAll_of_mem hn

theorem mem_map_toPairs {m : UnorderedMap κ ν} {k : κ} : k ∈ m.toPairs.map Prod.fst ↔ k ∈ m := by
  constructor
  · intro h
    obtain ⟨e, he, rfl⟩ := List.mem_map.mp h
    exact mem_of_lookup (mem_toPairs.mp he)
  · intro h
    obtain ⟨v, hv⟩ := Option.isSome_iff_exists.mp (AList.lookup_isSome.mpr h)
    exact List.mem_map.mpr ⟨(k, v), mem_toPairs.mpr hv, rfl⟩

theorem mem_emplaceAll {l : List (κ × ν)} {m : UnorderedMap κ ν} {k : κ} :
    k ∈ emplaceAll l m ↔ k ∈ l.map Prod.fst ∨ k ∈ m := by
  induction l generalizing m with
  | nil => exact ⟨.inr, fun h => h.resolve_left List.not_mem_nil⟩
  | cons e l ih =>
    show k ∈ emplaceAll l (m.emplace e.1 e.2) ↔ _
    rw [ih, mem_emplace, List.map_cons, List.mem_cons]
    tauto

theorem mem_of_lookup_emplaceAll {l : List (κ × ν)} {m : UnorderedMap κ ν} {k : κ} {v : ν}
    (h : (emplaceAll l m).lookup k = some v) : (k, v) ∈ l ∨ m.lookup k = some v := by
  induction l generalizing m with
  | nil => exact .inr h
  | cons e l ih =>
    rcases ih h with hmem | hlookup
    · exact .inl (List.mem_cons_of_mem _ hmem)
    · change (m.emplace e.1 e.2).lookup k = some v at hlookup
      unfold emplace at hlookup
      split_ifs at hlookup
      · exact .inr hlookup
      · rw [lookup_insert_eq] at hlookup
        split_ifs at hlookup with hk
        · cases hlookup
          exact .inl (hk ▸ List.mem_cons_self)
        · exact .inr hlookup

/-- Of the pairs with a key the first stays, unless the key was there before. -/
theorem lookup_emplaceAll (l : List (κ × ν)) (m : UnorderedMap κ ν) (k : κ) :
    (emplaceAll l m).lookup k = (m.lookup k).or (l.lookup k) := by
  induction l generalizing m with
  | nil => exact (Option.or_none).symm
  | cons e l ih =>
    show (emplaceAll l (m.emplace e.1 e.2)).lookup k = _
    rw [ih, List.lookup_cons]
    by_cases hk : k = e.1
    · subst hk
      by_cases hmem : e.1 ∈ m
      · obtain ⟨v, hv⟩ := Option.isSome_iff_exists.mp (AList.lookup_isSome.mpr hmem)
        rw [emplace_of_mem hmem, hv]
        rfl
      · rw [emplace_of_notMem hmem, AList.lookup_insert, AList.lookup_eq_none.mpr hmem]
        simp
    · have hlookup : (m.emplace e.1 e.2).lookup k = m.lookup k := by
        unfold emplace
        split_ifs
        · rfl
        · rw [lookup_insert_eq, if_neg hk]
      rw [hlookup, beq_false_of_ne hk]

theorem mem_insertAll {l : List (κ × ν)} {m : UnorderedMap κ ν} {k : κ} :
    k ∈ insertAll l m ↔ k ∈ l.map Prod.fst ∨ k ∈ m := by
  induction l generalizing m with
  | nil => exact ⟨.inr, fun h => h.resolve_left List.not_mem_nil⟩
  | cons e l ih =>
    show k ∈ insertAll l (m.insert e.1 e.2) ↔ _
    rw [ih, AList.mem_insert, List.map_cons, List.mem_cons]
    tauto

theorem emplaceAll_append (l l' : List (κ × ν)) (m : UnorderedMap κ ν) :
    emplaceAll (l ++ l') m = emplaceAll l' (emplaceAll l m) :=
  List.foldl_append

/-- With distinct keys, none of them present, emplacing is inserting. -/
theorem emplaceAll_eq_insertAll {l : List (κ × ν)} {m : UnorderedMap κ ν}
    (hn : (l.map Prod.fst).Nodup) (hm : ∀ k ∈ l.map Prod.fst, k ∉ m) :
    emplaceAll l m = insertAll l m := by
  induction l generalizing m with
  | nil => rfl
  | cons e l ih =>
    rw [List.map_cons, List.nodup_cons] at hn
    have he : e.1 ∉ m := hm e.1 (by simp)
    show emplaceAll l (m.emplace e.1 e.2) = insertAll l (m.insert e.1 e.2)
    rw [emplace_of_notMem he]
    refine ih hn.2 fun k hk hmem => ?_
    rcases (AList.mem_insert m).mp hmem with rfl | hmem
    · exact hn.1 hk
    · exact hm k (List.mem_cons_of_mem _ hk) hmem

/-- Assigning a table's own pairs to an empty table rebuilds its content. -/
theorem insertAll_toPairs (m : UnorderedMap κ ν) : Same (insertAll m.toPairs ∅) m := by
  intro k
  cases h : m.lookup k with
  | some v => exact lookup_insertAll_of_mem m.nodup_fst_toPairs (mem_toPairs.mpr h)
  | none =>
    rw [lookup_insertAll_of_notMem, lookup_empty]
    intro hk
    obtain ⟨e, he, rfl⟩ := List.mem_map.mp hk
    rw [mem_toPairs.mp he] at h
    cases h

/-- Emplacing a table's own pairs into an empty table rebuilds its content. -/
theorem emplaceAll_toPairs (m : UnorderedMap κ ν) : Same (emplaceAll m.toPairs ∅) m := by
  rw [emplaceAll_eq_insertAll m.nodup_fst_toPairs fun k _ => AList.notMem_empty k]
  exact insertAll_toPairs m

/-- The entries of a table are those of the rest and the one under a key, in some order. -/
theorem toPairs_perm_erase {m : UnorderedMap κ ν} {k : κ} {v : ν} (h : m.lookup k = some v) :
    m.toPairs.Perm ((k, v) :: toPairs (m.erase k)) := by
  have hk : k ∉ m.erase k := fun hmem => (AList.mem_erase.mp hmem).1 rfl
  have hperm := (same_insert_erase h).perm.symm
  rw [AList.entries_insert_of_notMem hk] at hperm
  exact hperm.map fun e => (e.1, e.2)

/-! ## Sums over the entries -/

theorem sum_insert {m : UnorderedMap κ ν} {k : κ} (h : k ∉ m) (v : ν) (f : κ → ν → Nat) :
    sum f (m.insert k v) = f k v + m.sum f := by
  rw [sum, sum, AList.entries_insert_of_notMem h, List.map_cons, List.sum_cons]

/-- Removing an entry takes exactly its weight out of the sum. -/
theorem sum_erase {m : UnorderedMap κ ν} {k : κ} {v : ν} (h : m.lookup k = some v)
    (f : κ → ν → Nat) : m.sum f = f k v + sum f (m.erase k) := by
  have hk : k ∉ m.erase k := fun hmem => (AList.mem_erase.mp hmem).1 rfl
  rw [← (same_insert_erase h).sum_eq f, sum_insert hk]

/-- Entries that come from the entries of another table, each from one of its own, are
together worth no more than that table. -/
theorem sum_le_of_origin {κ' : Type u} {ν' : Type v} [DecidableEq κ'] (origin : κ → Option κ')
    {f : κ → ν → Nat} {f' : κ' → ν' → Nat} {m : UnorderedMap κ ν} {m' : UnorderedMap κ' ν'}
    (h : ∀ k' v', m'.lookup k' = some v' →
      ∃ k v, origin k = some k' ∧ m.lookup k = some v ∧ f' k' v' ≤ f k v) :
    m'.sum f' ≤ m.sum f := by
  induction m' using AList.insertRec generalizing m with
  | H0 => exact Nat.zero_le _
  | IH k' v' m' hnew ih =>
    obtain ⟨k, v, horigin, hlookup, hle⟩ := h k' v' (AList.lookup_insert _)
    rw [sum_insert hnew, sum_erase hlookup]
    refine Nat.add_le_add hle (ih fun k'' v'' hother => ?_)
    have hne : k'' ≠ k' := fun heq => hnew (heq ▸ mem_of_lookup hother)
    obtain ⟨k₂, v₂, horigin₂, hlookup₂, hle₂⟩ := h k'' v'' (by
      rw [lookup_insert_eq, if_neg hne]; exact hother)
    refine ⟨k₂, v₂, horigin₂, ?_, hle₂⟩
    -- another key of the table it comes from, so one that is still there
    have hne₂ : k₂ ≠ k := by
      rintro rfl
      exact hne (Option.some.inj (horigin₂.symm.trans horigin))
    rw [lookup_erase_eq, if_neg hne₂]
    exact hlookup₂

end UnorderedMap

end CodexOfPower
