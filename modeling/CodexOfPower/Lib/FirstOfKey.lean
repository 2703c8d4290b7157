/-
# `CodexOfPower.Lib.FirstOfKey` — the first element of each key

A scan that keeps a set of the keys it has seen treats, of the elements that count,
the first of each key alone.  Which elements these are is a property of the list
(`IsFirst`), and a scan is described by it once instead of by its set.
-/
import Mathlib.Data.List.Basic

namespace CodexOfPower

universe u v

variable {α : Type u} {κ : Type v} {counts : α → Prop} {key : α → κ} {l : List α} {x y : α}

/-- The element counts, and none before it that counts has its key. -/
def IsFirst (counts : α → Prop) (key : α → κ) (l : List α) (x : α) : Prop :=
  ∃ before after, l = before ++ x :: after ∧ counts x ∧ ∀ y ∈ before, counts y → key y ≠ key x

namespace IsFirst

theorem mem (h : IsFirst counts key l x) : x ∈ l := by
  obtain ⟨before, after, rfl, -, -⟩ := h
  exact List.mem_append_right _ List.mem_cons_self

theorem isCounted (h : IsFirst counts key l x) : counts x := by
  obtain ⟨_, _, -, hx, -⟩ := h
  exact hx

theorem nil : ¬ IsFirst counts key [] x := fun h => List.not_mem_nil h.mem

/-- The first elements of a list are its head, if that counts, and those behind it whose key
the head does not take. -/
theorem cons_iff :
    IsFirst counts key (y :: l) x ↔
      (x = y ∧ counts y) ∨ (IsFirst counts key l x ∧ (counts y → key y ≠ key x)) := by
  constructor
  · rintro ⟨before, after, heq, hx, hbefore⟩
    cases before with
    | nil =>
      obtain ⟨rfl, -⟩ := List.cons.inj heq
      exact .inl ⟨rfl, hx⟩
    | cons z before =>
      obtain ⟨rfl, rfl⟩ := List.cons.inj heq
      exact .inr ⟨⟨before, after, rfl, hx, fun w hw => hbefore w (List.mem_cons_of_mem _ hw)⟩,
        hbefore y List.mem_cons_self⟩
  · rintro (⟨rfl, hx⟩ | ⟨⟨before, after, rfl, hx, hbefore⟩, hy⟩)
    · exact ⟨[], l, rfl, hx, fun w hw => absurd hw List.not_mem_nil⟩
    · refine ⟨y :: before, after, rfl, hx, fun w hw => ?_⟩
      rcases List.mem_cons.mp hw with rfl | hw
      · exact hy
      · exact hbefore w hw

/-- Every key of an element that counts has a first element. -/
theorem exists_of_mem (hmem : y ∈ l) (hy : counts y) :
    ∃ x, IsFirst counts key l x ∧ key x = key y := by
  induction l with
  | nil => exact absurd hmem List.not_mem_nil
  | cons z l ih =>
    by_cases hz : counts z ∧ key z = key y
    · exact ⟨z, cons_iff.mpr (.inl ⟨rfl, hz.1⟩), hz.2⟩
    · rcases List.mem_cons.mp hmem with rfl | hmem
      · exact absurd ⟨hy, rfl⟩ hz
      · obtain ⟨x, hx, hkey⟩ := ih hmem
        exact ⟨x, cons_iff.mpr (.inr ⟨hx, fun hcounts heq => hz ⟨hcounts, heq.trans hkey⟩⟩), hkey⟩

/-- Two first elements of one key are the same. -/
theorem eq_of_key_eq (hx : IsFirst counts key l x) (hy : IsFirst counts key l y)
    (hkey : key x = key y) : x = y := by
  induction l with
  | nil => exact absurd hx nil
  | cons z l ih =>
    rcases cons_iff.mp hx with ⟨rfl, hcounts⟩ | ⟨hx', hne⟩
    · rcases cons_iff.mp hy with ⟨rfl, -⟩ | ⟨-, hne'⟩
      · rfl
      · exact absurd hkey (hne' hcounts)
    · rcases cons_iff.mp hy with ⟨rfl, hcounts⟩ | ⟨hy', -⟩
      · exact absurd hkey.symm (hne hcounts)
      · exact ih hx' hy'

/-- A search by what only elements of the key that count have finds the first of them. -/
theorem find?_eq (h : IsFirst counts key l x) {p : α → Bool} (hx : p x = true)
    (hp : ∀ y, p y = true → counts y ∧ key y = key x) : l.find? p = some x := by
  obtain ⟨before, after, rfl, -, hbefore⟩ := h
  refine List.find?_eq_some_iff_append.mpr ⟨hx, before, after, rfl, fun y hy => ?_⟩
  rw [Bool.not_eq_true']
  refine Bool.eq_false_iff.mpr fun hpy => ?_
  obtain ⟨hcounts, hkey⟩ := hp y hpy
  exact hbefore y hy hcounts hkey

/-- A lookup finds the first pair with its key. -/
theorem lookup_eq_some_iff {ν : Type u} [DecidableEq κ] {l : List (κ × ν)} {k : κ} {v : ν} :
    l.lookup k = some v ↔ IsFirst (fun _ => True) Prod.fst l (k, v) := by
  induction l with
  | nil => exact iff_of_false (Option.some_ne_none v).symm nil
  | cons e l ih =>
    obtain ⟨k', v'⟩ := e
    rw [cons_iff, ← ih, List.lookup_cons]
    by_cases hk : k = k'
    · subst hk
      simp [eq_comm]
    · rw [beq_false_of_ne hk]
      simp [hk, Ne.symm hk]

end IsFirst

end CodexOfPower
