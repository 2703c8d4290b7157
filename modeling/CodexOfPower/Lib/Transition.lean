/-
# `CodexOfPower.Lib.Transition` — runs and invariants

A transition system is a set of starting states and a step relation.  A state is
reachable when a finite run leads to it; an invariant holds at the start and
across every step, hence of every reachable state (`Invariant.reachable`).  The
induction over runs is done here, once.

Two refinements are used above: an invariant may be proved relative to one that
is already known (`Invariant.and`), and the steps of a system may be restricted
to those that meet a condition (`restrict`), which is how "in every run whose
steps all meet the condition" is said.
-/
import Mathlib.Logic.Relation

namespace CodexOfPower

universe u

structure TransitionSystem (σ : Type u) where
  init : σ → Prop
  step : σ → σ → Prop

namespace TransitionSystem

variable {σ : Type u} {T : TransitionSystem σ} {I J : σ → Prop} {s s' : σ}

/-- Some finite run leads to the state. -/
def Reachable (T : TransitionSystem σ) (s : σ) : Prop :=
  ∃ s₀, T.init s₀ ∧ Relation.ReflTransGen T.step s₀ s

theorem Reachable.of_init (h : T.init s) : T.Reachable s := ⟨s, h, .refl⟩

theorem Reachable.step (h : T.Reachable s) (hs : T.step s s') : T.Reachable s' := by
  obtain ⟨s₀, h₀, hr⟩ := h
  exact ⟨s₀, h₀, hr.tail hs⟩

/-- Holds at the start and is kept by every step. -/
structure Invariant (T : TransitionSystem σ) (I : σ → Prop) : Prop where
  init : ∀ s, T.init s → I s
  step : ∀ s s', I s → T.step s s' → I s'

theorem Invariant.reachable (hI : T.Invariant I) (h : T.Reachable s) : I s := by
  obtain ⟨s₀, h₀, hr⟩ := h
  induction hr with
  | refl => exact hI.init s₀ h₀
  | tail _ hs ih => exact hI.step _ _ ih hs

/-- An invariant may use one that is already known. -/
theorem Invariant.and (hI : T.Invariant I) (init : ∀ s, T.init s → J s)
    (step : ∀ s s', I s → J s → T.step s s' → J s') : T.Invariant fun s => I s ∧ J s where
  init s h := ⟨hI.init s h, init s h⟩
  step s s' h hs := ⟨hI.step s s' h.1 hs, step s s' h.1 h.2 hs⟩

/-- Only the steps that meet a condition on the state before and the state after. -/
def restrict (T : TransitionSystem σ) (C : σ → σ → Prop) : TransitionSystem σ where
  init := T.init
  step s s' := T.step s s' ∧ C s s'

/-- A weaker condition leaves more runs. -/
theorem Reachable.restrict_mono {C D : σ → σ → Prop} (h : (T.restrict C).Reachable s)
    (himp : ∀ s s', C s s' → D s s') : (T.restrict D).Reachable s := by
  obtain ⟨s₀, h₀, hr⟩ := h
  refine ⟨s₀, h₀, ?_⟩
  induction hr with
  | refl => exact .refl
  | tail _ hs ih => exact ih.tail ⟨hs.1, himp _ _ hs.2⟩

/-- Asking nothing of the steps leaves every run. -/
theorem Reachable.restrict_true (h : T.Reachable s) :
    (T.restrict fun _ _ => True).Reachable s := by
  obtain ⟨s₀, h₀, hr⟩ := h
  induction hr with
  | refl => exact .of_init h₀
  | tail _ hs ih => exact ih.step ⟨hs, trivial⟩

end TransitionSystem

end CodexOfPower
