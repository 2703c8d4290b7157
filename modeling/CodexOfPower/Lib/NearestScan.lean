/-
# `CodexOfPower.Lib.NearestScan` — choosing the candidate nearest to a target

A scan keeps the best candidate so far and the distance it is measured by.  A candidate
replaces it when it is nearer by more than a tolerance, or when it is within the
tolerance and smaller in magnitude; such a tie leaves the measured distance as it was.
So the distance is only nearly that of the best candidate, and the choice only nearly
the nearest (`dist_nearest_le`).
-/
import Mathlib.Algebra.Order.Ring.Abs
import Mathlib.Tactic.Linarith

namespace CodexOfPower

namespace NearestScan

variable {K : Type} [Field K] [LinearOrder K] [IsStrictOrderedRing K]

/-- The step: the best candidate and its measured distance, after another candidate. -/
def closer (tolerance target : K) (best : K × K) (candidate : K) : K × K :=
  if |target - candidate| + tolerance < best.2 then (candidate, |target - candidate|)
  else if |(|target - candidate| - best.2)| ≤ tolerance ∧ |candidate| < |best.1| then
    (candidate, best.2)
  else best

/-- The candidate that is left. -/
def nearest (tolerance target first : K) (rest : List K) : K :=
  (rest.foldl (closer tolerance target) (first, |target - first|)).1

variable {tolerance target first candidate : K} {best : K × K} {rest : List K}

/-! ## One step -/

omit [IsStrictOrderedRing K] in
theorem closer_cases (tolerance target : K) (best : K × K) (candidate : K) :
    (|target - candidate| + tolerance < best.2 ∧
        closer tolerance target best candidate = (candidate, |target - candidate|)) ∨
      (|(|target - candidate| - best.2)| ≤ tolerance ∧ |candidate| < |best.1| ∧
        closer tolerance target best candidate = (candidate, best.2)) ∨
      (best.2 ≤ |target - candidate| + tolerance ∧
        ¬ (|(|target - candidate| - best.2)| ≤ tolerance ∧ |candidate| < |best.1|) ∧
        closer tolerance target best candidate = best) := by
  unfold closer
  split_ifs with hcloser htie
  · exact .inl ⟨hcloser, rfl⟩
  · exact .inr (.inl ⟨htie.1, htie.2, rfl⟩)
  · exact .inr (.inr ⟨not_lt.mp hcloser, htie, rfl⟩)

/-- The measured distance is near the distance of the best candidate, and of none seen
it is far above the distance. -/
structure Measured (tolerance target : K) (seen : List K) (best : K × K) : Prop where
  mem : best.1 ∈ seen
  near : |target - best.1| ≤ best.2 + tolerance
  least : ∀ candidate ∈ seen, best.2 ≤ |target - candidate| + tolerance

theorem measured_first (htolerance : 0 ≤ tolerance) :
    Measured tolerance target [first] (first, |target - first|) where
  mem := List.mem_singleton_self _
  near := le_add_of_nonneg_right htolerance
  least c hc := by
    rw [List.mem_singleton.mp hc]
    exact le_add_of_nonneg_right htolerance

theorem Measured.closer {seen : List K} (htolerance : 0 ≤ tolerance)
    (h : Measured tolerance target seen best) (candidate : K) :
    Measured tolerance target (seen ++ [candidate]) (closer tolerance target best candidate) := by
  have hlast : candidate ∈ seen ++ [candidate] :=
    List.mem_append_right _ (List.mem_singleton_self _)
  rcases closer_cases tolerance target best candidate with
    ⟨hcloser, heq⟩ | ⟨htie, -, heq⟩ | ⟨hfar, -, heq⟩
  · rw [heq]
    refine ⟨hlast, le_add_of_nonneg_right htolerance, fun c hc => ?_⟩
    rcases List.mem_append.mp hc with hc | hc
    · have hseen := h.least c hc
      show |target - candidate| ≤ _
      linarith
    · rw [List.mem_singleton.mp hc]
      exact le_add_of_nonneg_right htolerance
  · rw [heq]
    obtain ⟨hbelow, habove⟩ := abs_le.mp htie
    refine ⟨hlast, ?_, fun c hc => ?_⟩
    · show |target - candidate| ≤ best.2 + tolerance
      linarith
    · rcases List.mem_append.mp hc with hc | hc
      · exact h.least c hc
      · rw [List.mem_singleton.mp hc]
        show best.2 ≤ |target - candidate| + tolerance
        linarith
  · rw [heq]
    refine ⟨List.mem_append_left _ h.mem, h.near, fun c hc => ?_⟩
    rcases List.mem_append.mp hc with hc | hc
    · exact h.least c hc
    · rw [List.mem_singleton.mp hc]
      exact hfar

/-- The scan keeps what is known of the measured distance. -/
theorem Measured.foldl {seen : List K} (htolerance : 0 ≤ tolerance)
    (h : Measured tolerance target seen best) (rest : List K) :
    Measured tolerance target (seen ++ rest)
      (rest.foldl (NearestScan.closer tolerance target) best) := by
  induction rest generalizing seen best with
  | nil => rwa [List.append_nil]
  | cons candidate rest ih =>
    have hnext := ih (h.closer htolerance candidate)
    rwa [List.append_assoc] at hnext

/-! ## The choice -/

theorem nearest_mem (htolerance : 0 ≤ tolerance) :
    nearest tolerance target first rest ∈ first :: rest :=
  ((measured_first htolerance).foldl htolerance rest).mem

/-- No candidate is nearer by more than twice the tolerance. -/
theorem dist_nearest_le (htolerance : 0 ≤ tolerance) (h : candidate ∈ first :: rest) :
    |target - nearest tolerance target first rest| ≤ |target - candidate| + 2 * tolerance := by
  have hmeasured : Measured tolerance target (first :: rest) _ :=
    (measured_first htolerance).foldl htolerance rest
  have hnear : |target - nearest tolerance target first rest| ≤ _ := hmeasured.near
  have hleast := hmeasured.least candidate h
  linarith

/-! ## The target among the candidates -/

theorem closer_snd_nonneg (h : 0 ≤ best.2) (candidate : K) :
    0 ≤ (closer tolerance target best candidate).2 := by
  rcases closer_cases tolerance target best candidate with ⟨-, heq⟩ | ⟨-, -, heq⟩ | ⟨-, -, heq⟩
  · rw [heq]
    exact abs_nonneg _
  · rw [heq]
    exact h
  · rw [heq]
    exact h

/-- What holds once the target itself has been seen. -/
structure Exact (tolerance target : K) (best : K × K) : Prop where
  magnitude : |best.1| ≤ target
  measured : best.2 ≤ tolerance

theorem Exact.closer (h : Exact tolerance target best) (candidate : K) :
    Exact tolerance target (closer tolerance target best candidate) := by
  rcases closer_cases tolerance target best candidate with
    ⟨hcloser, heq⟩ | ⟨-, hsmaller, heq⟩ | ⟨-, -, heq⟩
  · -- nothing is nearer by more than the tolerance
    have hdist := abs_nonneg (target - candidate)
    exact absurd h.measured (not_le.mpr (by linarith))
  · rw [heq]
    exact ⟨hsmaller.le.trans h.magnitude, h.measured⟩
  · rw [heq]
    exact h

/-- The step that sees the target. -/
theorem exact_closer (htolerance : 0 ≤ tolerance) (htarget : 0 ≤ target) (h : 0 ≤ best.2) :
    Exact tolerance target (closer tolerance target best target) := by
  rcases closer_cases tolerance target best target with
    ⟨-, heq⟩ | ⟨htie, -, heq⟩ | ⟨hfar, hnot, heq⟩
  · rw [heq, sub_self, abs_zero]
    exact ⟨(abs_of_nonneg htarget).le, htolerance⟩
  · rw [heq]
    rw [sub_self, abs_zero, zero_sub, abs_neg] at htie
    exact ⟨(abs_of_nonneg htarget).le, (le_abs_self _).trans htie⟩
  · rw [heq]
    rw [sub_self, abs_zero, zero_add] at hfar
    rw [sub_self, abs_zero, zero_sub, abs_neg, abs_of_nonneg h, abs_of_nonneg htarget] at hnot
    exact ⟨not_lt.mp fun hlt => hnot ⟨hfar, hlt⟩, hfar⟩

theorem Exact.foldl (h : Exact tolerance target best) (rest : List K) :
    Exact tolerance target (rest.foldl (NearestScan.closer tolerance target) best) := by
  induction rest generalizing best with
  | nil => exact h
  | cons candidate rest ih => exact ih (h.closer candidate)

theorem exact_foldl (htolerance : 0 ≤ tolerance) (htarget : 0 ≤ target) (h : 0 ≤ best.2)
    (hmem : target ∈ rest) :
    Exact tolerance target (rest.foldl (closer tolerance target) best) := by
  induction rest generalizing best with
  | nil => exact absurd hmem List.not_mem_nil
  | cons candidate rest ih =>
    rcases List.mem_cons.mp hmem with rfl | hmem
    · exact (exact_closer htolerance htarget h).foldl rest
    · exact ih (closer_snd_nonneg h candidate) hmem

theorem nearest_le_of_mem (htolerance : 0 ≤ tolerance) (htarget : 0 ≤ target)
    (h : target ∈ first :: rest) : nearest tolerance target first rest ≤ target := by
  refine (le_abs_self _).trans ?_
  rcases List.mem_cons.mp h with rfl | h
  · have hfirst : Exact tolerance target (target, |target - target|) := by
      rw [sub_self, abs_zero]
      exact ⟨(abs_of_nonneg htarget).le, htolerance⟩
    exact (hfirst.foldl rest).magnitude
  · exact (exact_foldl htolerance htarget (abs_nonneg _) h).magnitude

end NearestScan

end CodexOfPower
