/-
# `CodexOfPower.SyncSlots` — one worker for each slot

A slot is scheduled exactly when a task of the current generation is outstanding for
it, and never are there two (`slots_of_reachable`).

The generation is a 64-bit counter that nothing checks.  When it has come round, a task
left behind 2^64 generations ago is taken for a current one (`not_slots_of_reachable`);
so this is said of runs with fewer generations.
-/
import CodexOfPower.SyncSteps
import Mathlib.Data.List.Perm.Basic

namespace CodexOfPower.Rewards

open RE
open SyncRuntime (SyncSlot)

namespace Scheduler

variable {P F : Type} {slot : SyncSlot} {before after : Scheduler P F}

/-! ## Counting the tasks of a worker -/

/-- A task of the worker, of the current generation. -/
def isOutstanding (scheduler : Scheduler P F) (slot : SyncSlot) (task : MainTask) : Bool :=
  task.slot = slot && task.generation = scheduler.runtime.generation

def outstanding (scheduler : Scheduler P F) (slot : SyncSlot) : Nat :=
  scheduler.tasks.countP (scheduler.isOutstanding slot)

theorem isOutstanding_congr (h : after.runtime.generation = before.runtime.generation)
    (slot : SyncSlot) : after.isOutstanding slot = before.isOutstanding slot := by
  funext task
  unfold isOutstanding
  rw [h]

theorem outstanding_congr (hgeneration : after.runtime.generation = before.runtime.generation)
    (htasks : after.tasks = before.tasks) (slot : SyncSlot) :
    after.outstanding slot = before.outstanding slot := by
  unfold outstanding
  rw [isOutstanding_congr hgeneration, htasks]

theorem outstanding_append {task : MainTask}
    (hgeneration : after.runtime.generation = before.runtime.generation)
    (htask : task.generation = before.runtime.generation)
    (htasks : after.tasks = before.tasks ++ [task]) (slot : SyncSlot) :
    after.outstanding slot = before.outstanding slot + if task.slot = slot then 1 else 0 := by
  unfold outstanding
  rw [isOutstanding_congr hgeneration, htasks, List.countP_append, List.countP_singleton]
  congr 1
  simp [isOutstanding, htask]

theorem outstanding_eraseIdx {index : Nat} {task : MainTask}
    (h : before.tasks[index]? = some task) (slot : SyncSlot) :
    before.outstanding slot =
      (before.dequeue index).outstanding slot +
        if before.isOutstanding slot task then 1 else 0 := by
  obtain ⟨hlt, rfl⟩ := List.getElem?_eq_some_iff.mp h
  have hperm := (List.getElem_cons_eraseIdx_perm hlt).countP_eq (before.isOutstanding slot)
  rw [List.countP_cons] at hperm
  exact hperm.symm

/-! ## The invariant -/

/-- The generations in use, and one task for each scheduled slot as long as the counter has
not come round. -/
structure Counted (scheduler : Scheduler P F) : Prop where
  generation : scheduler.runtime.generation = .ofNat (1 + scheduler.restarts)
  born : ∀ task ∈ scheduler.tasks, ∃ k ≤ scheduler.restarts, task.generation = .ofNat (1 + k)
  slots : scheduler.restarts < 2 ^ 64 → ∀ slot, scheduler.outstanding slot =
    if (scheduler.runtime.slots slot).scheduled then 1 else 0

/-- `Counted` with one slot left open, for which `n` tasks are outstanding. -/
structure CountedBut (slot : SyncSlot) (n : Nat) (scheduler : Scheduler P F) : Prop where
  generation : scheduler.runtime.generation = .ofNat (1 + scheduler.restarts)
  born : ∀ task ∈ scheduler.tasks, ∃ k ≤ scheduler.restarts, task.generation = .ofNat (1 + k)
  own : scheduler.restarts < 2 ^ 64 → scheduler.outstanding slot = n
  others : scheduler.restarts < 2 ^ 64 → ∀ other, other ≠ slot →
    scheduler.outstanding other = if (scheduler.runtime.slots other).scheduled then 1 else 0

theorem Counted.but (h : Counted before) (slot : SyncSlot) :
    CountedBut slot (if (before.runtime.slots slot).scheduled then 1 else 0) before where
  generation := h.generation
  born := h.born
  own hfew := h.slots hfew slot
  others hfew other _ := h.slots hfew other

theorem CountedBut.counted {n : Nat} (h : CountedBut slot n before)
    (hn : before.restarts < 2 ^ 64 →
      n = if (before.runtime.slots slot).scheduled then 1 else 0) : Counted before where
  generation := h.generation
  born := h.born
  slots hfew other := by
    by_cases hother : other = slot
    · rw [hother, h.own hfew, hn hfew]
    · exact h.others hfew other hother

/-- What happens to one slot alone, with no new task, leaves the others as they are. -/
theorem CountedBut.congr {n : Nat} (h : CountedBut slot n before)
    (hframe : Frame slot before after) (htasks : after.tasks = before.tasks) :
    CountedBut slot n after where
  generation := by rw [hframe.generation, hframe.restarts, h.generation]
  born := by
    rw [htasks, hframe.restarts]
    exact h.born
  own hfew := by
    rw [outstanding_congr hframe.generation htasks]
    exact h.own (hframe.restarts ▸ hfew)
  others hfew other hother := by
    rw [outstanding_congr hframe.generation htasks, (hframe.others other hother).1]
    exact h.others (hframe.restarts ▸ hfew) other hother

/-- A new task for one slot leaves the others as they are. -/
theorem CountedBut.append {n : Nat} {task : MainTask} (h : CountedBut slot n before)
    (hframe : Frame slot before after) (hslot : task.slot = slot)
    (htask : task.generation = before.runtime.generation)
    (htasks : after.tasks = before.tasks ++ [task]) : CountedBut slot (n + 1) after where
  generation := by rw [hframe.generation, hframe.restarts, h.generation]
  born := by
    rw [htasks, hframe.restarts]
    intro other hother
    rcases List.mem_append.mp hother with hother | hother
    · exact h.born other hother
    · rw [List.mem_singleton.mp hother]
      exact ⟨before.restarts, Nat.le_refl _, htask.trans h.generation⟩
  own hfew := by
    rw [outstanding_append hframe.generation htask htasks, if_pos hslot,
      h.own (hframe.restarts ▸ hfew)]
  others hfew other hother := by
    have hne : task.slot ≠ other := fun heq => hother (heq.symm.trans hslot)
    rw [outstanding_append hframe.generation htask htasks, if_neg hne, Nat.add_zero,
      (hframe.others other hother).1]
    exact h.others (hframe.restarts ▸ hfew) other hother

/-- Taking a current task from the queue leaves none for its slot, which was scheduled. -/
theorem Counted.dequeue {index : Nat} {task : MainTask} (h : Counted before)
    (htask : before.tasks[index]? = some task)
    (hcurrent : task.generation = before.runtime.generation) :
    CountedBut task.slot 0 (before.dequeue index) ∧
      (before.restarts < 2 ^ 64 → (before.runtime.slots task.slot).scheduled = true) := by
  have hisOutstanding : ∀ slot, before.isOutstanding slot task = decide (task.slot = slot) := by
    intro slot
    simp [isOutstanding, hcurrent]
  have hown : before.restarts < 2 ^ 64 →
      (before.dequeue index).outstanding task.slot = 0 ∧
        (before.runtime.slots task.slot).scheduled = true := by
    intro hfew
    have hcount := outstanding_eraseIdx htask task.slot
    rw [hisOutstanding, decide_eq_true rfl, if_pos rfl, h.slots hfew] at hcount
    split_ifs at hcount with hscheduled
    exact ⟨by omega, hscheduled⟩
  refine ⟨⟨h.generation, ?_, fun hfew => (hown hfew).1, fun hfew other hother => ?_⟩,
    fun hfew => (hown hfew).2⟩
  · intro other hother
    exact h.born other (List.mem_of_mem_eraseIdx hother)
  · have hcount := outstanding_eraseIdx htask other
    rw [hisOutstanding, decide_eq_false (Ne.symm hother), if_neg Bool.false_ne_true,
      Nat.add_zero] at hcount
    rw [← hcount, h.slots hfew]
    rfl

/-- No outstanding task is of the next generation. -/
theorem Counted.restart (h : Counted before) : Counted before.restart where
  generation := by
    show before.runtime.generation + 1 = UInt64.ofNat (1 + (before.restarts + 1))
    rw [h.generation, ← Nat.add_assoc, UInt64.ofNat_add (1 + before.restarts) 1]
    rfl
  born task htask := by
    obtain ⟨k, hk, htask⟩ := h.born task htask
    exact ⟨k, Nat.le_succ_of_le hk, htask⟩
  slots hfew slot := by
    refine List.countP_eq_zero.mpr fun task htask houtstanding => ?_
    obtain ⟨k, hk, hborn⟩ := h.born task htask
    have hsame : task.generation = before.runtime.generation + 1 := by
      simp only [isOutstanding, Bool.and_eq_true, decide_eq_true_eq] at houtstanding
      exact houtstanding.2
    rw [hborn, h.generation] at hsame
    have hvalue := congrArg UInt64.toNat hsame
    have hrestarts : before.restarts + 1 < 2 ^ 64 := hfew
    rw [UInt64.toNat_add, UInt64.toNat_ofNat', UInt64.toNat_ofNat'] at hvalue
    simp only [UInt64.reduceToNat] at hvalue
    omega

theorem Counted.of_start (h : Counted before) (hframe : Frame slot before after)
    (hstart : Start slot before after) : Counted after := by
  cases hstart with
  | marked hscheduled htasks hslot =>
    refine ((h.but slot).congr hframe htasks).counted fun _ => ?_
    rw [hslot]
  | started hfree task htask htaskGeneration htasks hscheduled hfresh =>
    refine ((h.but slot).append hframe htask htaskGeneration htasks).counted fun _ => ?_
    rw [hfree, hscheduled]
    rfl
  | deferred hfree htasks hslot =>
    refine ((h.but slot).congr hframe htasks).counted fun _ => ?_
    rw [hfree, hslot]

/-- The task of the slot has been taken from the queue, and its worker does its step. -/
theorem Counted.of_outcome {lost : Prop} {index : Nat} {task : MainTask} (h : Counted before)
    (htask : before.tasks[index]? = some task)
    (hcurrent : task.generation = before.runtime.generation)
    (hframe : Frame task.slot (before.dequeue index) after)
    (houtcome : Outcome task.slot lost
      (before.dequeue index) after) : Counted after := by
  obtain ⟨hdequeued, hwas⟩ := h.dequeue htask hcurrent
  cases houtcome with
  | queued next hslot hnext htasks hscheduled hrerun =>
    refine (hdequeued.append hframe hslot hnext htasks).counted fun hfew => ?_
    have hstill : ((before.dequeue index).runtime.slots task.slot).scheduled = true :=
      hwas (hframe.restarts ▸ hfew)
    rw [hscheduled, hstill, if_pos rfl]
  | completed htasks hslot hrerun =>
    refine (hdequeued.congr hframe htasks).counted fun _ => ?_
    rw [hslot]
    rfl
  | deferred htasks hslot =>
    refine (hdequeued.congr hframe htasks).counted fun _ => ?_
    rw [hslot]
    rfl

/-- A task of another generation is dropped. -/
theorem Counted.of_stale {index : Nat} {task : MainTask} (h : Counted before)
    (htask : before.tasks[index]? = some task)
    (hstale : task.generation ≠ before.runtime.generation) :
    Counted (before.dequeue index) where
  generation := h.generation
  born other hother := h.born other (List.mem_of_mem_eraseIdx hother)
  slots hfew slot := by
    have hcount := outstanding_eraseIdx htask slot
    have hnot : before.isOutstanding slot task = false := by
      simp [isOutstanding, hstale]
    rw [hnot, if_neg Bool.false_ne_true, Nat.add_zero] at hcount
    rw [← hcount]
    exact h.slots hfew slot

/-! ## Every run -/

theorem Counted.of_requested (h : Counted before) (hrequested : Requested slot before after) :
    Counted after := by
  rcases hrequested with ⟨-, hframe, hstart⟩ | ⟨-, hframe, hstart⟩
  · exact h.of_start hframe hstart
  · exact h.restart.of_start hframe hstart

variable [FloatType F] (owner : ActorValueOwner P F)

theorem Counted.perform (h : Counted before) (event : SyncEvent P F) :
    Counted (before.perform owner event) := by
  cases event with
  | syncRewardTotalsToPlayer accepts =>
    exact h.of_requested (requested_syncRewardTotalsToPlayer accepts)
  | scheduleCarryWeightQuickResync accepts =>
    exact h.of_requested (requested_scheduleCarryWeightQuickResync accepts)
  | runTask index accepts acceptsRerun =>
    cases htask : before.tasks[index]? with
    | none =>
      rw [perform_runTask_none owner htask]
      exact h
    | some task =>
      rw [perform_runTask_some owner htask]
      by_cases hcurrent : task.generation = (before.dequeue index).runtime.generation
      · obtain ⟨hframe, houtcome⟩ := runTask_outcome owner accepts acceptsRerun hcurrent
        exact h.of_outcome htask hcurrent hframe houtcome
      · rw [runTask_of_ne owner accepts acceptsRerun hcurrent]
        exact h.of_stale htask hcurrent
  | resetSyncSchedulersForLoad => exact h.restart
  | advanceClock elapsedMs => exact ⟨h.generation, h.born, h.slots⟩
  | play game ready => exact ⟨h.generation, h.born, h.slots⟩

theorem invariant_counted (allowed : Scheduler P F → SyncEvent P F → Prop) :
    (system owner allowed).Invariant Counted where
  init scheduler hinit := by
    obtain ⟨nowMs, game, ready, rfl⟩ := hinit
    exact ⟨rfl, fun task htask => absurd htask List.not_mem_nil, fun _ _ => rfl⟩
  step scheduler scheduler' h hstep := by
    obtain ⟨event, -, rfl⟩ := hstep
    exact h.perform owner event

/-- In every run with fewer than 2^64 generations, whatever is requested, run, refused,
restarted and loaded: a slot has at most one outstanding task of the current generation, and
is scheduled exactly when there is one; and a task of another generation changes nothing. -/
theorem slots_of_reachable {scheduler : Scheduler P F}
    (hreachable : (system owner fun _ _ => True).Reachable scheduler)
    (hrestarts : scheduler.restarts < 2 ^ 64) :
    (∀ slot, (scheduler.tasks.filter (scheduler.isOutstanding slot)).length ≤ 1 ∧
      ((scheduler.runtime.slots slot).scheduled = true ↔ ∃ task ∈ scheduler.tasks,
        task.slot = slot ∧ task.generation = scheduler.runtime.generation)) ∧
    ∀ task accepts acceptsRerun, task.generation ≠ scheduler.runtime.generation →
      scheduler.runTask owner accepts acceptsRerun task = scheduler := by
  have hcounted := (invariant_counted owner _).reachable hreachable
  refine ⟨fun slot => ?_, fun task accepts acceptsRerun => runTask_of_ne owner _ _⟩
  have hcount := hcounted.slots hrestarts slot
  constructor
  · rw [← List.countP_eq_length_filter]
    show scheduler.outstanding slot ≤ 1
    rw [hcount]
    split_ifs
    · exact Nat.le_refl _
    · exact Nat.zero_le _
  · have hsome : 0 < scheduler.outstanding slot ↔ ∃ task ∈ scheduler.tasks,
        task.slot = slot ∧ task.generation = scheduler.runtime.generation := by
      simp [outstanding, isOutstanding, List.countP_pos_iff]
    rw [← hsome, hcount]
    split_ifs with hscheduled
    · exact ⟨fun _ => Nat.one_pos, fun _ => hscheduled⟩
    · exact ⟨fun h => absurd h hscheduled, fun h => absurd h (Nat.lt_irrefl 0)⟩

def quiet : Scheduler (ActorValues ℚ) ℚ where
  game := ⟨⟨fun _ => 0, fun _ => 0⟩, ∅⟩

theorem reachable_quiet
    (allowed : Scheduler (ActorValues ℚ) ℚ → SyncEvent (ActorValues ℚ) ℚ → Prop) :
    (system cleanupOwner allowed).Reachable quiet :=
  .of_init ⟨0, _, false, rfl⟩

/-- The game without rewards has been asked for the quick resync. -/
def askedOnce : Scheduler (ActorValues ℚ) ℚ := quiet.scheduleCarryWeightQuickResync true

theorem reachable_askedOnce : (system cleanupOwner fun _ _ => True).Reachable askedOnce :=
  (reachable_quiet _).step ⟨.scheduleCarryWeightQuickResync true, trivial, rfl⟩

theorem slots_of_reachable_askedOnce :
    (askedOnce.runtime.slots .carryWeightQuickResync).scheduled = true ↔
      ∃ task ∈ askedOnce.tasks, task.slot = .carryWeightQuickResync ∧
        task.generation = askedOnce.runtime.generation :=
  ((slots_of_reachable cleanupOwner reachable_askedOnce (by decide)).1 .carryWeightQuickResync).2

/-! ## When the counter has come round -/

omit [FloatType F] in
theorem restarted_iterate (scheduler : Scheduler P F) (n : Nat) :
    (restart^[n + 1] scheduler).tasks = scheduler.tasks ∧
      (restart^[n + 1] scheduler).runtime.generation =
        scheduler.runtime.generation + .ofNat (n + 1) ∧
      ∀ slot, (restart^[n + 1] scheduler).runtime.slots slot = {} := by
  induction n with
  | zero => exact ⟨rfl, rfl, fun _ => rfl⟩
  | succ n ih =>
    obtain ⟨htasks, hgeneration, -⟩ := ih
    rw [Function.iterate_succ_apply']
    refine ⟨htasks, ?_, fun _ => rfl⟩
    show (restart^[n + 1] scheduler).runtime.generation + 1 = _
    rw [hgeneration, UInt64.ofNat_add (n + 1) 1, UInt64.add_assoc]
    rfl

theorem reachable_iterate {scheduler : Scheduler P F} (n : Nat)
    (h : (system owner fun _ _ => True).Reachable scheduler) :
    (system owner fun _ _ => True).Reachable (restart^[n] scheduler) := by
  induction n with
  | zero => exact h
  | succ n ih =>
    rw [Function.iterate_succ_apply']
    exact ih.step ⟨.resetSyncSchedulersForLoad, trivial, rfl⟩

/-- A request, and then 2^64 loads before its task is run: the task is current again, and
its slot is free. -/
theorem not_slots_of_reachable :
    ¬ ∀ scheduler : Scheduler (ActorValues ℚ) ℚ,
      (system cleanupOwner fun _ _ => True).Reachable scheduler →
      ∀ slot, (scheduler.tasks.filter (scheduler.isOutstanding slot)).length ≤ 1 ∧
        ((scheduler.runtime.slots slot).scheduled = true ↔ ∃ task ∈ scheduler.tasks,
          task.slot = slot ∧ task.generation = scheduler.runtime.generation) := by
  intro h
  have hround : ∀ n, UInt64.ofNat (n + 1) = 0 → False := by
    intro n hn
    obtain ⟨htasks, hgeneration, hslots⟩ := restarted_iterate askedOnce n
    have hcurrent := (h _ (reachable_iterate cleanupOwner (n + 1) reachable_askedOnce)
      .carryWeightQuickResync).2.mpr
    rw [hslots, htasks, hgeneration, hn, UInt64.add_zero] at hcurrent
    exact Bool.false_ne_true (hcurrent
      ⟨.runCarryWeightQuickResync { generation := 1 }, List.mem_singleton_self _, rfl, rfl⟩)
  exact hround (2 ^ 64 - 1) (by decide)

end Scheduler

end CodexOfPower.Rewards
