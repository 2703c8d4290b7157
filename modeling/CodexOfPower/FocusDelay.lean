/-
# `CodexOfPower.FocusDelay` — the flag of the delayed focus

The view is focused some time after it was opened: a request sets a flag and starts a
worker, the worker sleeps and queues a UI task, and the task focuses the view.  While the
flag is set further requests do nothing, so a flag that nobody clears would keep the view
from ever being focused.

Every request takes a new generation, and its worker and its task carry it.  The flag is
set only together with a new generation and cleared whenever the generation is taken
away, so while it is set the worker or the task of the current generation is still to
come, and each clears it on every path it can take (`flag_never_wedges`).  Those of other
generations leave the flag and the view alone; which number a generation has does not
matter, nor that the counter comes round.

## What is not said

How long a worker sleeps is open, and so are the answers of PrismaUI.  That an outstanding
task is run some time is up to the game; what is said is that the flag is never set without
one.  Whether the view has the focus when all is done is not claimed.
-/
import CodexOfPower.Lib.Transition
import Mathlib.Logic.Basic
import Mathlib.Tactic.SplitIfs

namespace CodexOfPower.PrismaUIManager

/-! ## The view state -/

namespace View

structure State where
  view : UInt64 := 0
  domReady : Bool := false
  openRequested : Bool := false
  viewHidden : Bool := true
  viewFocused : Bool := false
  focusDelayArmed : Bool := false
  focusAttemptCount : Int32 := 0
  shuttingDown : Bool := false
  focusDelayGeneration : UInt64 := 0

/-- A worker that sleeps, or the UI task that it has queued. -/
inductive Task
  | delayWorker (generation : UInt64)
  | focusTask (generation : UInt64)

def Task.generation : Task → UInt64
  | delayWorker generation => generation
  | focusTask generation => generation

/-- The state and what is outstanding. -/
structure Workers where
  state : State := {}
  tasks : List Task := []

namespace Workers

def clearFocusDelayArmedIfCurrent (workers : Workers) (generation : UInt64) : Workers :=
  if generation = workers.state.focusDelayGeneration then
    { workers with state := { workers.state with focusDelayArmed := false } }
  else workers

def resetViewStateOnUIThread (workers : Workers) : Workers :=
  { workers with state := { workers.state with
      openRequested := false
      viewHidden := true
      viewFocused := false
      focusDelayArmed := false
      focusAttemptCount := 0
      domReady := false
      view := 0 } }

def setShuttingDown (workers : Workers) (value : Bool) : Workers :=
  let workers := { workers with state := { workers.state with shuttingDown := value } }
  if value then
    { workers with state := { workers.state with
        focusDelayGeneration := workers.state.focusDelayGeneration + 1
        focusDelayArmed := false } }
  else workers

/-- `QueueDelayedFocusAndState`; how long the worker sleeps is open. -/
def queueDelayedFocusAndState (workers : Workers) : Workers :=
  if workers.state.focusDelayArmed then workers
  else
    let generation := workers.state.focusDelayGeneration + 1
    { state := { workers.state with
        focusDelayArmed := true
        focusDelayGeneration := generation }
      tasks := workers.tasks ++ [.delayWorker generation] }

/-- The worker wakes up; `accepts` answers `QueueUITask`. -/
def wake (workers : Workers) (accepts : Bool) (generation : UInt64) : Workers :=
  if workers.state.shuttingDown then workers.clearFocusDelayArmedIfCurrent generation
  else if generation ≠ workers.state.focusDelayGeneration then
    workers.clearFocusDelayArmedIfCurrent generation
  else if accepts then { workers with tasks := workers.tasks ++ [.focusTask generation] }
  else workers.clearFocusDelayArmedIfCurrent generation

/-- What the API answers to a UI task. -/
structure Answers where
  isReady : Bool
  /-- `GetPrismaAPI` -/
  api : Bool
  isValid : Bool
  focus : Bool

/-- The focus failed: the attempt is counted, and made again unless it was the fifth. -/
def retryFocus (workers : Workers) : Workers :=
  let attempt := workers.state.focusAttemptCount + 1
  let workers := { workers with state := { workers.state with focusAttemptCount := attempt } }
  if attempt < 5 then workers.queueDelayedFocusAndState else workers

/-- The UI task, and what `Focus` returned where it was called. -/
def runFocusTask (workers : Workers) (answers : Answers) (generation : UInt64) :
    Workers × Option Bool :=
  let workers := workers.clearFocusDelayArmedIfCurrent generation
  if generation ≠ workers.state.focusDelayGeneration then (workers, none)
  else if !answers.isReady || !workers.state.domReady then (workers, none)
  else if !workers.state.openRequested then (workers, none)
  else if !answers.api || workers.state.view = 0 || !answers.isValid then (workers, none)
  else
    let workers := { workers with state := { workers.state with viewHidden := false } }
    let workers :=
      if !answers.focus then workers.retryFocus
      else { workers with state := { workers.state with focusAttemptCount := 0 } }
    ({ workers with state := { workers.state with viewFocused := answers.focus } },
      some answers.focus)

/-! ## Steps -/

inductive Step : Workers → Workers → Prop
  | queueDelayedFocus (workers : Workers) : Step workers workers.queueDelayedFocusAndState
  | wake (workers : Workers) (before after : List Task) (generation : UInt64) (accepts : Bool)
      (h : workers.tasks = before ++ .delayWorker generation :: after) :
      Step workers ({ workers with tasks := before ++ after }.wake accepts generation)
  | focusTask (workers : Workers) (before after : List Task) (generation : UInt64)
      (answers : Answers) (h : workers.tasks = before ++ .focusTask generation :: after) :
      Step workers ({ workers with tasks := before ++ after }.runFocusTask answers generation).1
  | reset (workers : Workers) : Step workers workers.resetViewStateOnUIThread
  | setShuttingDown (workers : Workers) (value : Bool) :
      Step workers (workers.setShuttingDown value)
  /-- The rest of the view's life: it has no part in the flag and the generation. -/
  | elsewhere (workers : Workers) (state : State)
      (harmed : state.focusDelayArmed = workers.state.focusDelayArmed)
      (hgeneration : state.focusDelayGeneration = workers.state.focusDelayGeneration) :
      Step workers { workers with state }

def system : TransitionSystem Workers where
  init workers := workers.state.focusDelayArmed = false
  step := Step

/-! ## What a worker and a task do -/

/-- The worker clears the flag or hands it to its task, the task clears it first of all;
where the focus failed it is set again for a worker of the next generation. -/
def Clears (workers : Workers) : Task → Prop
  | .delayWorker generation => ∀ accepts,
    (workers.wake accepts generation).state.focusDelayArmed = false ∨
      (workers.wake accepts generation).state = workers.state ∧
        .focusTask generation ∈ (workers.wake accepts generation).tasks
  | .focusTask generation => ∀ answers,
    (workers.runFocusTask answers generation).1.state.focusDelayArmed = false ∨
      (workers.runFocusTask answers generation).1.state.focusDelayGeneration = generation + 1 ∧
        .delayWorker (generation + 1) ∈ (workers.runFocusTask answers generation).1.tasks

/-- Nothing is changed, and the view is not focused. -/
def LeavesAlone (workers : Workers) : Task → Prop
  | .delayWorker generation => ∀ accepts, workers.wake accepts generation = workers
  | .focusTask generation => ∀ answers, workers.runFocusTask answers generation = (workers, none)

section Tasks

variable {workers : Workers} {task : Task} {generation : UInt64}

theorem clearFocusDelayArmedIfCurrent_of_ne
    (h : generation ≠ workers.state.focusDelayGeneration) :
    workers.clearFocusDelayArmedIfCurrent generation = workers := if_neg h

theorem clearFocusDelayArmedIfCurrent_current (workers : Workers) :
    workers.clearFocusDelayArmedIfCurrent workers.state.focusDelayGeneration =
      { workers with state := { workers.state with focusDelayArmed := false } } := if_pos rfl

theorem leavesAlone_of_ne (workers : Workers)
    (h : task.generation ≠ workers.state.focusDelayGeneration) :
    workers.LeavesAlone task := by
  cases task with
  | delayWorker generation =>
    intro accepts
    have hne : generation ≠ workers.state.focusDelayGeneration := h
    unfold wake
    rw [if_pos hne, clearFocusDelayArmedIfCurrent_of_ne hne]
    exact ite_self _
  | focusTask generation =>
    intro answers
    have hne : generation ≠ workers.state.focusDelayGeneration := h
    unfold runFocusTask
    rw [clearFocusDelayArmedIfCurrent_of_ne hne]
    exact if_pos hne

theorem wake_current (workers : Workers) (accepts : Bool) :
    workers.wake accepts workers.state.focusDelayGeneration =
        { workers with state := { workers.state with focusDelayArmed := false } } ∨
      workers.wake accepts workers.state.focusDelayGeneration =
        { workers with
          tasks := workers.tasks ++ [.focusTask workers.state.focusDelayGeneration] } := by
  unfold wake
  rw [if_neg (not_not.mpr rfl), clearFocusDelayArmedIfCurrent_current]
  split_ifs
  · exact .inl rfl
  · exact .inr rfl
  · exact .inl rfl

/-- What a task can leave that has cleared the flag: the flag clear, or set again with the
worker of the next generation. -/
def Cleared (workers after : Workers) : Prop :=
  (after.state.focusDelayArmed = false ∧ after.tasks = workers.tasks) ∨
    after.state.focusDelayGeneration = workers.state.focusDelayGeneration + 1 ∧
      after.tasks = workers.tasks ++ [.delayWorker (workers.state.focusDelayGeneration + 1)]

theorem cleared_queueDelayedFocusAndState (workers : Workers)
    (h : workers.state.focusDelayArmed = false) :
    workers.Cleared workers.queueDelayedFocusAndState := by
  unfold queueDelayedFocusAndState
  rw [h, if_neg Bool.false_ne_true]
  exact .inr ⟨rfl, rfl⟩

theorem cleared_retryFocus (workers : Workers) (h : workers.state.focusDelayArmed = false) :
    workers.Cleared workers.retryFocus := by
  unfold retryFocus
  dsimp only
  split_ifs
  · exact cleared_queueDelayedFocusAndState { workers with state := _ } h
  · exact .inl ⟨h, rfl⟩

theorem cleared_runFocusTask (workers : Workers) (answers : Answers) :
    workers.Cleared
      (workers.runFocusTask answers workers.state.focusDelayGeneration).1 := by
  have hclear : workers.Cleared
      { workers with state := { workers.state with focusDelayArmed := false } } :=
    .inl ⟨rfl, rfl⟩
  unfold runFocusTask
  rw [clearFocusDelayArmedIfCurrent_current]
  dsimp only
  rw [if_neg (not_not.mpr rfl)]
  split_ifs
  · exact hclear
  · exact hclear
  · exact hclear
  · exact cleared_retryFocus { workers with state := _ } rfl
  · exact .inl ⟨rfl, rfl⟩

theorem clears_of_current (h : task.generation = workers.state.focusDelayGeneration) :
    workers.Clears task := by
  cases task with
  | delayWorker generation =>
    obtain rfl : generation = workers.state.focusDelayGeneration := h
    intro accepts
    rcases workers.wake_current accepts with heq | heq
    · rw [heq]
      exact .inl rfl
    · rw [heq]
      exact .inr ⟨rfl, List.mem_append_right _ (List.mem_singleton_self _)⟩
  | focusTask generation =>
    obtain rfl : generation = workers.state.focusDelayGeneration := h
    intro answers
    rcases workers.cleared_runFocusTask answers with ⟨harmed, -⟩ | ⟨hgeneration, htasks⟩
    · exact .inl harmed
    · rw [htasks]
      exact .inr ⟨hgeneration, List.mem_append_right _ (List.mem_singleton_self _)⟩

end Tasks

/-! ## The invariant -/

/-- While the flag is set the current generation is outstanding. -/
def Outstanding (workers : Workers) : Prop :=
  workers.state.focusDelayArmed = true →
    ∃ task ∈ workers.tasks, task.generation = workers.state.focusDelayGeneration

section Invariant

variable {workers after : Workers}

theorem Outstanding.of_cleared (h : workers.Cleared after) : Outstanding after := by
  intro harmed
  rcases h with ⟨hclear, -⟩ | ⟨hgeneration, htasks⟩
  · rw [hclear] at harmed
    cases harmed
  · rw [htasks, hgeneration]
    exact ⟨_, List.mem_append_right _ (List.mem_singleton_self _), rfl⟩

/-- A current task stays outstanding when a task of another generation is taken from the list.
-/
theorem Outstanding.remove (h : Outstanding workers) {before rest : List Task} {task : Task}
    (htasks : workers.tasks = before ++ task :: rest)
    (hne : task.generation ≠ workers.state.focusDelayGeneration) :
    Outstanding { workers with tasks := before ++ rest } := by
  intro harmed
  obtain ⟨other, hmem, hgeneration⟩ := h harmed
  refine ⟨other, ?_, hgeneration⟩
  rw [htasks, List.mem_append, List.mem_cons] at hmem
  rcases hmem with hmem | rfl | hmem
  · exact List.mem_append_left _ hmem
  · exact absurd hgeneration hne
  · exact List.mem_append_right _ hmem

theorem Outstanding.step (h : Outstanding workers) (hstep : system.step workers after) :
    Outstanding after := by
  cases hstep with
  | queueDelayedFocus =>
    cases harmed : workers.state.focusDelayArmed with
    | true =>
      have hsame : workers.queueDelayedFocusAndState = workers := if_pos harmed
      rw [hsame]
      exact h
    | false => exact .of_cleared (cleared_queueDelayedFocusAndState workers harmed)
  | wake before rest generation accepts htasks =>
    by_cases hcurrent : generation = workers.state.focusDelayGeneration
    · subst hcurrent
      rcases wake_current { workers with tasks := before ++ rest } accepts with heq | heq
      · rw [heq]
        exact fun harmed => Bool.noConfusion harmed
      · rw [heq]
        exact fun _ => ⟨_, List.mem_append_right _ (List.mem_singleton_self _), rfl⟩
    · have hstale : LeavesAlone _ (.delayWorker generation) :=
        leavesAlone_of_ne { workers with tasks := before ++ rest } hcurrent
      rw [hstale accepts]
      exact h.remove htasks hcurrent
  | focusTask before rest generation answers htasks =>
    by_cases hcurrent : generation = workers.state.focusDelayGeneration
    · subst hcurrent
      exact .of_cleared (cleared_runFocusTask { workers with tasks := before ++ rest } answers)
    · have hstale : LeavesAlone _ (.focusTask generation) :=
        leavesAlone_of_ne { workers with tasks := before ++ rest } hcurrent
      rw [hstale answers]
      exact h.remove htasks hcurrent
  | reset => exact fun harmed => Bool.noConfusion harmed
  | setShuttingDown value =>
    cases value with
    | true => exact fun harmed => Bool.noConfusion harmed
    | false => exact h
  | elsewhere state harmed hgeneration =>
    intro harmed'
    rw [harmed] at harmed'
    rw [hgeneration]
    exact h harmed'

/-- In every state of every run: while the flag is set, a worker or a task of the current
generation is outstanding, which will clear it; those of other generations leave it alone. -/
theorem flag_never_wedges (h : system.Reachable workers) :
    (workers.state.focusDelayArmed = true →
      ∃ task ∈ workers.tasks, task.generation = workers.state.focusDelayGeneration ∧
        workers.Clears task) ∧
    ∀ task ∈ workers.tasks, task.generation ≠ workers.state.focusDelayGeneration →
      workers.LeavesAlone task := by
  have hinvariant : system.Invariant Outstanding := by
    refine ⟨fun workers hinit harmed => ?_, fun _ _ hout hstep => hout.step hstep⟩
    have hclear : workers.state.focusDelayArmed = false := hinit
    rw [hclear] at harmed
    cases harmed
  constructor
  · intro harmed
    obtain ⟨task, hmem, hgeneration⟩ := hinvariant.reachable h harmed
    exact ⟨task, hmem, hgeneration, clears_of_current hgeneration⟩
  · exact fun task _ hne => leavesAlone_of_ne workers hne

/-- A request, a shutdown before its worker wakes up, and a request after it: the flag is
set, the first worker is stale, and the second is not. -/
theorem flag_never_wedges_shutdown :
    let workers := (((queueDelayedFocusAndState {}).setShuttingDown true).setShuttingDown
      false).queueDelayedFocusAndState
    workers.state.focusDelayArmed = true ∧ workers.tasks = [.delayWorker 1, .delayWorker 3] ∧
    (workers.state.focusDelayArmed = true →
      ∃ task ∈ workers.tasks, task.generation = workers.state.focusDelayGeneration ∧
        workers.Clears task) ∧
    ∀ task ∈ workers.tasks, task.generation ≠ workers.state.focusDelayGeneration →
      workers.LeavesAlone task := by
  have hstart : system.Reachable {} := .of_init rfl
  have hstale := (hstart.step (.queueDelayedFocus _)).step (.setShuttingDown _ true)
  have hagain := (hstale.step (.setShuttingDown _ false)).step (.queueDelayedFocus _)
  exact ⟨rfl, rfl, flag_never_wedges hagain⟩

end Invariant

end Workers

end View

end CodexOfPower.PrismaUIManager
