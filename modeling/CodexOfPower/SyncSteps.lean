/-
# `CodexOfPower.SyncSteps` — what a step of the scheduler can do

What a task and what a request can do to the slots and the outstanding tasks is said
here once: a task of the current generation goes on, ends its run or defers it
(`runTask_outcome`), one of another generation does nothing (`runTask_of_ne`), and a
request marks a rerun, starts its worker or defers that (`requested_perform`).
-/
import CodexOfPower.SyncScheduler

namespace CodexOfPower.Rewards

open RE
open SyncRuntime (SyncSlot)

namespace Scheduler

variable {P F : Type}

/-! ## What a worker does with its slot -/

/-- Everything but the slot, the outstanding tasks and the game is as it was. -/
structure Frame (slot : SyncSlot) (before after : Scheduler P F) : Prop where
  generation : after.runtime.generation = before.runtime.generation
  restarts : after.restarts = before.restarts
  others : ∀ other, other ≠ slot → after.runtime.slots other = before.runtime.slots other ∧
    after.freshRuns other = before.freshRuns other
  freshRuns : before.freshRuns slot ≤ after.freshRuns slot

/-- A worker goes on with a task, is done, or leaves its run to the next request.  It is
done with its rerun flag set only where it is `lost`. -/
inductive Outcome (slot : SyncSlot) (lost : Prop) (before after : Scheduler P F) : Prop
  | queued (task : MainTask) (hslot : task.slot = slot)
      (hgeneration : task.generation = before.runtime.generation)
      (htasks : after.tasks = before.tasks ++ [task])
      (hscheduled : (after.runtime.slots slot).scheduled =
        (before.runtime.slots slot).scheduled)
      (hrerun : (after.runtime.slots slot).rerunRequested =
          (before.runtime.slots slot).rerunRequested ∨
        before.freshRuns slot < after.freshRuns slot)
  | completed (htasks : after.tasks = before.tasks) (hslot : after.runtime.slots slot = {})
      (hrerun : (before.runtime.slots slot).rerunRequested = false ∨ lost)
  | deferred (htasks : after.tasks = before.tasks)
      (hslot : after.runtime.slots slot = { rerunRequested := true })

section Moves

variable {slot : SyncSlot} {lost : Prop} {before after : Scheduler P F} {task : MainTask}

theorem Frame.of_set {state : SyncRuntime.SyncSlotState}
    (hruntime : after.runtime = before.runtime.set slot state)
    (hrestarts : after.restarts = before.restarts)
    (hothers : ∀ other, other ≠ slot → after.freshRuns other = before.freshRuns other)
    (hfresh : before.freshRuns slot ≤ after.freshRuns slot) : Frame slot before after where
  generation := by
    rw [hruntime]
    rfl
  restarts := hrestarts
  others other hother := by
    refine ⟨?_, hothers other hother⟩
    rw [hruntime]
    exact SyncRuntime.RuntimeState.slots_set_of_ne _ hother _
  freshRuns := hfresh

theorem runtime_complete (slot : SyncSlot) (before : Scheduler P F) :
    (before.complete slot before.runtime.generation).runtime = before.runtime.set slot {} :=
  SyncRuntime.RuntimeState.completeRun_current ..

theorem runtime_deferRerun (slot : SyncSlot) (before : Scheduler P F) :
    (before.deferRerun slot before.runtime.generation).runtime =
      before.runtime.set slot { rerunRequested := true } := by
  show (before.runtime.completeRun slot before.runtime.generation).markRerunRequested slot = _
  rw [SyncRuntime.RuntimeState.completeRun_current]
  show (before.runtime.set slot {}).set slot _ = _
  rw [SyncRuntime.RuntimeState.set_set, SyncRuntime.RuntimeState.slots_set_self]

theorem runtime_consumeRerun (slot : SyncSlot) (before : Scheduler P F) :
    (before.consumeRerun slot).runtime = before.runtime.set slot
      { scheduled := (before.runtime.slots slot).scheduled
        scheduledSinceMs := before.nowMs } := by
  have hconsumed : (before.runtime.consumeRerunRequested slot).slots slot =
      { before.runtime.slots slot with rerunRequested := false } :=
    SyncRuntime.RuntimeState.slots_set_self ..
  show (before.runtime.set slot _).set slot _ = _
  rw [SyncRuntime.RuntimeState.set_set, hconsumed]

/-- A worker of the current generation queues its next task. -/
theorem queued_outcome (hslot : task.slot = slot)
    (hgeneration : task.generation = before.runtime.generation) :
    Frame slot before (before.queue task) ∧ Outcome slot lost before (before.queue task) :=
  ⟨⟨rfl, rfl, fun _ _ => ⟨rfl, rfl⟩, Nat.le_refl _⟩,
    .queued task hslot hgeneration rfl rfl (.inl rfl)⟩

theorem completed_outcome
    (hrerun : (before.runtime.slots slot).rerunRequested = false ∨ lost) :
    Frame slot before (before.complete slot before.runtime.generation) ∧
      Outcome slot lost before (before.complete slot before.runtime.generation) := by
  refine ⟨.of_set (runtime_complete slot before) rfl (fun _ _ => rfl) (Nat.le_refl _),
    .completed rfl ?_ hrerun⟩
  rw [runtime_complete, SyncRuntime.RuntimeState.slots_set_self]

theorem deferred_outcome :
    Frame slot before (before.deferRerun slot before.runtime.generation) ∧
      Outcome slot lost before (before.deferRerun slot before.runtime.generation) := by
  refine ⟨.of_set (runtime_deferRerun slot before) rfl (fun _ _ => rfl) (Nat.le_refl _),
    .deferred rfl ?_⟩
  rw [runtime_deferRerun, SyncRuntime.RuntimeState.slots_set_self]

/-- The requested rerun is queued. -/
theorem rerun_outcome (hslot : task.slot = slot)
    (hgeneration : task.generation = before.runtime.generation) :
    Frame slot before ((before.consumeRerun slot).queueFresh task) ∧
      Outcome slot lost before ((before.consumeRerun slot).queueFresh task) := by
  have hfresh : ((before.consumeRerun slot).queueFresh task).freshRuns =
      Function.update before.freshRuns slot (before.freshRuns slot + 1) := by
    rw [← hslot]
    rfl
  have hruntime : ((before.consumeRerun slot).queueFresh task).runtime = _ :=
    runtime_consumeRerun slot before
  refine ⟨.of_set hruntime rfl (fun other hother => ?_) ?_, .queued task hslot hgeneration rfl ?_
    (.inr ?_)⟩
  · rw [hfresh, Function.update_of_ne hother]
  · rw [hfresh, Function.update_self]
    exact Nat.le_succ _
  · rw [hruntime, SyncRuntime.RuntimeState.slots_set_self]
  · rw [hfresh, Function.update_self]
    exact Nat.lt_succ_self _

/-- The requested rerun is deferred. -/
theorem rerun_deferred_outcome :
    Frame slot before ((before.consumeRerun slot).deferRerun slot before.runtime.generation) ∧
      Outcome slot lost before
        ((before.consumeRerun slot).deferRerun slot before.runtime.generation) := by
  have hgeneration : (before.consumeRerun slot).runtime.generation =
      before.runtime.generation := rfl
  have hruntime : ((before.consumeRerun slot).deferRerun slot
      before.runtime.generation).runtime =
      before.runtime.set slot { rerunRequested := true } := by
    rw [← hgeneration, runtime_deferRerun, runtime_consumeRerun,
      SyncRuntime.RuntimeState.set_set]
  refine ⟨.of_set hruntime rfl (fun _ _ => rfl) (Nat.le_refl _), .deferred rfl ?_⟩
  rw [hruntime, SyncRuntime.RuntimeState.slots_set_self]

end Moves

/-! ## The workers -/

section Workers

variable {before : Scheduler P F}

theorem completeCarryWeightQuickResync_outcome (acceptsRerun : Bool) (lost : Prop) :
    Frame .carryWeightQuickResync before
        (before.completeCarryWeightQuickResync acceptsRerun before.runtime.generation) ∧
      Outcome .carryWeightQuickResync lost before
        (before.completeCarryWeightQuickResync acceptsRerun before.runtime.generation) := by
  unfold completeCarryWeightQuickResync
  rw [if_neg (not_not.mpr rfl)]
  split_ifs with hrerun haccepts
  · exact rerun_outcome rfl rfl
  · exact rerun_deferred_outcome
  · exact completed_outcome (.inl (Bool.not_eq_true _ ▸ hrerun))

/-- What is said of the slots does not depend on the game. -/
theorem outcome_of_game {slot : SyncSlot} {lost : Prop} {after : Scheduler P F} (game : Game P F)
    (h : Frame slot { before with game } after ∧ Outcome slot lost { before with game } after) :
    Frame slot before after ∧ Outcome slot lost before after := by
  obtain ⟨hframe, houtcome⟩ := h
  refine ⟨⟨hframe.generation, hframe.restarts, hframe.others, hframe.freshRuns⟩, ?_⟩
  cases houtcome with
  | queued task hslot hgeneration htasks hscheduled hrerun =>
    exact .queued task hslot hgeneration htasks hscheduled hrerun
  | completed htasks hslot hrerun => exact .completed htasks hslot hrerun
  | deferred htasks hslot => exact .deferred htasks hslot

theorem finalizeRewardSyncRun_current (owner : ActorValueOwner P F)
    {passState : RewardSyncPassState} (h : passState.generation = before.runtime.generation) :
    before.finalizeRewardSyncRun owner passState =
      (before.finalizeGame owner passState).complete .rewardSync before.runtime.generation := by
  unfold finalizeRewardSyncRun
  rw [if_neg (not_not.mpr h), h]

/-- The end of a run that defers the next one. -/
theorem finalize_deferred_outcome (owner : ActorValueOwner P F) {lost : Prop}
    {passState : RewardSyncPassState} (h : passState.generation = before.runtime.generation) :
    Frame .rewardSync before
        { before.finalizeRewardSyncRun owner passState with
          runtime := (before.finalizeRewardSyncRun owner
            passState).runtime.markRerunRequested .rewardSync } ∧
      Outcome .rewardSync lost before
        { before.finalizeRewardSyncRun owner passState with
          runtime := (before.finalizeRewardSyncRun owner
            passState).runtime.markRerunRequested .rewardSync } := by
  rw [finalizeRewardSyncRun_current owner h]
  exact outcome_of_game (before.finalizeGame owner passState).game deferred_outcome

theorem endRewardSyncRun_outcome (owner : ActorValueOwner P F) (acceptsRerun : Bool)
    (lost : Prop) {passState : RewardSyncPassState}
    (h : passState.generation = before.runtime.generation) :
    Frame .rewardSync before (before.endRewardSyncRun owner acceptsRerun passState) ∧
      Outcome .rewardSync lost before
        (before.endRewardSyncRun owner acceptsRerun passState) := by
  unfold endRewardSyncRun
  dsimp only
  split_ifs with hrerun haccepts
  · exact rerun_outcome rfl h
  · have hconsumed : passState.generation = (before.consumeRerun .rewardSync).runtime.generation :=
      h
    rw [finalizeRewardSyncRun_current owner hconsumed]
    exact outcome_of_game (before.finalizeGame owner passState).game rerun_deferred_outcome
  · rw [finalizeRewardSyncRun_current owner h]
    exact outcome_of_game (before.finalizeGame owner passState).game
      (completed_outcome (.inl (Bool.eq_false_of_not_eq_true hrerun)))

/-- A task of the reward sync that ends without a pass: the game has not been ready for too
long, or the task cannot be queued again. -/
def givesUp (scheduler : Scheduler P F) (accepts : Bool) : MainTask → Bool
  | .runRewardSyncPasses passState _ =>
    passState.generation = scheduler.runtime.generation && !scheduler.ready &&
      ((waitedTooLong scheduler.nowMs passState.readinessDeadlineMs
        kRewardSyncReadinessTimeoutMs).1 || !accepts)
  | .runCarryWeightQuickResync _ => false

variable [FloatType F] (owner : ActorValueOwner P F)

theorem generation_prepareRewardSyncPass (passState : RewardSyncPassState) (game : Game P F) :
    (Engine.prepareRewardSyncPass owner passState game).1.generation = passState.generation := by
  unfold Engine.prepareRewardSyncPass Engine.migrateLegacyAttackDamageMultReward
  split_ifs with hfirst
  · rfl
  · cases game.rewardTotals.lookup .kAttackDamageMult with
    | none => rfl
    | some total =>
      dsimp only
      split_ifs <;> rfl

theorem generation_applyDue (migrating : Bool) (pass : Engine.Pass P) (av : ActorValue)
    (total delta : F) :
    (Engine.applyDue owner migrating pass av total delta).passState.generation =
      pass.passState.generation := by
  unfold Engine.applyDue
  cases Engine.shoutBounded owner pass.player av delta with
  | none => rfl
  | some delta =>
    dsimp only
    split_ifs
    · rfl
    · rfl

theorem generation_applyRewardSync (minMissingStreak : UInt32) (pass : Engine.Pass P)
    (entry : ActorValue × F) :
    (Engine.applyRewardSync owner minMissingStreak pass entry).passState.generation =
      pass.passState.generation := by
  unfold Engine.applyRewardSync
  dsimp only
  split
  · rfl
  · split
    · rfl
    · exact generation_applyDue owner _ _ _ _ _

theorem generation_applyRewardSyncPass (minMissingStreak : UInt32)
    (passState : RewardSyncPassState) (game : Game P F) :
    (Engine.applyRewardSyncPass owner minMissingStreak passState game).passState.generation =
      passState.generation := by
  have hfold : ∀ (entries : List (ActorValue × F)) (pass : Engine.Pass P),
      (entries.foldl (Engine.applyRewardSync owner minMissingStreak) pass).passState.generation =
        pass.passState.generation := by
    intro entries
    induction entries with
    | nil => exact fun _ => rfl
    | cons entry entries ih =>
      exact fun pass => (ih _).trans (generation_applyRewardSync owner minMissingStreak pass entry)
  exact hfold _ _

theorem runRewardSyncPasses_outcome (accepts acceptsRerun : Bool)
    {passState : RewardSyncPassState} (remainingPasses : UInt32)
    (h : passState.generation = before.runtime.generation) :
    Frame .rewardSync before
        (before.runRewardSyncPasses owner accepts acceptsRerun passState remainingPasses) ∧
      Outcome .rewardSync
        (before.givesUp accepts (.runRewardSyncPasses passState remainingPasses) = true) before
        (before.runRewardSyncPasses owner accepts acceptsRerun passState remainingPasses) := by
  unfold runRewardSyncPasses
  rw [if_neg (not_not.mpr h)]
  by_cases hready : before.ready = true
  · have hnot : ¬ (!before.ready) = true := by
      rw [hready]
      exact Bool.false_ne_true
    rw [if_neg hnot]
    have hprepared := (generation_prepareRewardSyncPass owner passState before.game).trans h
    have hpassed := (generation_applyRewardSyncPass owner kRewardSyncMinMissingStreak
      (Engine.prepareRewardSyncPass owner passState before.game).1
      (Engine.prepareRewardSyncPass owner passState before.game).2).trans hprepared
    refine outcome_of_game { (Engine.prepareRewardSyncPass owner passState before.game).2 with
      player := (Engine.applyRewardSyncPass owner kRewardSyncMinMissingStreak
        (Engine.prepareRewardSyncPass owner passState before.game).1
        (Engine.prepareRewardSyncPass owner passState before.game).2).player } ?_
    dsimp only
    split_ifs with hstop hlast haccepts
    · exact endRewardSyncRun_outcome owner acceptsRerun _ hpassed
    · exact endRewardSyncRun_outcome owner acceptsRerun _ hpassed
    · exact queued_outcome rfl hpassed
    · exact finalize_deferred_outcome owner hpassed
  · have hwaits : before.ready = false := Bool.eq_false_of_not_eq_true hready
    have hgivesUp : ((waitedTooLong before.nowMs passState.readinessDeadlineMs
        kRewardSyncReadinessTimeoutMs).1 || !accepts) = true →
        before.givesUp accepts (.runRewardSyncPasses passState remainingPasses) = true := by
      intro hvain
      simp only [givesUp, h, hwaits, hvain, decide_true, Bool.not_false, Bool.and_self]
    have hnot : (!before.ready) = true := by
      rw [hwaits]
      rfl
    rw [if_pos hnot]
    dsimp only
    split_ifs with hlate haccepts
    · rw [h]
      exact completed_outcome (.inr (hgivesUp (by rw [hlate, Bool.true_or])))
    · exact queued_outcome rfl h
    · rw [h]
      exact completed_outcome (.inr (hgivesUp (by
        rw [Bool.eq_false_of_not_eq_true haccepts, Bool.not_false, Bool.or_true])))

/-- A task that gives up is done, without a rerun. -/
theorem runRewardSyncPasses_of_givesUp {accepts : Bool} (acceptsRerun : Bool)
    {passState : RewardSyncPassState} {remainingPasses : UInt32}
    (h : before.givesUp accepts (.runRewardSyncPasses passState remainingPasses) = true) :
    before.runRewardSyncPasses owner accepts acceptsRerun passState remainingPasses =
      before.complete .rewardSync before.runtime.generation := by
  simp only [givesUp, Bool.and_eq_true, Bool.or_eq_true, decide_eq_true_eq] at h
  obtain ⟨⟨hcurrent, hwaits⟩, hvain⟩ := h
  unfold runRewardSyncPasses
  rw [if_neg (not_not.mpr hcurrent), if_pos hwaits, hcurrent]
  dsimp only
  split_ifs with hlate haccepts
  · rfl
  · rcases hvain with hlate' | hrefused
    · exact absurd hlate' hlate
    · rw [haccepts] at hrefused
      exact absurd hrefused Bool.false_ne_true
  · rfl

theorem runCarryWeightQuickResync_outcome (accepts acceptsRerun : Bool) (lost : Prop)
    {state : CarryWeightQuickResyncState} (h : state.generation = before.runtime.generation) :
    Frame .carryWeightQuickResync before
        (before.runCarryWeightQuickResync owner accepts acceptsRerun state) ∧
      Outcome .carryWeightQuickResync lost before
        (before.runCarryWeightQuickResync owner accepts acceptsRerun state) := by
  unfold runCarryWeightQuickResync
  rw [if_neg (not_not.mpr h)]
  refine outcome_of_game { before.game with
    player := (tryCarryWeightQuickResyncAttempt owner before.ready before.game).2 } ?_
  dsimp only
  cases (tryCarryWeightQuickResyncAttempt owner before.ready before.game).1 with
  | kDone =>
    rw [h]
    exact completeCarryWeightQuickResync_outcome acceptsRerun lost
  | kRetryWithoutAttemptConsume =>
    dsimp only
    split_ifs with hlate haccepts
    · rw [h]
      exact completeCarryWeightQuickResync_outcome acceptsRerun lost
    · exact queued_outcome rfl h
    · rw [h]
      exact completeCarryWeightQuickResync_outcome acceptsRerun lost
  | kRetryWithAttemptConsume =>
    dsimp only
    split_ifs with hattempts haccepts
    · rw [h]
      exact completeCarryWeightQuickResync_outcome acceptsRerun lost
    · exact queued_outcome rfl h
    · rw [h]
      exact deferred_outcome

/-- What a task of the current generation does. -/
theorem runTask_outcome (accepts acceptsRerun : Bool) {task : MainTask}
    (h : task.generation = before.runtime.generation) :
    Frame task.slot before (before.runTask owner accepts acceptsRerun task) ∧
      Outcome task.slot (before.givesUp accepts task = true) before
        (before.runTask owner accepts acceptsRerun task) := by
  cases task with
  | runRewardSyncPasses passState remainingPasses =>
    exact runRewardSyncPasses_outcome owner accepts acceptsRerun remainingPasses h
  | runCarryWeightQuickResync state =>
    exact runCarryWeightQuickResync_outcome owner accepts acceptsRerun _ h

/-- A task of another generation does nothing. -/
theorem runTask_of_ne (accepts acceptsRerun : Bool) {task : MainTask}
    (h : task.generation ≠ before.runtime.generation) :
    before.runTask owner accepts acceptsRerun task = before := by
  cases task with
  | runRewardSyncPasses passState remainingPasses => exact if_pos h
  | runCarryWeightQuickResync state => exact if_pos h

end Workers

/-! ## The requests -/

/-- A request of a scheduled worker marks a rerun; another starts it, or defers the start. -/
inductive Start (slot : SyncSlot) (before after : Scheduler P F) : Prop
  | marked (hscheduled : (before.runtime.slots slot).scheduled = true)
      (htasks : after.tasks = before.tasks)
      (hslot : after.runtime.slots slot =
        { before.runtime.slots slot with rerunRequested := true })
  | started (hfree : (before.runtime.slots slot).scheduled = false)
      (task : MainTask) (htask : task.slot = slot)
      (hgeneration : task.generation = before.runtime.generation)
      (htasks : after.tasks = before.tasks ++ [task])
      (hscheduled : (after.runtime.slots slot).scheduled = true)
      (hfresh : before.freshRuns slot < after.freshRuns slot)
  | deferred (hfree : (before.runtime.slots slot).scheduled = false)
      (htasks : after.tasks = before.tasks)
      (hslot : after.runtime.slots slot = { rerunRequested := true })

section Requests

variable {before : Scheduler P F}

theorem marked_start {slot : SyncSlot}
    (hscheduled : (before.runtime.slots slot).scheduled = true) :
    Frame slot before { before with runtime := before.runtime.markRerunRequested slot } ∧
      Start slot before { before with runtime := before.runtime.markRerunRequested slot } :=
  ⟨.of_set rfl rfl (fun _ _ => rfl) (Nat.le_refl _),
    .marked hscheduled rfl (SyncRuntime.RuntimeState.slots_set_self ..)⟩

def take (scheduler : Scheduler P F) (slot : SyncSlot) : Scheduler P F :=
  { scheduler with
    runtime := scheduler.runtime.set slot
      { scheduler.runtime.slots slot with
        scheduled := true
        scheduledSinceMs := scheduler.nowMs } }

theorem startRun_of_scheduled (accepts : Bool) {task : MainTask}
    (h : (before.runtime.slots task.slot).scheduled = true) :
    before.startRun accepts task =
      { before with runtime := before.runtime.markRerunRequested task.slot } := by
  unfold startRun SyncRuntime.RuntimeState.tryStartSyncSlot
  rw [if_pos h]
  rfl

theorem startRun_of_free (accepts : Bool) {task : MainTask}
    (h : (before.runtime.slots task.slot).scheduled = false) :
    before.startRun accepts task =
      if accepts then (before.take task.slot).queueFresh task
      else (before.take task.slot).deferRerun task.slot task.generation := by
  unfold startRun SyncRuntime.RuntimeState.tryStartSyncSlot
  rw [if_neg (by rw [h]; exact Bool.false_ne_true)]
  rfl

theorem startRun_start (accepts : Bool) {slot : SyncSlot} {task : MainTask}
    (hslot : task.slot = slot) (hgeneration : task.generation = before.runtime.generation) :
    Frame slot before (before.startRun accepts task) ∧
      Start slot before (before.startRun accepts task) := by
  subst hslot
  cases hscheduled : (before.runtime.slots task.slot).scheduled with
  | true =>
    rw [startRun_of_scheduled accepts hscheduled]
    exact marked_start hscheduled
  | false =>
    rw [startRun_of_free accepts hscheduled]
    split_ifs with haccepts
    · have hfresh : ((before.take task.slot).queueFresh task).freshRuns =
          Function.update before.freshRuns task.slot (before.freshRuns task.slot + 1) := rfl
      refine ⟨.of_set rfl rfl (fun other hother => ?_) ?_,
        .started hscheduled task rfl hgeneration rfl ?_ ?_⟩
      · rw [hfresh, Function.update_of_ne hother]
      · rw [hfresh, Function.update_self]
        exact Nat.le_succ _
      · show ((before.runtime.set _ _).slots task.slot).scheduled = true
        rw [SyncRuntime.RuntimeState.slots_set_self]
      · rw [hfresh, Function.update_self]
        exact Nat.lt_succ_self _
    · -- the slot is taken, and given back
      have hruntime : ((before.take task.slot).deferRerun task.slot task.generation).runtime =
          before.runtime.set task.slot { rerunRequested := true } := by
        rw [hgeneration]
        exact (runtime_deferRerun task.slot (before.take task.slot)).trans
          (SyncRuntime.RuntimeState.set_set ..)
      refine ⟨.of_set hruntime rfl (fun _ _ => rfl) (Nat.le_refl _), .deferred hscheduled rfl ?_⟩
      rw [hruntime, SyncRuntime.RuntimeState.slots_set_self]

/-- How long a worker may be scheduled. -/
def stuckMs : SyncSlot → UInt64
  | .rewardSync => kRewardSyncStuckMs
  | .carryWeightQuickResync => kCarryWeightQuickResyncStuckMs

def forceRestarts (scheduler : Scheduler P F) (slot : SyncSlot) : Bool :=
  scheduler.runtime.decideRequestAction slot scheduler.nowMs (stuckMs slot) =
    .kForceRestartAndStart

theorem scheduled_of_markRerun {slot : SyncSlot} {nowMs stuckMs : UInt64}
    (h : before.runtime.decideRequestAction slot nowMs stuckMs = .kMarkRerun) :
    (before.runtime.slots slot).scheduled = true := by
  unfold SyncRuntime.RuntimeState.decideRequestAction decideSyncRequestAction at h
  split_ifs at h with hfree hstuck
  simpa using hfree

/-- What a request for the slot does, after a restart where its worker is stuck. -/
def Requested (slot : SyncSlot) (before after : Scheduler P F) : Prop :=
  (before.forceRestarts slot = false ∧ Frame slot before after ∧ Start slot before after) ∨
    (before.forceRestarts slot = true ∧ Frame slot before.restart after ∧
      Start slot before.restart after)

theorem requested_scheduleCarryWeightQuickResync (accepts : Bool) :
    Requested .carryWeightQuickResync before (before.scheduleCarryWeightQuickResync accepts) := by
  have hstart : ∀ before : Scheduler P F, Frame .carryWeightQuickResync before
      (before.startCarryWeightQuickResync accepts) ∧ Start .carryWeightQuickResync before
      (before.startCarryWeightQuickResync accepts) := by
    intro before
    unfold startCarryWeightQuickResync
    exact startRun_start accepts rfl rfl
  unfold Requested scheduleCarryWeightQuickResync forceRestarts stuckMs
  cases before.runtime.decideRequestAction .carryWeightQuickResync before.nowMs
    kCarryWeightQuickResyncStuckMs with
  | kMarkRerun => exact .inl ⟨rfl, hstart before⟩
  | kForceRestartAndStart => exact .inr ⟨rfl, hstart before.restart⟩
  | kStartNewRun => exact .inl ⟨rfl, hstart before⟩

variable [FloatType F] (owner : ActorValueOwner P F)

omit owner in
theorem requested_syncRewardTotalsToPlayer (accepts : Bool) :
    Requested .rewardSync before (before.syncRewardTotalsToPlayer accepts) := by
  have hstart : ∀ before : Scheduler P F, Frame .rewardSync before
      (before.startRewardSync accepts) ∧ Start .rewardSync before
      (before.startRewardSync accepts) := by
    intro before
    unfold startRewardSync
    exact startRun_start accepts rfl rfl
  unfold Requested syncRewardTotalsToPlayer forceRestarts stuckMs
  cases haction : before.runtime.decideRequestAction .rewardSync before.nowMs
    kRewardSyncStuckMs with
  | kMarkRerun => exact .inl ⟨rfl, marked_start (scheduled_of_markRerun haction)⟩
  | kForceRestartAndStart => exact .inr ⟨rfl, hstart before.restart⟩
  | kStartNewRun => exact .inl ⟨rfl, hstart before⟩

theorem requested_perform {event : SyncEvent P F} {slot : SyncSlot}
    (h : event.requests = some slot) : Requested slot before (before.perform owner event) := by
  cases event with
  | syncRewardTotalsToPlayer accepts =>
    obtain rfl : SyncSlot.rewardSync = slot := Option.some.inj h
    exact requested_syncRewardTotalsToPlayer accepts
  | scheduleCarryWeightQuickResync accepts =>
    obtain rfl : SyncSlot.carryWeightQuickResync = slot := Option.some.inj h
    exact requested_scheduleCarryWeightQuickResync accepts
  | runTask index accepts acceptsRerun => cases h
  | resetSyncSchedulersForLoad => cases h
  | advanceClock elapsedMs => cases h
  | play game ready => cases h

end Requests

end Scheduler

end CodexOfPower.Rewards
