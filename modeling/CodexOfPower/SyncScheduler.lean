/-
# `CodexOfPower.SyncScheduler` — the workers of the reward sync

Two workers resync the player's rewards: the full sync and the quick resync of the
carry weight.  A worker is a main task that queues itself again until it is done.  Each
has a slot: whether it is scheduled and since when, and whether another run has been
requested meanwhile.  The slots share a generation; a task of another generation does
nothing.  A request that finds its worker stuck starts a new generation, for both.

A run is any order of requests, of the queued tasks, of resets at a load and of what the
game does in between.

## What is not said

What a pass does to the player is `CodexOfPower.RewardsSyncEngine`; the workers are the same
whatever it is.  The locks are taken to work: a step of a worker is one step here.
-/
import CodexOfPower.Lib.Transition
import CodexOfPower.RewardsSyncEngine

namespace CodexOfPower.Rewards

open RE

/-! ## The slots -/

inductive SyncRequestAction
  | kStartNewRun
  | kMarkRerun
  | kForceRestartAndStart
deriving DecidableEq

def decideSyncRequestAction (scheduled : Bool) (scheduledSinceMs nowMs stuckThresholdMs : UInt64) :
    SyncRequestAction :=
  if !scheduled then .kStartNewRun
  else if scheduledSinceMs ≤ nowMs ∧ stuckThresholdMs < nowMs - scheduledSinceMs then
    .kForceRestartAndStart
  else .kMarkRerun

namespace SyncRuntime

structure SyncSlotState where
  scheduled : Bool := false
  rerunRequested : Bool := false
  scheduledSinceMs : UInt64 := 0

/-- The slots of the runtime state. -/
inductive SyncSlot
  | rewardSync
  | carryWeightQuickResync
deriving DecidableEq

structure RuntimeState where
  slots : SyncSlot → SyncSlotState := fun _ => {}
  generation : UInt64 := 1

namespace RuntimeState

variable (runtime : RuntimeState) (slot : SyncSlot)

def set (state : SyncSlotState) : RuntimeState :=
  { runtime with slots := Function.update runtime.slots slot state }

@[simp] theorem generation_set (state : SyncSlotState) :
    (runtime.set slot state).generation = runtime.generation := rfl

@[simp] theorem slots_set_self (state : SyncSlotState) :
    (runtime.set slot state).slots slot = state := Function.update_self ..

theorem slots_set_of_ne {slot slot' : SyncSlot} (h : slot' ≠ slot) (state : SyncSlotState) :
    (runtime.set slot state).slots slot' = runtime.slots slot' := Function.update_of_ne h ..

@[simp] theorem set_set (state state' : SyncSlotState) :
    (runtime.set slot state).set slot state' = runtime.set slot state' :=
  congrArg (fun slots => { runtime with slots }) (Function.update_idem ..)

def clearSyncSlot : RuntimeState := runtime.set slot {}

def decideRequestAction (nowMs stuckMs : UInt64) : SyncRequestAction :=
  decideSyncRequestAction (runtime.slots slot).scheduled (runtime.slots slot).scheduledSinceMs
    nowMs stuckMs

def markRerunRequested : RuntimeState :=
  runtime.set slot { runtime.slots slot with rerunRequested := true }

/-- The runtime after `ConsumeRerunRequested`; the flag itself is read by the callers. -/
def consumeRerunRequested : RuntimeState :=
  runtime.set slot { runtime.slots slot with rerunRequested := false }

/-- Whether the slot was free, and the runtime after the attempt. -/
def tryStartSyncSlot (nowMs : UInt64) : Bool × RuntimeState :=
  if (runtime.slots slot).scheduled then (false, runtime.markRerunRequested slot)
  else
    (true, runtime.set slot
      { runtime.slots slot with scheduled := true, scheduledSinceMs := nowMs })

def touchScheduledSince (nowMs : UInt64) : RuntimeState :=
  runtime.set slot { runtime.slots slot with scheduledSinceMs := nowMs }

/-- `CompleteRewardSyncRun` and `CompleteCarryWeightQuickResyncRun` -/
def completeRun (generation : UInt64) : RuntimeState :=
  if generation ≠ runtime.generation then runtime else runtime.clearSyncSlot slot

theorem completeRun_current : runtime.completeRun slot runtime.generation = runtime.set slot {} :=
  if_neg (not_not.mpr rfl)

def bumpGenerationAndClearSchedulers : RuntimeState where
  slots := fun _ => {}
  generation := runtime.generation + 1

end RuntimeState

end SyncRuntime

open SyncRuntime (SyncSlot)

/-! ## The tasks -/

def kRewardSyncPassCount : UInt32 := 180
def kRewardSyncMinMissingStreak : UInt32 := 3
def kRewardSyncStuckMs : UInt64 := 15000
def kCarryWeightQuickResyncMaxAttempts : UInt32 := 3
def kCarryWeightQuickResyncStuckMs : UInt64 := 3000
def kRewardSyncReadinessTimeoutMs : UInt64 := 20000
def kCarryWeightQuickResyncReadinessTimeoutMs : UInt64 := 10000

structure CarryWeightQuickResyncState where
  attempt : UInt32 := 0
  generation : UInt64 := 0
  readinessDeadlineMs : UInt64 := 0

/-- A queued main task of a worker. -/
inductive MainTask
  | runRewardSyncPasses (passState : RewardSyncPassState) (remainingPasses : UInt32)
  | runCarryWeightQuickResync (state : CarryWeightQuickResyncState)

/-- The worker it is a task of. -/
def MainTask.slot : MainTask → SyncSlot
  | runRewardSyncPasses _ _ => .rewardSync
  | runCarryWeightQuickResync _ => .carryWeightQuickResync

def MainTask.generation : MainTask → UInt64
  | runRewardSyncPasses passState _ => passState.generation
  | runCarryWeightQuickResync state => state.generation

/-- The runtime, the outstanding tasks, the clock and the game.  Two counts are kept for
the reader only: the fresh runs that were queued, and the generations. -/
structure Scheduler (P F : Type) where
  runtime : SyncRuntime.RuntimeState := {}
  tasks : List MainTask := []
  nowMs : UInt64 := 0
  game : Game P F
  /-- `IsRewardSyncEnvironmentReady` -/
  ready : Bool := false
  freshRuns : SyncSlot → Nat := fun _ => 0
  restarts : Nat := 0

namespace Scheduler

section Queue

variable {P F : Type} (scheduler : Scheduler P F)

/-- `QueueMainTask`, where the scheduler takes the task. -/
def queue (task : MainTask) : Scheduler P F :=
  { scheduler with tasks := scheduler.tasks ++ [task] }

def dequeue (index : Nat) : Scheduler P F :=
  { scheduler with tasks := scheduler.tasks.eraseIdx index }

/-- A fresh run of a worker is queued. -/
def queueFresh (task : MainTask) : Scheduler P F :=
  { scheduler.queue task with
    freshRuns := Function.update scheduler.freshRuns task.slot
      (scheduler.freshRuns task.slot + 1) }

def complete (slot : SyncSlot) (generation : UInt64) : Scheduler P F :=
  { scheduler with runtime := scheduler.runtime.completeRun slot generation }

/-- No run could be queued; the next request starts one that another follows. -/
def deferRerun (slot : SyncSlot) (generation : UInt64) : Scheduler P F :=
  { scheduler with
    runtime := (scheduler.runtime.completeRun slot generation).markRerunRequested slot }

/-- The rerun flag is consumed, and the slot is scheduled from now. -/
def consumeRerun (slot : SyncSlot) : Scheduler P F :=
  { scheduler with
    runtime := (scheduler.runtime.consumeRerunRequested slot).touchScheduledSince slot
      scheduler.nowMs }

def restart : Scheduler P F :=
  { scheduler with
    runtime := scheduler.runtime.bumpGenerationAndClearSchedulers
    restarts := scheduler.restarts + 1 }

/-- A request that starts its worker: the slot is taken and the first task queued. -/
def startRun (accepts : Bool) (task : MainTask) : Scheduler P F :=
  let (started, runtime) := scheduler.runtime.tryStartSyncSlot task.slot scheduler.nowMs
  let scheduler := { scheduler with runtime }
  if !started then scheduler
  else if accepts then scheduler.queueFresh task
  else scheduler.deferRerun task.slot task.generation

end Queue

variable {P F : Type} [FloatType F] (owner : ActorValueOwner P F) (scheduler : Scheduler P F)

/-! ## The requests -/

def startRewardSync (accepts : Bool) : Scheduler P F :=
  scheduler.startRun accepts (.runRewardSyncPasses
    { generation := scheduler.runtime.generation
      weaponAbilityRefreshRequested :=
        kRewardCapEpsilon < FloatType.abs (Engine.snapshotRewardTotalForActorValue
          scheduler.game.rewardTotals .kAttackDamageMult) }
    kRewardSyncPassCount)

def syncRewardTotalsToPlayer (accepts : Bool) : Scheduler P F :=
  match scheduler.runtime.decideRequestAction .rewardSync scheduler.nowMs kRewardSyncStuckMs with
  | .kMarkRerun => { scheduler with runtime := scheduler.runtime.markRerunRequested .rewardSync }
  | .kForceRestartAndStart => scheduler.restart.startRewardSync accepts
  | .kStartNewRun => scheduler.startRewardSync accepts

omit [FloatType F] in
def startCarryWeightQuickResync (accepts : Bool) : Scheduler P F :=
  scheduler.startRun accepts
    (.runCarryWeightQuickResync { generation := scheduler.runtime.generation })

omit [FloatType F] in
/-- Where the worker is scheduled, the attempt to start it requests a rerun. -/
def scheduleCarryWeightQuickResync (accepts : Bool) : Scheduler P F :=
  match scheduler.runtime.decideRequestAction .carryWeightQuickResync scheduler.nowMs
    kCarryWeightQuickResyncStuckMs with
  | .kForceRestartAndStart => scheduler.restart.startCarryWeightQuickResync accepts
  | .kMarkRerun | .kStartNewRun => scheduler.startCarryWeightQuickResync accepts

/-! ## The workers -/

omit [FloatType F] in
def completeCarryWeightQuickResync (acceptsRerun : Bool) (generation : UInt64) :
    Scheduler P F :=
  if generation ≠ scheduler.runtime.generation then scheduler
  else if (scheduler.runtime.slots .carryWeightQuickResync).rerunRequested then
    let scheduler := scheduler.consumeRerun .carryWeightQuickResync
    if acceptsRerun then scheduler.queueFresh (.runCarryWeightQuickResync { generation })
    else scheduler.deferRerun .carryWeightQuickResync generation
  else scheduler.complete .carryWeightQuickResync generation

/-- Whether the wait for the game has been too long, and the deadline it is measured by. -/
def waitedTooLong (nowMs readinessDeadlineMs timeoutMs : UInt64) : Bool × UInt64 :=
  let deadline := if readinessDeadlineMs = 0 then nowMs + timeoutMs else readinessDeadlineMs
  (deadline ≤ nowMs, deadline)

/-- `accepts` answers the task's own continuation, `acceptsRerun` a rerun. -/
def runCarryWeightQuickResync (accepts acceptsRerun : Bool)
    (state : CarryWeightQuickResyncState) : Scheduler P F :=
  if state.generation ≠ scheduler.runtime.generation then scheduler
  else
    let (result, player) := tryCarryWeightQuickResyncAttempt owner scheduler.ready scheduler.game
    let scheduler := { scheduler with game := { scheduler.game with player } }
    match result with
    | .kDone => scheduler.completeCarryWeightQuickResync acceptsRerun state.generation
    | .kRetryWithoutAttemptConsume =>
      let (tooLong, deadline) := waitedTooLong scheduler.nowMs state.readinessDeadlineMs
        kCarryWeightQuickResyncReadinessTimeoutMs
      if tooLong then scheduler.completeCarryWeightQuickResync acceptsRerun state.generation
      else if accepts then
        scheduler.queue (.runCarryWeightQuickResync { state with readinessDeadlineMs := deadline })
      else scheduler.completeCarryWeightQuickResync acceptsRerun state.generation
    | .kRetryWithAttemptConsume =>
      let state := { state with attempt := state.attempt + 1 }
      if kCarryWeightQuickResyncMaxAttempts ≤ state.attempt then
        scheduler.completeCarryWeightQuickResync acceptsRerun state.generation
      else if accepts then scheduler.queue (.runCarryWeightQuickResync state)
      else scheduler.deferRerun .carryWeightQuickResync state.generation

/-- What the end of a run leaves of the player. -/
def finalizeGame (passState : RewardSyncPassState) : Scheduler P F :=
  { scheduler with
    game := { scheduler.game with
      player := Engine.finalizeRewardSyncPass owner passState scheduler.game.player } }

def finalizeRewardSyncRun (passState : RewardSyncPassState) : Scheduler P F :=
  if passState.generation ≠ scheduler.runtime.generation then scheduler
  else (scheduler.finalizeGame owner passState).complete .rewardSync passState.generation

/-- The end of a run: the requested rerun, or none. -/
def endRewardSyncRun (acceptsRerun : Bool) (passState : RewardSyncPassState) : Scheduler P F :=
  if (scheduler.runtime.slots .rewardSync).rerunRequested then
    let scheduler := scheduler.consumeRerun .rewardSync
    if acceptsRerun then
      scheduler.queueFresh (.runRewardSyncPasses
        { weaponAbilityRefreshRequested := passState.weaponAbilityRefreshRequested
          generation := passState.generation }
        kRewardSyncPassCount)
    else
      let scheduler := scheduler.finalizeRewardSyncRun owner passState
      { scheduler with runtime := scheduler.runtime.markRerunRequested .rewardSync }
  else scheduler.finalizeRewardSyncRun owner passState

def runRewardSyncPasses (accepts acceptsRerun : Bool) (passState : RewardSyncPassState)
    (remainingPasses : UInt32) : Scheduler P F :=
  if passState.generation ≠ scheduler.runtime.generation then scheduler
  else if !scheduler.ready then
    let (tooLong, deadline) := waitedTooLong scheduler.nowMs passState.readinessDeadlineMs
      kRewardSyncReadinessTimeoutMs
    if tooLong then scheduler.complete .rewardSync passState.generation
    else if accepts then
      scheduler.queue (.runRewardSyncPasses
        { passState with readinessDeadlineMs := deadline } remainingPasses)
    else scheduler.complete .rewardSync passState.generation
  else
    let (passState, game) := Engine.prepareRewardSyncPass owner passState scheduler.game
    let pass := Engine.applyRewardSyncPass owner kRewardSyncMinMissingStreak passState game
    let passState := pass.passState
    let scheduler := { scheduler with game := { game with player := pass.player } }
    if shouldStopSyncAfterPass pass.result.correctedCount pass.result.pendingCount then
      scheduler.endRewardSyncRun owner acceptsRerun passState
    else if remainingPasses ≤ 1 then scheduler.endRewardSyncRun owner acceptsRerun passState
    else if accepts then
      scheduler.queue (.runRewardSyncPasses passState (remainingPasses - 1))
    else
      let scheduler := scheduler.finalizeRewardSyncRun owner passState
      { scheduler with runtime := scheduler.runtime.markRerunRequested .rewardSync }

def runTask (accepts acceptsRerun : Bool) : MainTask → Scheduler P F
  | .runRewardSyncPasses passState remainingPasses =>
    scheduler.runRewardSyncPasses owner accepts acceptsRerun passState remainingPasses
  | .runCarryWeightQuickResync state =>
    scheduler.runCarryWeightQuickResync owner accepts acceptsRerun state

end Scheduler

/-! ## Runs -/

/-- The answers are those of `QueueMainTask`. -/
inductive SyncEvent (P F : Type)
  | syncRewardTotalsToPlayer (accepts : Bool)
  | scheduleCarryWeightQuickResync (accepts : Bool)
  /-- Some outstanding task is run. -/
  | runTask (index : Nat) (accepts acceptsRerun : Bool)
  | resetSyncSchedulersForLoad
  | advanceClock (elapsedMs : UInt64)
  /-- Whatever else happens in the game. -/
  | play (game : Game P F) (ready : Bool)

/-- The worker a request is for. -/
def SyncEvent.requests {P F : Type} : SyncEvent P F → Option SyncSlot
  | syncRewardTotalsToPlayer _ => some .rewardSync
  | scheduleCarryWeightQuickResync _ => some .carryWeightQuickResync
  | _ => none

namespace Scheduler

variable {P F : Type} [FloatType F] (owner : ActorValueOwner P F)

def perform (scheduler : Scheduler P F) : SyncEvent P F → Scheduler P F
  | .syncRewardTotalsToPlayer accepts => scheduler.syncRewardTotalsToPlayer accepts
  | .scheduleCarryWeightQuickResync accepts => scheduler.scheduleCarryWeightQuickResync accepts
  | .runTask index accepts acceptsRerun =>
    match scheduler.tasks[index]? with
    | none => scheduler
    | some task => (scheduler.dequeue index).runTask owner accepts acceptsRerun task
  | .resetSyncSchedulersForLoad => scheduler.restart
  | .advanceClock elapsedMs => { scheduler with nowMs := scheduler.nowMs + elapsedMs }
  | .play game ready => { scheduler with game, ready }

theorem perform_runTask_none {scheduler : Scheduler P F} {index : Nat}
    (h : scheduler.tasks[index]? = none) (accepts acceptsRerun : Bool) :
    scheduler.perform owner (.runTask index accepts acceptsRerun) = scheduler := by
  simp only [perform, h]

theorem perform_runTask_some {scheduler : Scheduler P F} {index : Nat} {task : MainTask}
    (h : scheduler.tasks[index]? = some task) (accepts acceptsRerun : Bool) :
    scheduler.perform owner (.runTask index accepts acceptsRerun) =
      (scheduler.dequeue index).runTask owner accepts acceptsRerun task := by
  simp only [perform, h]

/-- Runs start with nothing scheduled, and take the allowed steps. -/
def system (allowed : Scheduler P F → SyncEvent P F → Prop) :
    TransitionSystem (Scheduler P F) where
  init scheduler := ∃ nowMs game ready, scheduler = { nowMs, game, ready }
  step scheduler scheduler' :=
    ∃ event, allowed scheduler event ∧ scheduler' = scheduler.perform owner event

end Scheduler

end CodexOfPower.Rewards
