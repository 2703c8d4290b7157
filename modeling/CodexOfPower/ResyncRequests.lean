/-
# `CodexOfPower.ResyncRequests` — requests that a worker is to run again

A request that arrives while its worker is scheduled is remembered in the slot's rerun
flag, for the worker to run again.  Two steps forget it: a request for the other slot
that finds that worker stuck and restarts both (it starts a run for its own slot only),
and a reward sync that gives up waiting for the game and clears its slot, flag and all.
In runs without these, a recorded request stays recorded until a fresh run of its slot is
queued (`request_recorded`).

## What is not said

That the fresh run is carried out is up to the main thread.  A load reset clears every flag
on purpose, and is left out of the runs; the two other steps are not, and each of them is
shown to lose a request (`forgotten_of_forgets`).
-/
import CodexOfPower.SyncSlots

namespace CodexOfPower.Rewards

open RE
open SyncRuntime (SyncSlot)

namespace Scheduler

variable {P F : Type} {slot : SyncSlot} {before after : Scheduler P F}

/-- A rerun of the worker is recorded. -/
def rerunRequested (scheduler : Scheduler P F) (slot : SyncSlot) : Bool :=
  (scheduler.runtime.slots slot).rerunRequested

/-- A request that was recorded is recorded still, or a fresh run has been queued. -/
def Recorded (slot : SyncSlot) (since now : Scheduler P F) : Prop :=
  now.rerunRequested slot = true ∨ since.freshRuns slot < now.freshRuns slot

/-! ## The steps that forget a request -/

/-- The slot that a restart for the other clears. -/
def otherSlot : SyncSlot → SyncSlot
  | .rewardSync => .carryWeightQuickResync
  | .carryWeightQuickResync => .rewardSync

theorem eq_otherSlot {other : SyncSlot} (h : other ≠ slot) : other = otherSlot slot := by
  cases other with
  | rewardSync =>
    cases slot with
    | rewardSync => exact absurd rfl h
    | carryWeightQuickResync => rfl
  | carryWeightQuickResync =>
    cases slot with
    | rewardSync => rfl
    | carryWeightQuickResync => exact absurd rfl h

theorem otherSlot_ne (slot : SyncSlot) : otherSlot slot ≠ slot := by
  cases slot with
  | rewardSync => nofun
  | carryWeightQuickResync => nofun

/-- A request restarts a stuck worker while the other slot has one recorded. -/
def restartForgets (scheduler : Scheduler P F) (slot : SyncSlot) : Bool :=
  scheduler.forceRestarts slot && scheduler.rerunRequested (otherSlot slot)

/-- A reward sync that gives up while a request for it is recorded. -/
def givingUpForgets (scheduler : Scheduler P F) (accepts : Bool) (task : MainTask) : Bool :=
  scheduler.givesUp accepts task && scheduler.rerunRequested .rewardSync

def forgets (scheduler : Scheduler P F) : SyncEvent P F → Bool
  | .syncRewardTotalsToPlayer _ => scheduler.restartForgets .rewardSync
  | .scheduleCarryWeightQuickResync _ => scheduler.restartForgets .carryWeightQuickResync
  | .runTask index accepts _ =>
    (scheduler.tasks[index]?).any (scheduler.givingUpForgets accepts)
  | .resetSyncSchedulersForLoad | .advanceClock _ | .play _ _ => false

/-! ## One step -/

/-- Nothing but a start or a restart lowers a count of fresh runs. -/
theorem Frame.freshRuns_le (h : Frame slot before after) (other : SyncSlot) :
    before.freshRuns other ≤ after.freshRuns other := by
  by_cases hother : other = slot
  · rw [hother]
    exact h.freshRuns
  · exact (h.others other hother).2.ge

theorem recorded_of_start {other : SyncSlot} (hframe : Frame slot before after)
    (hstart : Start slot before after) (h : before.rerunRequested other = true) :
    Recorded other before after := by
  by_cases hother : other = slot
  · rw [hother]
    cases hstart with
    | marked hscheduled htasks hslot => exact .inl (by rw [rerunRequested, hslot])
    | started hfree task htask hgeneration htasks hscheduled hfresh => exact .inr hfresh
    | deferred hfree htasks hslot => exact .inl (by rw [rerunRequested, hslot])
  · refine .inl ?_
    rw [rerunRequested, (hframe.others other hother).1]
    exact h

/-- A request of a free slot starts it or is recorded. -/
theorem recorded_of_free (hstart : Start slot before after)
    (hfree : (before.runtime.slots slot).scheduled = false) : Recorded slot before after := by
  cases hstart with
  | marked hscheduled => exact absurd (hfree.symm.trans hscheduled) Bool.false_ne_true
  | started hfree task htask hgeneration htasks hscheduled hfresh => exact .inr hfresh
  | deferred hfree htasks hslot => exact .inl (by rw [rerunRequested, hslot])

theorem recorded_of_restart (hstart : Start slot before.restart after) :
    Recorded slot before after := by
  have hrestarted : Recorded slot before.restart after := recorded_of_free hstart rfl
  exact hrestarted

theorem recorded_of_requested {other : SyncSlot} (hrequested : Requested slot before after)
    (hforgets : before.restartForgets slot = false) (h : before.rerunRequested other = true) :
    Recorded other before after := by
  rcases hrequested with ⟨-, hframe, hstart⟩ | ⟨hforced, hframe, hstart⟩
  · exact recorded_of_start hframe hstart h
  · have hnone : before.rerunRequested (otherSlot slot) = false := by
      rw [restartForgets, hforced, Bool.true_and] at hforgets
      exact hforgets
    by_cases hother : other = slot
    · rw [hother]
      exact recorded_of_restart hstart
    · rw [eq_otherSlot hother, hnone] at h
      exact absurd h Bool.false_ne_true

theorem recorded_of_outcome {lost : Prop} {other : SyncSlot} (hframe : Frame slot before after)
    (houtcome : Outcome slot lost before after)
    (hlost : ¬ (lost ∧ before.rerunRequested slot = true))
    (h : before.rerunRequested other = true) : Recorded other before after := by
  by_cases hother : other = slot
  · rw [hother] at h ⊢
    cases houtcome with
    | queued task hslot hgeneration htasks hscheduled hrerun =>
      rcases hrerun with hsame | hfresh
      · exact .inl (hsame.trans h)
      · exact .inr hfresh
    | completed htasks hslot hrerun =>
      rcases hrerun with hnone | hlost'
      · exact absurd (hnone.symm.trans h) Bool.false_ne_true
      · exact absurd ⟨hlost', h⟩ hlost
    | deferred htasks hslot => exact .inl (by rw [rerunRequested, hslot])
  · refine .inl ?_
    rw [rerunRequested, (hframe.others other hother).1]
    exact h

section Perform

variable [FloatType F] (owner : ActorValueOwner P F) {event : SyncEvent P F}

omit [FloatType F] in
theorem slot_of_givesUp {accepts : Bool} {task : MainTask}
    (h : before.givesUp accepts task = true) : task.slot = .rewardSync := by
  cases task with
  | runRewardSyncPasses passState remainingPasses => rfl
  | runCarryWeightQuickResync state => exact absurd h Bool.false_ne_true

/-- A step that is no reset, and none of the two that forget, keeps what is recorded. -/
theorem recorded_perform (hreset : event ≠ .resetSyncSchedulersForLoad)
    (hforgets : before.forgets event = false) (h : before.rerunRequested slot = true) :
    Recorded slot before (before.perform owner event) := by
  cases event with
  | syncRewardTotalsToPlayer accepts =>
    exact recorded_of_requested (requested_syncRewardTotalsToPlayer accepts) hforgets h
  | scheduleCarryWeightQuickResync accepts =>
    exact recorded_of_requested (requested_scheduleCarryWeightQuickResync accepts) hforgets h
  | runTask index accepts acceptsRerun =>
    cases htask : before.tasks[index]? with
    | none =>
      rw [perform_runTask_none owner htask]
      exact .inl h
    | some task =>
      have hkeeps : before.givingUpForgets accepts task = false := by
        have hany : (before.tasks[index]?).any (before.givingUpForgets accepts) = false :=
          hforgets
        rw [htask] at hany
        exact hany
      rw [perform_runTask_some owner htask]
      by_cases hcurrent : task.generation = (before.dequeue index).runtime.generation
      · obtain ⟨hframe, houtcome⟩ := runTask_outcome owner accepts acceptsRerun hcurrent
        have hkept : ¬ (((before.dequeue index).givesUp accepts task = true) ∧
            (before.dequeue index).rerunRequested task.slot = true) := by
          rintro ⟨hgivesUp, hrecorded⟩
          rw [slot_of_givesUp hgivesUp] at hrecorded
          exact Bool.false_ne_true (hkeeps.symm.trans (Bool.and_eq_true_iff.mpr
            ⟨hgivesUp, hrecorded⟩))
        have hrecorded : Recorded slot (before.dequeue index) _ :=
          recorded_of_outcome hframe houtcome hkept h
        exact hrecorded
      · rw [runTask_of_ne owner accepts acceptsRerun hcurrent]
        exact .inl h
  | resetSyncSchedulersForLoad => exact absurd rfl hreset
  | advanceClock elapsedMs => exact .inl h
  | play game ready => exact .inl h

/-- The counts of fresh runs only grow. -/
theorem freshRuns_le_perform (before : Scheduler P F) (event : SyncEvent P F)
    (slot : SyncSlot) : before.freshRuns slot ≤ (before.perform owner event).freshRuns slot := by
  have hrequested : ∀ {asked : SyncSlot} {after : Scheduler P F}, Requested asked before after →
      before.freshRuns slot ≤ after.freshRuns slot := by
    intro asked after h
    rcases h with ⟨-, hframe, -⟩ | ⟨-, hframe, -⟩
    · exact hframe.freshRuns_le slot
    · exact hframe.freshRuns_le slot
  cases event with
  | syncRewardTotalsToPlayer accepts =>
    exact hrequested (requested_syncRewardTotalsToPlayer accepts)
  | scheduleCarryWeightQuickResync accepts =>
    exact hrequested (requested_scheduleCarryWeightQuickResync accepts)
  | runTask index accepts acceptsRerun =>
    cases htask : before.tasks[index]? with
    | none => rw [perform_runTask_none owner htask]
    | some task =>
      rw [perform_runTask_some owner htask]
      by_cases hcurrent : task.generation = (before.dequeue index).runtime.generation
      · exact (runTask_outcome owner accepts acceptsRerun hcurrent).1.freshRuns_le slot
      · rw [runTask_of_ne owner accepts acceptsRerun hcurrent]
        exact Nat.le_refl _
  | resetSyncSchedulersForLoad => exact Nat.le_refl _
  | advanceClock elapsedMs => exact Nat.le_refl _
  | play game ready => exact Nat.le_refl _

/-! ## Every run -/

/-- The steps of a run without load resets. -/
def noReset (_ : Scheduler P F) (event : SyncEvent P F) : Prop :=
  event ≠ .resetSyncSchedulersForLoad

/-- The steps of a run without load resets, of which none forgets a request. -/
def forgetsNothing (scheduler : Scheduler P F) (event : SyncEvent P F) : Prop :=
  event ≠ .resetSyncSchedulersForLoad ∧ scheduler.forgets event = false

theorem recorded_run {since : Scheduler P F} (h : Recorded slot since before)
    (hsince : since.freshRuns slot ≤ before.freshRuns slot)
    (hrun : Relation.ReflTransGen (system owner forgetsNothing).step before after) :
    Recorded slot since after ∧ since.freshRuns slot ≤ after.freshRuns slot := by
  induction hrun with
  | refl => exact ⟨h, hsince⟩
  | tail hrun hstep ih =>
    obtain ⟨event, ⟨hreset, hforgets⟩, rfl⟩ := hstep
    obtain ⟨hrecorded | hfresh, hle⟩ := ih
    · refine ⟨?_, hle.trans (freshRuns_le_perform owner _ event slot)⟩
      rcases recorded_perform owner hreset hforgets hrecorded with hkept | hnew
      · exact .inl hkept
      · exact .inr (hle.trans_lt hnew)
    · have hnow := hfresh.trans_le (freshRuns_le_perform owner _ event slot)
      exact ⟨.inr hnow, hnow.le⟩

theorem recorded_of_request (hrequest : event.requests = some slot)
    (hscheduled : (before.runtime.slots slot).scheduled = true) :
    Recorded slot before (before.perform owner event) := by
  rcases requested_perform owner hrequest with ⟨-, -, hstart⟩ | ⟨-, -, hstart⟩
  · cases hstart with
    | marked hscheduled htasks hslot => exact .inl (by rw [rerunRequested, hslot])
    | started hfree => exact absurd (hfree.symm.trans hscheduled) Bool.false_ne_true
    | deferred hfree => exact absurd (hfree.symm.trans hscheduled) Bool.false_ne_true
  · exact recorded_of_restart hstart

/-- A request that arrives while its worker is scheduled stays recorded until a fresh run of
the worker is queued, in every run whose steps forget nothing. -/
theorem request_recorded (hrequest : event.requests = some slot)
    (hscheduled : (before.runtime.slots slot).scheduled = true)
    (hrun : Relation.ReflTransGen (system owner forgetsNothing).step
      (before.perform owner event) after) :
    after.rerunRequested slot = true ∨ before.freshRuns slot < after.freshRuns slot :=
  (recorded_run owner (recorded_of_request owner hrequest hscheduled)
    (freshRuns_le_perform owner before event slot) hrun).1

/-- The condition is exact: a step that forgets clears the flag of a recorded request, and
queues no fresh run for it. -/
theorem forgotten_of_forgets (h : before.forgets event = true) :
    ∃ slot, before.rerunRequested slot = true ∧
      (before.perform owner event).rerunRequested slot = false ∧
      (before.perform owner event).freshRuns slot = before.freshRuns slot := by
  have hrestart : ∀ {slot : SyncSlot}, event.requests = some slot →
      before.restartForgets slot = true → ∃ slot, before.rerunRequested slot = true ∧
        (before.perform owner event).rerunRequested slot = false ∧
        (before.perform owner event).freshRuns slot = before.freshRuns slot := by
    intro slot hrequest hforgets
    obtain ⟨hforced, hrecorded⟩ := Bool.and_eq_true_iff.mp hforgets
    rcases requested_perform owner hrequest with ⟨hnot, -, -⟩ | ⟨-, hframe, -⟩
    · exact absurd (hnot.symm.trans hforced) Bool.false_ne_true
    · obtain ⟨hslots, hfresh⟩ := hframe.others _ (otherSlot_ne slot)
      refine ⟨otherSlot slot, hrecorded, ?_, hfresh⟩
      rw [rerunRequested, hslots]
      rfl
  cases event with
  | syncRewardTotalsToPlayer accepts => exact hrestart rfl h
  | scheduleCarryWeightQuickResync accepts => exact hrestart rfl h
  | runTask index accepts acceptsRerun =>
    have hany : (before.tasks[index]?).any (before.givingUpForgets accepts) = true := h
    cases htask : before.tasks[index]? with
    | none =>
      rw [htask] at hany
      exact absurd hany Bool.false_ne_true
    | some task =>
      rw [htask] at hany
      obtain ⟨hgivesUp, hrecorded⟩ := Bool.and_eq_true_iff.mp hany
      rw [perform_runTask_some owner htask]
      cases task with
      | runCarryWeightQuickResync state => exact absurd hgivesUp Bool.false_ne_true
      | runRewardSyncPasses passState remainingPasses =>
        have hgivenUp : (before.dequeue index).runTask owner accepts acceptsRerun
            (.runRewardSyncPasses passState remainingPasses) =
              (before.dequeue index).complete .rewardSync
                (before.dequeue index).runtime.generation :=
          runRewardSyncPasses_of_givesUp owner acceptsRerun hgivesUp
        have hruntime := runtime_complete .rewardSync (before.dequeue index)
        rw [hgivenUp]
        refine ⟨.rewardSync, hrecorded, ?_, rfl⟩
        rw [rerunRequested, hruntime, SyncRuntime.RuntimeState.slots_set_self]
  | resetSyncSchedulersForLoad => exact absurd h Bool.false_ne_true
  | advanceClock elapsedMs => exact absurd h Bool.false_ne_true
  | play game ready => exact absurd h Bool.false_ne_true

end Perform

/-! ## A request that is lost -/

/-- The reward sync is scheduled, and the quick resync as well. -/
def bothScheduled : Scheduler (ActorValues ℚ) ℚ :=
  (quiet.syncRewardTotalsToPlayer true).scheduleCarryWeightQuickResync true

/-- The sync is requested again, and a second later the game is ready for its task. -/
def requestedAgain : Scheduler (ActorValues ℚ) ℚ :=
  ((bothScheduled.perform cleanupOwner (.syncRewardTotalsToPlayer true)).perform cleanupOwner
    (.advanceClock 1000)).perform cleanupOwner (.play quiet.game true)

/-- The task has run: the request is no longer recorded, and its fresh run is queued. -/
def rerun : Scheduler (ActorValues ℚ) ℚ :=
  requestedAgain.perform cleanupOwner (.runTask 0 true true)

theorem request_recorded_bothScheduled :
    requestedAgain.rerunRequested .rewardSync = true ∧
      rerun.rerunRequested .rewardSync = false ∧
      (rerun.rerunRequested .rewardSync = true ∨
        bothScheduled.freshRuns .rewardSync < rerun.freshRuns .rewardSync) := by
  have hrequest : (SyncEvent.syncRewardTotalsToPlayer true :
      SyncEvent (ActorValues ℚ) ℚ).requests = some .rewardSync := rfl
  have hready : Relation.ReflTransGen (system cleanupOwner forgetsNothing).step
      (bothScheduled.perform cleanupOwner (.syncRewardTotalsToPlayer true)) requestedAgain :=
    (Relation.ReflTransGen.single ⟨.advanceClock 1000, ⟨nofun, by decide +kernel⟩, rfl⟩).tail
      ⟨.play quiet.game true, ⟨nofun, by decide +kernel⟩, rfl⟩
  have hrun := hready.tail ⟨.runTask 0 true true, ⟨nofun, by decide +kernel⟩, rfl⟩
  exact ⟨by decide +kernel, by decide +kernel, request_recorded cleanupOwner hrequest rfl hrun⟩

/-- The sync is requested again; five seconds later so is the quick resync, which restarts. -/
theorem not_request_recorded :
    ¬ ∀ before : Scheduler (ActorValues ℚ) ℚ, (system cleanupOwner noReset).Reachable before →
      ∀ slot event, event.requests = some slot →
        (before.runtime.slots slot).scheduled = true →
        ∀ after, Relation.ReflTransGen (system cleanupOwner noReset).step
            (before.perform cleanupOwner event) after →
          after.rerunRequested slot = true ∨ before.freshRuns slot < after.freshRuns slot := by
  intro h
  have hreachable : (system cleanupOwner noReset).Reachable bothScheduled :=
    ((reachable_quiet noReset).step ⟨.syncRewardTotalsToPlayer true, nofun, rfl⟩).step
      ⟨.scheduleCarryWeightQuickResync true, nofun, rfl⟩
  have hwaited : (system cleanupOwner noReset).step
      (bothScheduled.perform cleanupOwner (.syncRewardTotalsToPlayer true)) _ :=
    ⟨.advanceClock 5000, nofun, rfl⟩
  have hlost := h bothScheduled hreachable .rewardSync (.syncRewardTotalsToPlayer true) rfl rfl _
    ((Relation.ReflTransGen.single hwaited).tail
      ⟨.scheduleCarryWeightQuickResync true, nofun, rfl⟩)
  revert hlost
  decide

end Scheduler

end CodexOfPower.Rewards
