/-
# `CodexOfPower.SettingsWorker` — saving settings in the background

Two threads share the settings.  The caller runs `HandleSaveSettingsRequest` and
`ShutdownSettingsWorker`, one call at a time; the worker runs the loop that writes
pending jobs to disk.  A step is one access to what they share, so the steps of a
call and those of the worker come in any order, and the outcome of each write is
an input of its step.

`initial` and `lastWritten` are not variables of the program: they remember what
was loaded and what reached the disk.

## What is not said

The locks are taken to work, and a step of one thread to be seen by the other.  What a write
does to the files is in `CodexOfPower.SettingsFiles`.
-/
import CodexOfPower.Settings
import CodexOfPower.Lib.Transition

namespace CodexOfPower.PrismaUIManager

structure SettingsSaveJob where
  settings : Settings
  persistedSettings : Settings
  reloadL10n : Bool
deriving DecidableEq

/-! ## The two threads -/

/-- Where the worker is in `RunSettingsSaveWorkerLoop`. -/
inductive Worker
  /-- No thread, or one that has left the loop. -/
  | idle
  /-- Before the check of the stop flag. -/
  | looping
  /-- Before `TryTakePendingSettingsSave`. -/
  | taking
  /-- Before `PersistSettingsToDisk`. -/
  | writing (job : SettingsSaveJob)
  /-- After the write, before its result is acted on. -/
  | written (job : SettingsSaveJob) (ok : Bool)
deriving DecidableEq

/-- Where the caller is: in no call, in a request, or in a shutdown. -/
inductive Caller
  | ready
  /-- A valid payload that changes something; before `SnapshotLastPersistedSettings`. -/
  | parsed (current next : Settings)
  /-- Before `SetSettings`. -/
  | applying (job : SettingsSaveJob)
  /-- Before the stop flag is cleared. -/
  | applied (job : SettingsSaveJob)
  /-- Before the job is made pending. -/
  | queueing (job : SettingsSaveJob)
  /-- Before the running flag is tried. -/
  | queued
  /-- The flag was won; before the old thread is joined and a new one started. -/
  | starting
  /-- The stop flag is set; before the pending job is reset. -/
  | stopping
  /-- Before the thread is joined. -/
  | joining
  /-- Before the running flag is cleared. -/
  | joined
deriving DecidableEq

structure SettingsState where
  memory : Settings
  lastPersistedSettings : Option Settings := none
  pendingSettingsSave : Option SettingsSaveJob := none
  settingsSaveWorkerRunning : Bool := false
  settingsSaveWorkerStopping : Bool := false
  worker : Worker := .idle
  caller : Caller := .ready
  initial : Settings
  lastWritten : Option Settings := none

/-- `LoadSettingsFromDisk` -/
def loadSettingsFromDisk (loaded : Settings) : SettingsState where
  memory := loaded.clamp
  initial := loaded.clamp

inductive SettingsEvent
  /-- The page calls `copng_saveSettings`. -/
  | request (payload : Option Json)
  /-- A load boundary. -/
  | shutdown
  /-- The call in progress goes on. -/
  | call
  /-- The worker goes on; `ok` is how a write ends. -/
  | work (ok : Bool)

namespace SettingsState

/-- The first step of `HandleSaveSettingsRequest`. -/
def request (s : SettingsState) (payload : Option Json) : Option SettingsState :=
  match s.caller with
  | .ready =>
    let current := s.memory
    match parseSettingsPayload payload current with
    | none => some s
    | some next =>
      if settingsEquivalent current next then some s
      else some { s with
        caller := .parsed current next }
  | _ => none

/-- The first step of `ShutdownSettingsWorker`. -/
def shutdown (s : SettingsState) : Option SettingsState :=
  match s.caller with
  | .ready => some { s with
      settingsSaveWorkerStopping := true
      caller := .stopping }
  | _ => none

def call (s : SettingsState) : Option SettingsState :=
  match s.caller with
  | .ready => none
  | .parsed current next =>
    let persistedSettings := s.lastPersistedSettings.getD current.clamp
    let reloadL10n := next.languageOverride ≠ current.languageOverride
    some { s with
      lastPersistedSettings := some persistedSettings
      caller := .applying ⟨next, persistedSettings, reloadL10n⟩ }
  | .applying job => some { s with
      memory := job.settings.clamp
      caller := .applied job }
  | .applied job => some { s with
      settingsSaveWorkerStopping := false
      caller := .queueing job }
  | .queueing job => some { s with
      pendingSettingsSave := some job
      caller := .queued }
  | .queued =>
    if s.settingsSaveWorkerRunning then some { s with
      caller := .ready }
    else some { s with
      settingsSaveWorkerRunning := true
      caller := .starting }
  | .starting =>
    match s.worker with
    | .idle => some { s with
        worker := .looping
        caller := .ready }
    | _ => none
  | .stopping => some { s with
      pendingSettingsSave := none
      caller := .joining }
  | .joining =>
    match s.worker with
    | .idle => some { s with
        caller := .joined }
    | _ => none
  | .joined => some { s with
      settingsSaveWorkerRunning := false
      caller := .ready }

def work (s : SettingsState) (ok : Bool) : Option SettingsState :=
  match s.worker with
  | .idle => none
  | .looping =>
    if s.settingsSaveWorkerStopping then some { s with
      settingsSaveWorkerRunning := false
      worker := .idle }
    else some { s with
      worker := .taking }
  | .taking =>
    match s.pendingSettingsSave with
    | none => some { s with
        settingsSaveWorkerRunning := false
        worker := .idle }
    | some job => some { s with
        pendingSettingsSave := none
        worker := .writing job }
  | .writing job =>
    if ok then some { s with
      lastWritten := some job.settings.clamp
      worker := .written job true }
    else some { s with
      worker := .written job false }
  | .written job true => some { s with
      lastPersistedSettings := some job.settings.clamp
      worker := .looping }
  | .written job false => some { s with
      memory := job.persistedSettings.clamp
      worker := .looping }

def next (s : SettingsState) : SettingsEvent → Option SettingsState
  | .request payload => s.request payload
  | .shutdown => s.shutdown
  | .call => s.call
  | .work ok => s.work ok

/-- No call, no pending job, and no worker. -/
def Quiescent (s : SettingsState) : Prop :=
  s.worker = .idle ∧ s.pendingSettingsSave = none ∧ s.caller = .ready

instance (s : SettingsState) : Decidable s.Quiescent := by
  unfold Quiescent
  infer_instance

/-- What the disk says: the last successful write, or what was loaded. -/
def saved (s : SettingsState) : Settings := s.lastWritten.getD s.initial

end SettingsState

/-- All runs from loaded settings whose events are accepted where they happen. -/
def settingsSystem (accepts : SettingsState → SettingsEvent → Prop) :
    TransitionSystem SettingsState where
  init s := ∃ loaded, s = loadSettingsFromDisk loaded
  step s s' := ∃ event, accepts s event ∧ s.next event = some s'

/-- Any event may happen. -/
def anyEvent (_ : SettingsState) (_ : SettingsEvent) : Prop := True

instance (s : SettingsState) (event : SettingsEvent) : Decidable (anyEvent s event) :=
  .isTrue trivial

/-- A run of events, if each is possible and accepted in its turn. -/
def SettingsState.run (accepts : SettingsState → SettingsEvent → Prop)
    [∀ s event, Decidable (accepts s event)] (s : SettingsState)
    (events : List SettingsEvent) : Option SettingsState :=
  events.foldlM (fun s event => if accepts s event then s.next event else none) s

theorem reachable_run {accepts : SettingsState → SettingsEvent → Prop}
    [∀ s event, Decidable (accepts s event)] {s s' : SettingsState}
    (h : (settingsSystem accepts).Reachable s) {events : List SettingsEvent}
    (hrun : s.run accepts events = some s') : (settingsSystem accepts).Reachable s' := by
  induction events generalizing s with
  | nil =>
    cases hrun
    exact h
  | cons event events ih =>
    rw [SettingsState.run, List.foldlM_cons] at hrun
    obtain ⟨mid, hmid, hrest⟩ := Option.bind_eq_some_iff.mp hrun
    split_ifs at hmid with haccepts
    exact ih (h.step ⟨event, haccepts, hmid⟩) hrest

theorem reachable_get {accepts : SettingsState → SettingsEvent → Prop}
    [∀ s event, Decidable (accepts s event)] {loaded : Settings} {events : List SettingsEvent}
    (hrun : ((loadSettingsFromDisk loaded).run accepts events).isSome) :
    (settingsSystem accepts).Reachable (Option.get _ hrun) :=
  reachable_run (.of_init ⟨loaded, rfl⟩) (Option.some_get hrun).symm

end CodexOfPower.PrismaUIManager
