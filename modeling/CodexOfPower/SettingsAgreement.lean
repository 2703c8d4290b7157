/-
# `CodexOfPower.SettingsAgreement` — memory and disk when everything has come to rest

The settings in memory are those of the newest request that is still on its way to
the disk, and the saved ones when there is none.  Two steps break this.  A failed
write puts back the settings its job carried, which are stale once another write
has succeeded since the request, and wrong once a newer request is in memory.  A
shutdown drops the pending job and leaves its settings in memory.

Where every failure finds its job the newest and its snapshot still the last
persisted one, and no shutdown finds a pending job, memory and disk agree at every
rest (`memory_eq_saved`).

## What is not said

Why a write fails is open.  The converse does not hold for runs: a run with a step that is
not orderly can come to agree again by a later save, so only this direction is claimed.
-/
import CodexOfPower.SettingsWorker

namespace CodexOfPower.PrismaUIManager

/-! ## What is on its way -/

@[simp] def Caller.requested : Caller → Option Settings
  | .parsed _ next => some next
  | .applying job => some job.settings
  | .applied job => some job.settings
  | .queueing job => some job.settings
  | _ => none

/-- The job of a request that is applied in memory and not yet pending. -/
@[simp] def Caller.appliedJob : Caller → Option SettingsSaveJob
  | .applied job => some job
  | .queueing job => some job
  | _ => none

/-- No request has come as far as the snapshot of the persisted settings. -/
@[simp] def Caller.Untouched (initial : Settings) : Caller → Prop
  | .parsed current _ => current = initial
  | .applying _ => False
  | .applied _ => False
  | .queueing _ => False
  | .queued => False
  | .starting => False
  | _ => True

@[simp] def Worker.job : Worker → Option SettingsSaveJob
  | .writing job => some job
  | .written job _ => some job
  | _ => none

namespace SettingsState

/-- The newest job that is applied in memory and not yet decided. -/
def newestJob (s : SettingsState) : Option SettingsSaveJob :=
  s.caller.appliedJob.or (s.pendingSettingsSave.or s.worker.job)

/-- What memory should hold. -/
def expected (s : SettingsState) : Settings :=
  (s.newestJob.map SettingsSaveJob.settings).getD s.saved

/-! ## Steps that keep memory and disk in agreement -/

/-- A failure is acted on only if no newer request is applied or pending and the
job's snapshot is still the last persisted one; a shutdown drops no job. -/
def Orderly (s : SettingsState) : SettingsEvent → Prop
  | .work _ =>
    match s.worker with
    | .written job false =>
      s.caller.appliedJob = none ∧ s.pendingSettingsSave = none ∧
        s.lastPersistedSettings = some job.persistedSettings
    | _ => True
  | .call => s.caller = .stopping → s.pendingSettingsSave = none
  | _ => True

instance (s : SettingsState) (event : SettingsEvent) : Decidable (s.Orderly event) := by
  cases event with
  | work ok =>
    unfold Orderly
    dsimp only
    split <;> infer_instance
  | call => exact inferInstanceAs (Decidable (_ → _))
  | request payload => exact .isTrue trivial
  | shutdown => exact .isTrue trivial

/-- The invariant of an orderly run. -/
structure Tracked (s : SettingsState) : Prop where
  memory_eq : s.memory = s.expected
  clamp_saved : s.saved.clamp = s.saved
  clamp_requested : ∀ settings, s.caller.requested = some settings → settings.clamp = settings
  clamp_pending : ∀ job, s.pendingSettingsSave = some job → job.settings.clamp = job.settings
  clamp_job : ∀ job, s.worker.job = some job → job.settings.clamp = job.settings
  /-- A write that has succeeded is on disk before it is recorded. -/
  written : ∀ job, s.worker = .written job true → s.lastWritten = some job.settings
  /-- Once it is recorded, the record is what the disk says. -/
  persisted : ∀ settings, s.lastPersistedSettings = some settings →
    settings = s.saved ∨ ∃ job, s.worker = .written job true
  /-- Before there is a record, nothing has happened yet. -/
  untouched : s.lastPersistedSettings = none →
    s.lastWritten = none ∧ s.pendingSettingsSave = none ∧ s.worker = .idle ∧
      s.caller.Untouched s.initial

variable {s s' : SettingsState}

theorem tracked_loadSettingsFromDisk (loaded : Settings) :
    Tracked (loadSettingsFromDisk loaded) where
  memory_eq := rfl
  clamp_saved := Settings.clamp_clamp loaded
  clamp_requested := by simp [loadSettingsFromDisk, Caller.requested]
  clamp_pending := by simp [loadSettingsFromDisk]
  clamp_job := by simp [loadSettingsFromDisk, Worker.job]
  written := by simp [loadSettingsFromDisk]
  persisted := by simp [loadSettingsFromDisk]
  untouched := by simp [loadSettingsFromDisk, Caller.Untouched]

/-! ## Steps of one thread alone -/

/-- A worker that is there was started after the snapshot. -/
theorem Tracked.recorded_of_busy (h : Tracked s) (hbusy : s.worker ≠ .idle) :
    s.lastPersistedSettings ≠ none := fun hnone => hbusy (h.untouched hnone).2.2.1

theorem Tracked.eq_saved_of_persisted (h : Tracked s)
    (hworker : ∀ job, s.worker ≠ .written job true) {settings : Settings}
    (hlast : s.lastPersistedSettings = some settings) : settings = s.saved := by
  refine (h.persisted settings hlast).resolve_right ?_
  rintro ⟨job, hjob⟩
  exact hworker job hjob

theorem Tracked.moveCaller (h : Tracked s) {caller : Caller} (running stopping : Bool)
    (happlied : caller.appliedJob = s.caller.appliedJob)
    (hrequested : ∀ settings, caller.requested = some settings → settings.clamp = settings)
    (huntouched : s.lastPersistedSettings = none → caller.Untouched s.initial) :
    Tracked { s with
      settingsSaveWorkerRunning := running
      settingsSaveWorkerStopping := stopping
      caller } where
  memory_eq := by
    have hmemory := h.memory_eq
    unfold expected newestJob at hmemory ⊢
    rw [happlied]
    exact hmemory
  clamp_saved := h.clamp_saved
  clamp_requested := hrequested
  clamp_pending := h.clamp_pending
  clamp_job := h.clamp_job
  written := h.written
  persisted := h.persisted
  untouched hnone := by
    obtain ⟨hwritten, hpending, hworker, -⟩ := h.untouched hnone
    exact ⟨hwritten, hpending, hworker, huntouched hnone⟩

theorem Tracked.moveWorker (h : Tracked s) {worker : Worker} (running : Bool)
    (hjob : s.worker.job = none) (hjob' : worker.job = none)
    (hrecorded : s.lastPersistedSettings ≠ none) :
    Tracked { s with
      settingsSaveWorkerRunning := running
      worker } where
  memory_eq := by
    have hmemory := h.memory_eq
    unfold expected newestJob at hmemory ⊢
    rw [hjob] at hmemory
    dsimp only
    rw [hjob']
    exact hmemory
  clamp_saved := h.clamp_saved
  clamp_requested := h.clamp_requested
  clamp_pending := h.clamp_pending
  clamp_job := by
    intro job htaken
    cases hjob'.symm.trans htaken
  written := by
    rintro job rfl
    cases hjob'
  persisted := by
    intro settings hlast
    refine .inl (h.eq_saved_of_persisted (fun job hworker => ?_) hlast)
    rw [hworker] at hjob
    cases hjob
  untouched hnone := absurd hnone hrecorded

/-! ## The calls -/

theorem Tracked.request (h : Tracked s) {payload : Option Json}
    (hnext : s.request payload = some s') : Tracked s' := by
  have hmemory := h.memory_eq
  simp only [SettingsState.request] at hnext
  split at hnext
  · rename_i hready
    simp only [expected, newestJob, saved, hready] at hmemory
    split at hnext
    · cases hnext
      exact h
    · rename_i next hparse
      split_ifs at hnext
      · cases hnext
        exact h
      · cases hnext
        refine h.moveCaller _ _ (by simp [hready]) ?_ ?_
        · intro settings hrequested
          cases hrequested
          exact clamp_of_parseSettingsPayload hparse
        · intro hnone
          obtain ⟨hwritten, hpending, hworker, -⟩ := h.untouched hnone
          show s.memory = s.initial
          simpa [hpending, hworker, hwritten] using hmemory
  · cases hnext

theorem Tracked.shutdown (h : Tracked s) (hnext : s.shutdown = some s') : Tracked s' := by
  simp only [SettingsState.shutdown] at hnext
  split at hnext
  · rename_i hready
    cases hnext
    exact h.moveCaller _ _ (by simp [hready]) (by simp) fun _ => trivial
  · cases hnext

/-- The snapshot is what the disk says: the record of it, or else what was loaded. -/
theorem Tracked.snapshot (h : Tracked s) {current next : Settings} {reloadL10n : Bool}
    (hcaller : s.caller = .parsed current next) :
    Tracked { s with
      lastPersistedSettings := some (s.lastPersistedSettings.getD current.clamp)
      caller := .applying ⟨next, s.lastPersistedSettings.getD current.clamp, reloadL10n⟩ } := by
  have hmemory := h.memory_eq
  simp only [expected, newestJob, saved, hcaller] at hmemory
  refine ⟨hmemory, h.clamp_saved, ?_, h.clamp_pending, h.clamp_job, h.written, ?_, by simp⟩
  · intro settings hrequested
    exact h.clamp_requested settings (by simpa [hcaller] using hrequested)
  · intro settings hpersisted
    cases hlast : s.lastPersistedSettings with
    | some last =>
      refine h.persisted settings ?_
      simpa [hlast] using hpersisted
    | none =>
      obtain ⟨hwritten, -, -, huntouched⟩ := h.untouched hlast
      rw [hcaller] at huntouched
      have hsaved : s.saved = current := by
        rw [saved, hwritten]
        exact huntouched.symm
      have hclamp := h.clamp_saved
      rw [hsaved] at hclamp
      left
      simp only [hlast, Option.getD_none, hclamp, Option.some.injEq] at hpersisted
      exact hpersisted.symm.trans hsaved.symm

/-- The request is in memory, and the newest. -/
theorem Tracked.apply (h : Tracked s) {job : SettingsSaveJob}
    (hcaller : s.caller = .applying job) :
    Tracked { s with
      memory := job.settings.clamp
      caller := .applied job } := by
  refine ⟨?_, h.clamp_saved, ?_, h.clamp_pending, h.clamp_job, h.written, h.persisted, ?_⟩
  · simpa [expected, newestJob] using h.clamp_requested job.settings (by simp [hcaller])
  · intro settings hrequested
    exact h.clamp_requested settings (by simpa [hcaller] using hrequested)
  · intro hnone
    simpa [hcaller] using (h.untouched hnone).2.2.2

/-- A newest job that becomes pending is still the newest. -/
theorem Tracked.enqueue (h : Tracked s) {job : SettingsSaveJob}
    (hcaller : s.caller = .queueing job) :
    Tracked { s with
      pendingSettingsSave := some job
      caller := .queued } := by
  have hmemory := h.memory_eq
  simp only [expected, newestJob, saved, hcaller] at hmemory
  refine ⟨?_, h.clamp_saved, by simp, ?_, h.clamp_job, h.written, h.persisted, ?_⟩
  · simpa [expected, newestJob] using hmemory
  · intro pending hpending
    cases hpending
    exact h.clamp_requested job.settings (by simp [hcaller])
  · intro hnone
    simpa [hcaller] using (h.untouched hnone).2.2.2

/-- A shutdown that finds no pending job has nothing to drop. -/
theorem Tracked.stop (h : Tracked s) (hcaller : s.caller = .stopping)
    (hpending : s.pendingSettingsSave = none) :
    Tracked { s with
      pendingSettingsSave := none
      caller := .joining } := by
  have hmemory := h.memory_eq
  simp only [expected, newestJob, saved, hcaller] at hmemory
  rw [hpending] at hmemory
  refine ⟨hmemory, h.clamp_saved, by simp, by simp, h.clamp_job, h.written, h.persisted, ?_⟩
  intro hnone
  obtain ⟨hwritten, -, hworker, -⟩ := h.untouched hnone
  exact ⟨hwritten, rfl, hworker, trivial⟩

/-- A call goes on: the newest request moves towards the pending job, and a shutdown
finds none. -/
theorem Tracked.call (h : Tracked s) (horderly : Orderly s .call) (hnext : s.call = some s') :
    Tracked s' := by
  have hrecorded : ¬ s.caller.Untouched s.initial → s.lastPersistedSettings ≠ none :=
    fun htouched hnone => htouched (h.untouched hnone).2.2.2
  unfold SettingsState.call at hnext
  cases hcaller : s.caller with
  | ready =>
    rw [hcaller] at hnext
    cases hnext
  | parsed current next =>
    rw [hcaller] at hnext
    cases hnext
    exact h.snapshot hcaller
  | applying job =>
    rw [hcaller] at hnext
    cases hnext
    exact h.apply hcaller
  | applied job =>
    rw [hcaller] at hnext hrecorded
    cases hnext
    refine h.moveCaller _ _ (by simp [hcaller]) ?_ fun hnone => absurd hnone (hrecorded id)
    intro settings hrequested
    exact h.clamp_requested settings (by simpa [hcaller] using hrequested)
  | queueing job =>
    rw [hcaller] at hnext
    cases hnext
    exact h.enqueue hcaller
  | queued =>
    rw [hcaller] at hnext hrecorded
    dsimp only at hnext
    split_ifs at hnext <;> cases hnext
    · exact h.moveCaller _ _ (by simp [hcaller]) (by simp) fun _ => trivial
    · exact h.moveCaller _ _ (by simp [hcaller]) (by simp) fun hnone =>
        absurd hnone (hrecorded id)
  | starting =>
    rw [hcaller] at hnext hrecorded
    dsimp only at hnext
    split at hnext
    · rename_i hidle
      cases hnext
      have hlooping : Tracked { s with worker := .looping } :=
        h.moveWorker _ (by simp [hidle]) rfl (hrecorded id)
      exact hlooping.moveCaller _ _ (by simp [hcaller]) (by simp) fun _ => trivial
    · cases hnext
  | stopping =>
    rw [hcaller] at hnext
    cases hnext
    exact h.stop hcaller (horderly hcaller)
  | joining =>
    rw [hcaller] at hnext
    dsimp only at hnext
    split at hnext
    · cases hnext
      exact h.moveCaller _ _ (by simp [hcaller]) (by simp) fun _ => trivial
    · cases hnext
  | joined =>
    rw [hcaller] at hnext
    cases hnext
    exact h.moveCaller _ _ (by simp [hcaller]) (by simp) fun _ => trivial

/-! ## The worker -/

theorem Tracked.take (h : Tracked s) (hworker : s.worker = .taking) {job : SettingsSaveJob}
    (hpending : s.pendingSettingsSave = some job) :
    Tracked { s with
      pendingSettingsSave := none
      worker := .writing job } := by
  have hmemory := h.memory_eq
  simp only [expected, newestJob, saved, hworker, Worker.job, hpending] at hmemory
  have hrecorded := h.recorded_of_busy (by simp [hworker])
  refine ⟨by simpa [expected, newestJob] using hmemory, h.clamp_saved, h.clamp_requested,
    by simp, ?_, by simp, ?_, fun hnone => absurd hnone hrecorded⟩
  · intro taken htaken
    cases htaken
    exact h.clamp_pending job hpending
  · intro settings hlast
    exact .inl (h.eq_saved_of_persisted (by simp [hworker]) hlast)

/-- The write has succeeded: the job is on disk, and on its way still. -/
theorem Tracked.write (h : Tracked s) {job : SettingsSaveJob}
    (hworker : s.worker = .writing job) :
    Tracked { s with
      lastWritten := some job.settings.clamp
      worker := .written job true } := by
  have hmemory := h.memory_eq
  simp only [expected, newestJob, saved, hworker, Worker.job] at hmemory
  have hjob : job.settings.clamp = job.settings := h.clamp_job job (by simp [hworker])
  have hrecorded := h.recorded_of_busy (by simp [hworker])
  refine ⟨?_, ?_, h.clamp_requested, h.clamp_pending, ?_, ?_, fun _ _ => .inr ⟨job, rfl⟩,
    fun hnone => absurd hnone hrecorded⟩
  · -- some job is on its way, so what is saved does not matter yet
    have hsome : s.caller.appliedJob.or (s.pendingSettingsSave.or (some job)) ≠ none := by simp
    obtain ⟨newest, hnewest⟩ := Option.ne_none_iff_exists'.mp hsome
    rw [hnewest] at hmemory
    simp only [expected, newestJob, Worker.job, hnewest]
    exact hmemory
  · show job.settings.clamp.clamp = job.settings.clamp
    rw [hjob, hjob]
  · intro taken htaken
    cases htaken
    exact hjob
  · intro taken htaken
    cases htaken
    exact congrArg some hjob

theorem Tracked.failWrite (h : Tracked s) {job : SettingsSaveJob}
    (hworker : s.worker = .writing job) : Tracked { s with worker := .written job false } := by
  have hmemory := h.memory_eq
  simp only [expected, newestJob, saved, hworker, Worker.job] at hmemory
  have hrecorded := h.recorded_of_busy (by simp [hworker])
  refine ⟨hmemory, h.clamp_saved, h.clamp_requested, h.clamp_pending, ?_, by simp, ?_,
    fun hnone => absurd hnone hrecorded⟩
  · intro taken htaken
    cases htaken
    exact h.clamp_job job (by simp [hworker])
  · intro settings hlast
    exact .inl (h.eq_saved_of_persisted (by simp [hworker]) hlast)

/-- What is on disk is recorded. -/
theorem Tracked.record (h : Tracked s) {job : SettingsSaveJob}
    (hworker : s.worker = .written job true) :
    Tracked { s with
      lastPersistedSettings := some job.settings.clamp
      worker := .looping } := by
  have hmemory := h.memory_eq
  simp only [expected, newestJob, saved, hworker, Worker.job] at hmemory
  have hjob : job.settings.clamp = job.settings := h.clamp_job job (by simp [hworker])
  have hwritten := h.written job hworker
  refine ⟨?_, h.clamp_saved, h.clamp_requested, h.clamp_pending, by simp, by simp, ?_, by simp⟩
  · -- the job was on its way, or a newer one is
    show s.memory = (((s.caller.appliedJob.or (s.pendingSettingsSave.or none)).map
      SettingsSaveJob.settings).getD (s.lastWritten.getD s.initial))
    rw [hmemory, hwritten]
    cases s.caller.appliedJob with
    | some newer => rfl
    | none =>
      cases s.pendingSettingsSave with
      | some newer => rfl
      | none => rfl
  · intro settings hlast
    left
    simp only [Option.some.injEq] at hlast
    rw [← hlast, hjob]
    show job.settings = s.lastWritten.getD s.initial
    rw [hwritten]
    rfl

/-- The settings that the job carried are put back: the last that were persisted, with
nothing newer on its way. -/
theorem Tracked.rollBack (h : Tracked s) {job : SettingsSaveJob}
    (hworker : s.worker = .written job false) (happlied : s.caller.appliedJob = none)
    (hpending : s.pendingSettingsSave = none)
    (hlast : s.lastPersistedSettings = some job.persistedSettings) :
    Tracked { s with
      memory := job.persistedSettings.clamp
      worker := .looping } := by
  have hclamp := h.clamp_saved
  have hsaved := h.eq_saved_of_persisted (by simp [hworker]) hlast
  refine ⟨?_, hclamp, h.clamp_requested, h.clamp_pending, by simp, by simp, ?_, ?_⟩
  · show job.persistedSettings.clamp = (((s.caller.appliedJob.or
      (s.pendingSettingsSave.or none)).map SettingsSaveJob.settings).getD s.saved)
    rw [hsaved, hclamp, happlied, hpending]
    rfl
  · intro settings hsettings
    left
    rw [hlast] at hsettings
    exact (Option.some.inj hsettings).symm.trans hsaved
  · intro hnone
    rw [hlast] at hnone
    cases hnone

/-- The worker goes on: it takes a job, writes it, and acts on the result. -/
theorem Tracked.work (h : Tracked s) {ok : Bool} (horderly : Orderly s (.work ok))
    (hnext : s.work ok = some s') : Tracked s' := by
  unfold SettingsState.work at hnext
  cases hworker : s.worker with
  | idle =>
    rw [hworker] at hnext
    cases hnext
  | looping =>
    rw [hworker] at hnext
    have hrecorded := h.recorded_of_busy (by simp [hworker])
    dsimp only at hnext
    split_ifs at hnext <;> cases hnext
    · exact h.moveWorker _ (by simp [hworker]) rfl hrecorded
    · exact h.moveWorker _ (by simp [hworker]) rfl hrecorded
  | taking =>
    rw [hworker] at hnext
    cases hpending : s.pendingSettingsSave with
    | none =>
      rw [hpending] at hnext
      cases hnext
      have hleft : Tracked { s with
          settingsSaveWorkerRunning := false
          worker := .idle } :=
        h.moveWorker _ (by simp [hworker]) rfl (h.recorded_of_busy (by simp [hworker]))
      rw [hpending] at hleft
      exact hleft
    | some job =>
      rw [hpending] at hnext
      cases hnext
      exact h.take hworker hpending
  | writing job =>
    rw [hworker] at hnext
    cases ok with
    | true =>
      cases hnext
      exact h.write hworker
    | false =>
      cases hnext
      exact h.failWrite hworker
  | written job result =>
    rw [hworker] at hnext
    cases result with
    | true =>
      cases hnext
      exact h.record hworker
    | false =>
      cases hnext
      rw [Orderly, hworker] at horderly
      obtain ⟨happlied, hpending, hlast⟩ := horderly
      exact h.rollBack hworker happlied hpending hlast

theorem Tracked.next (h : Tracked s) {event : SettingsEvent} (horderly : Orderly s event)
    (hnext : s.next event = some s') : Tracked s' := by
  cases event with
  | request payload => exact h.request hnext
  | shutdown => exact h.shutdown hnext
  | call => exact h.call horderly hnext
  | work ok => exact h.work horderly hnext

theorem tracked_invariant : (settingsSystem Orderly).Invariant Tracked where
  init s hinit := by
    obtain ⟨loaded, rfl⟩ := hinit
    exact tracked_loadSettingsFromDisk loaded
  step s s' h hstep := by
    obtain ⟨event, horderly, hnext⟩ := hstep
    exact h.next horderly hnext

/-- At rest, in a run all of whose steps are orderly, the settings in memory are the
last ones that reached the disk, or those that were loaded. -/
theorem memory_eq_saved (h : (settingsSystem Orderly).Reachable s) (hrest : s.Quiescent) :
    s.memory = s.saved := by
  have hmemory := (tracked_invariant.reachable h).memory_eq
  obtain ⟨hworker, hpending, hcaller⟩ := hrest
  simpa [expected, newestJob, hworker, hpending, hcaller] using hmemory

end SettingsState

/-! ## Runs -/

/-- The page asks for another toggle key. -/
def askForKey (key : UInt64) : SettingsEvent :=
  .request (some (.object [(utf8 "toggleKeyCode", .numberUnsigned key)]))

/-- A request that is carried out, and a worker that writes it and stops. -/
def oneSave : List SettingsEvent :=
  askForKey 60 :: List.replicate 6 .call ++ List.replicate 6 (.work true)

/-- The second request takes its snapshot while the first is being written; the first
write succeeds, the second fails. -/
def staleSnapshot : List SettingsEvent :=
  askForKey 60 :: List.replicate 6 .call ++ List.replicate 2 (.work true) ++
    askForKey 61 :: List.replicate 5 .call ++ List.replicate 4 (.work true) ++
    List.replicate 4 (.work false)

theorem isSome_oneSave :
    ((loadSettingsFromDisk {}).run SettingsState.Orderly oneSave).isSome := by
  decide +kernel

theorem isSome_staleSnapshot :
    ((loadSettingsFromDisk {}).run anyEvent staleSnapshot).isSome := by
  decide +kernel

/-- After an orderly run memory and disk have the key that was asked for. -/
theorem memory_eq_saved_oneSave :
    ∃ s, (settingsSystem SettingsState.Orderly).Reachable s ∧ s.Quiescent ∧
      s.memory.toggleKeyCode = 60 ∧ s.memory = s.saved := by
  have hrest : (Option.get _ isSome_oneSave).Quiescent := by decide +kernel
  have hkey : (Option.get _ isSome_oneSave).memory.toggleKeyCode = 60 := by decide +kernel
  exact ⟨_, reachable_get isSome_oneSave, hrest, hkey,
    SettingsState.memory_eq_saved (reachable_get isSome_oneSave) hrest⟩

/-- The disk has key 60 and memory is back at the key that was loaded. -/
theorem not_memory_eq_saved :
    ¬ ∀ s, (settingsSystem anyEvent).Reachable s → s.Quiescent → s.memory = s.saved := by
  intro hclaim
  have hrest : (Option.get _ isSome_staleSnapshot).Quiescent := by decide +kernel
  have hkey : (Option.get _ isSome_staleSnapshot).memory.toggleKeyCode ≠
      (Option.get _ isSome_staleSnapshot).saved.toggleKeyCode := by decide +kernel
  exact hkey (congrArg Settings.toggleKeyCode
    (hclaim _ (reachable_get isSome_staleSnapshot) hrest))

end CodexOfPower.PrismaUIManager
