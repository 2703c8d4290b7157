/-
# `CodexOfPower.OwnSessions` — sessions that load their own co-saves

Between two loads a session acts; a load goes back to a state that was saved.  So a
property of states is an invariant when a new game has it, actions keep it, and
loading a state that has it gives one that has it (`ownSession_invariant`).  What
loading gives is `Continues`: the saved state, with its tables laid out anew.

Every state of such a session is `Settled`: restorable, of the current version, its
migration complete, and its slots valid.  The last of these is the active-slot
invariant (`slotsValid_of_reachable`).

## What is not said

The load order does not change in these sessions, and no file comes from elsewhere.  Of
arbitrary files only `Restorable` remains (`CodexOfPower.SaveLoad`); other load orders are
the subject of `CodexOfPower.Playthroughs`.
-/
import CodexOfPower.SaveLoad

namespace CodexOfPower

open RE Builds BuildProgression Registration Serialization SerializationStateStore

/-! ## What actions leave alone -/

section Frames

/-- Registrations, progress, migration and history are as before. -/
structure SameProgress (state state' : RuntimeState Float32) : Prop where
  registeredItems : state'.registeredItems = state.registeredItems
  score : state'.score = state.score
  pointsCenti : state'.pointsCenti = state.pointsCenti
  buildMigrationVersion : state'.buildMigrationVersion = state.buildMigrationVersion
  buildMigrationState : state'.buildMigrationState = state.buildMigrationState
  undoHistory : state'.undoHistory = state.undoHistory
  undoNextActionId : state'.undoNextActionId = state.undoNextActionId

/-! ### The migration -/

/-- Version and state of the migration are as before. -/
def SameMigration (state state' : RuntimeState Float32) : Prop :=
  state'.buildMigrationVersion = state.buildMigrationVersion ∧
    state'.buildMigrationState = state.buildMigrationState

theorem migration_of_sameProgress {state state' : RuntimeState Float32}
    (h : SameProgress state state') : SameMigration state state' :=
  ⟨h.buildMigrationVersion, h.buildMigrationState⟩

theorem migration_of_sameAside {state state' : RuntimeState Float32}
    (h : SameAside state state') : SameMigration state state' :=
  ⟨h.buildMigrationVersion, h.buildMigrationState⟩

end Frames

/-! ## The three kinds of actions -/

section Actions

variable (formTypes : FormID → FormType)

def Action.MovesNoItem : Action → Prop
  | .register .. | .registerBatch .. | .undo .. => False
  | _ => True

/-- An action that moves no item leaves progress alone. -/
theorem sameProgress_perform {action : Action} (h : action.MovesNoItem)
    (state : RuntimeState Float32) :
    SameProgress state (perform formTypes action state).1 ∧
      (perform formTypes action state).2 = 0 := by
  cases action with
  | register env formId => cases h
  | registerBatch calls => cases h
  | undo env actionId => cases h
  | activate avOwner slotId optionId =>
    obtain ⟨slots, ledger, heq⟩ :=
      PrismaUIManager.activate_frame avOwner state slotId optionId
    refine ⟨?_, rfl⟩
    show SameProgress state (PrismaUIManager.activateBuildOption avOwner state slotId optionId).1
    rw [heq]
    exact ⟨rfl, rfl, rfl, rfl, rfl, rfl, rfl⟩
  | deactivate avOwner slotId =>
    obtain ⟨slots, ledger, heq⟩ := PrismaUIManager.deactivate_frame avOwner state slotId
    refine ⟨?_, rfl⟩
    show SameProgress state (PrismaUIManager.deactivateBuildOption avOwner state slotId)
    rw [heq]
    exact ⟨rfl, rfl, rfl, rfl, rfl, rfl, rfl⟩
  | swap avOwner fromSlotId toSlotId optionId =>
    obtain ⟨slots, ledger, heq⟩ :=
      PrismaUIManager.swap_frame avOwner state fromSlotId toSlotId optionId
    refine ⟨?_, rfl⟩
    show SameProgress state
      (PrismaUIManager.swapBuildOption avOwner state fromSlotId toSlotId optionId).1
    rw [heq]
    exact ⟨rfl, rfl, rfl, rfl, rfl, rfl, rfl⟩
  | notify primaryId secondaryId =>
    refine ⟨?_, rfl⟩
    show SameProgress state (NotifiedStateStore.markPair state primaryId secondaryId)
    rw [NotifiedStateStore.markPair_frame]
    exact ⟨rfl, rfl, rfl, rfl, rfl, rfl, rfl⟩
  | refund avOwner =>
    refine ⟨?_, rfl⟩
    show SameProgress state (Rewards.refundRewards avOwner state).1
    rw [Rewards.refundRewards_frame]
    exact ⟨rfl, rfl, rfl, rfl, rfl, rfl, rfl⟩

/-- An action registers, undoes, or leaves progress alone. -/
theorem perform_cases (action : Action) (state : RuntimeState Float32) :
    (∃ calls, perform formTypes action state = registerBatch formTypes state calls) ∨
    (∃ env actionId,
      perform formTypes action state = ((tryUndoRegistration env state actionId).1, 0)) ∨
    (SameProgress state (perform formTypes action state).1 ∧
      (perform formTypes action state).2 = 0) := by
  cases action with
  | register env formId => exact .inl ⟨[(env, formId)], rfl⟩
  | registerBatch calls => exact .inl ⟨calls, rfl⟩
  | undo env actionId => exact .inr (.inl ⟨env, actionId, rfl⟩)
  | _ =>
    refine .inr (.inr (sameProgress_perform formTypes ?_ state))
    trivial

theorem migration_perform (action : Action) (state : RuntimeState Float32) :
    SameMigration state (perform formTypes action state).1 := by
  rcases perform_cases formTypes action state with
    ⟨calls, heq⟩ | ⟨env, actionId, heq⟩ | ⟨hsame, -⟩
  · rw [heq]; exact migration_of_sameAside (sameAside_registerBatch formTypes state calls)
  · rw [heq]; exact migration_of_sameAside (sameAside_tryUndoRegistration env state actionId)
  · exact migration_of_sameProgress hsame

theorem slotsValid_perform {state : RuntimeState Float32} (h : SlotsValid state)
    (action : Action) : SlotsValid (perform formTypes action state).1 := by
  cases action with
  | register env formId => exact slotsValid_tryRegisterItem h formTypes env formId
  | registerBatch calls =>
    exact registerBatch_preserves SlotsValid
      (fun env _ formId h => slotsValid_tryRegisterItem h formTypes env formId) h calls
  | undo env actionId => exact slotsValid_tryUndoRegistration h env actionId
  | activate avOwner slotId optionId => exact slotsValid_activate h avOwner slotId optionId
  | deactivate avOwner slotId => exact slotsValid_deactivate h avOwner slotId
  | swap avOwner fromSlotId toSlotId optionId =>
    exact slotsValid_swap h avOwner fromSlotId toSlotId optionId
  | notify primaryId secondaryId =>
    show SlotsValid (NotifiedStateStore.markPair state primaryId secondaryId)
    rw [NotifiedStateStore.markPair_frame]
    exact h.congr rfl rfl
  | refund avOwner =>
    show SlotsValid (Rewards.refundRewards avOwner state).1
    unfold Rewards.refundRewards
    split_ifs
    · exact h
    · exact h.congr rfl rfl

end Actions

/-! ## Loading an own co-save -/

/-- The migration is complete, and everything in the state is as a co-save can hold it. -/
structure Settled (state : RuntimeState Float32) : Prop extends Restorable state where
  buildMigrationVersion : state.buildMigrationVersion = kBuildMigrationVersion
  buildMigrationState : state.buildMigrationState = .kComplete
  slots : SlotsValid state

/-- The state after a load goes on from the saved one. -/
structure Continues (saved loaded : RuntimeState Float32) : Prop where
  registeredItems : loaded.registeredItems.Same saved.registeredItems
  score : loaded.score = saved.score
  pointsCenti : loaded.pointsCenti = saved.pointsCenti
  activeBuildSlots : loaded.activeBuildSlots = saved.activeBuildSlots
  migration : SameMigration saved loaded
  undoHistory : loaded.undoHistory = saved.undoHistory
  undoNextActionId :
    loaded.undoNextActionId = nextActionIdOf saved.undoHistory saved.undoNextActionId

section Load

variable {saved state : RuntimeState Float32}

theorem Continues.sync (h : Continues saved state) (avOwner : Option (ActorValue → Float32)) :
    Continues saved (syncCurrentBuildEffectsToPlayer avOwner state).1 := by
  rw [sync_frame]
  exact ⟨h.registeredItems, h.score, h.pointsCenti, h.activeBuildSlots, h.migration,
    h.undoHistory, h.undoNextActionId⟩

/-- What follows a load finds a complete migration, and consumes a notice at most. -/
theorem Restores.process (hsettled : Settled saved) (h : Restores saved state)
    (hnext : state.undoNextActionId = nextActionIdOf saved.undoHistory saved.undoNextActionId)
    (lookupFormType : FormTypeLookup) (cleanup : Snapshot Float32 → Bool) :
    Continues saved (processBuildMigrationState lookupFormType cleanup state).1 := by
  obtain ⟨hnormal, hnormalNext⟩ := h.normalize hsettled.toRestorable
    (by rw [hsettled.buildMigrationVersion]; exact UInt32.le_refl _) lookupFormType none
  unfold processBuildMigrationState
  dsimp only
  rw [snapshotState_eq]
  generalize normalizeLoadedSnapshot lookupFormType none state = normal at hnormal hnormalNext
  have hversion : ¬ normal.buildMigrationVersion < kBuildMigrationVersion := by
    rw [hnormal.buildMigrationVersion, hsettled.buildMigrationVersion]
    exact UInt32.lt_irrefl _
  have hcomplete : normal.buildMigrationState = .kComplete :=
    hnormal.buildMigrationState.trans hsettled.buildMigrationState
  have hfinal : (tryFinalizePendingMigration (some cleanup) normal).1 =
      stripLegacyUndoRewardDeltas normal := by
    unfold tryFinalizePendingMigration
    rw [if_neg hversion, if_pos (by rw [hcomplete]; decide), if_pos hcomplete]
  have hstripped := hnormal.strip (hsettled.deltasComplete hsettled.buildMigrationState)
  have hcontinues : Continues saved (stripLegacyUndoRewardDeltas normal) :=
    { registeredItems := hstripped.registeredItems
      score := hstripped.score
      pointsCenti := hstripped.pointsCenti
      activeBuildSlots := hstripped.activeBuildSlots
      migration := ⟨hstripped.buildMigrationVersion, hstripped.buildMigrationState⟩
      undoHistory := hstripped.undoHistory
      undoNextActionId := hnormalNext.trans hnext }
  rw [hfinal, replaceState_eq]
  unfold consumeMigrationNotice
  split_ifs
  · exact hcontinues
  · exact ⟨hcontinues.registeredItems, hcontinues.score, hcontinues.pointsCenti,
      hcontinues.activeBuildSlots, hcontinues.migration, hcontinues.undoHistory,
      hcontinues.undoNextActionId⟩

/-- Loading a co-save of a settled state goes on from that state. -/
theorem loadGame_saved {accepts : Nat → Bool} {records : List Record} (h : Settled saved)
    (hsave : save accepts saved = (true, records)) (lookupFormType : FormTypeLookup)
    (cleanup : Snapshot Float32 → Bool) (avOwner : Option (ActorValue → Float32))
    (before : RuntimeState Float32) :
    Continues saved (loadGame lookupFormType cleanup avOwner some records before) := by
  obtain ⟨hrestores, hnext⟩ := load_saved h.toRestorable
    (by rw [h.buildMigrationVersion]; exact UInt32.le_refl _) (resolvesStored_some _) hsave
    lookupFormType (revert (resetForLoad before))
  exact (Restores.process h hrestores hnext lookupFormType cleanup).sync avOwner

theorem Settled.continues (h : Settled saved) (hstate : Restorable state)
    (hcontinues : Continues saved state) : Settled state where
  toRestorable := hstate
  buildMigrationVersion := hcontinues.migration.1.trans h.buildMigrationVersion
  buildMigrationState := hcontinues.migration.2.trans h.buildMigrationState
  slots := h.slots.congr hcontinues.pointsCenti hcontinues.activeBuildSlots

end Load

/-! ## Invariants of these sessions -/

theorem settled_newGameState : Settled newGameState where
  toRestorable := restorable_newGameState
  buildMigrationVersion := rfl
  buildMigrationState := rfl
  slots := slotsValid_of_empty fun _ => rfl

theorem Settled.perform {state : RuntimeState Float32} (h : Settled state)
    (formTypes : FormID → FormType) (action : Action) :
    Settled (perform formTypes action state).1 where
  toRestorable := restorable_perform h.toRestorable formTypes action
  buildMigrationVersion :=
    (migration_perform formTypes action state).1.trans h.buildMigrationVersion
  buildMigrationState := (migration_perform formTypes action state).2.trans h.buildMigrationState
  slots := slotsValid_perform formTypes h.slots action

/-- The state has the property, and so has every state that was saved; the number of
registrations so far may count. -/
structure Holds (P : Nat → RuntimeState Float32 → Prop) (session : Session) : Prop where
  state : Settled session.state ∧ P session.registrations session.state
  saves : ∀ records ∈ session.saves, ∃ saved accepts,
    (Settled saved ∧ P session.registrations saved) ∧ save accepts saved = (true, records)

section Invariant

variable {formTypes : FormID → FormType} {P : Nat → RuntimeState Float32 → Prop}
  {C : Session → Prop}

/-- Registrations made since do not matter, so a saved state keeps the property. -/
theorem Holds.saves_mono (mono : ∀ m n state, m ≤ n → P m state → P n state) {session : Session}
    (h : Holds P session) {n : Nat} (hn : session.registrations ≤ n) :
    ∀ records ∈ session.saves, ∃ saved accepts,
      (Settled saved ∧ P n saved) ∧ save accepts saved = (true, records) := by
  intro records hrecords
  obtain ⟨saved, accepts, ⟨hsettled, hP⟩, hsave⟩ := h.saves records hrecords
  exact ⟨saved, accepts, ⟨hsettled, mono _ _ _ hn hP⟩, hsave⟩

/-- In runs whose states all meet `C`: what a new game has, actions keep, and a load
passes on, every state has. -/
theorem ownSession_invariant (mono : ∀ m n state, m ≤ n → P m state → P n state)
    (new : P 0 newGameState)
    (act : ∀ (session : Session) (action : Action), Settled session.state →
      P session.registrations session.state → C (session.act formTypes action) →
      P (session.act formTypes action).registrations (session.act formTypes action).state)
    (continues : ∀ {n saved loaded}, Settled saved → P n saved → Continues saved loaded →
      P n loaded) :
    ((Session.system formTypes ownFiles).restrict fun _ session => C session).Invariant
      (Holds P) where
  init session hinit := by
    obtain ⟨lookupFormType, cleanup, avOwner, rfl⟩ := hinit
    rw [newGame_eq]
    exact ⟨⟨settled_newGameState, new⟩, fun records hrecords => absurd hrecords List.not_mem_nil⟩
  step session session' h hstep := by
    obtain ⟨hstep, hC⟩ := hstep
    obtain ⟨hsettled, hP⟩ := h.state
    cases hstep with
    | act action =>
      have hsaves := h.saves_mono mono (Nat.le_add_right session.registrations
        (CodexOfPower.perform formTypes action session.state).2)
      exact ⟨⟨hsettled.perform formTypes action, act session action hsettled hP hC⟩, hsaves⟩
    | save accepts records hsave =>
      refine ⟨h.state, fun records' hrecords => ?_⟩
      rcases List.mem_cons.mp hrecords with rfl | hold
      · exact ⟨session.state, accepts, h.state, hsave⟩
      · exact h.saves records' hold
    | load lookupFormType cleanup avOwner resolveFormID records hfile =>
      obtain ⟨rfl, hrecords⟩ := hfile
      obtain ⟨saved, accepts, ⟨hsaved, hPsaved⟩, hsave⟩ := h.saves records hrecords
      have hcontinues := loadGame_saved hsaved hsave lookupFormType cleanup avOwner session.state
      exact ⟨⟨hsaved.continues (restorable_loadGame _ _ _ _ _ _) hcontinues,
        continues hsaved hPsaved hcontinues⟩, h.saves⟩
    | newGame lookupFormType cleanup avOwner =>
      refine ⟨?_, h.saves⟩
      rw [newGame_eq]
      exact ⟨settled_newGameState, mono _ _ _ (Nat.zero_le _) new⟩

end Invariant

/-! ## The active-slot invariant -/

theorem settled_of_reachable {formTypes : FormID → FormType} {session : Session}
    (h : (Session.system formTypes ownFiles).Reachable session) : Settled session.state := by
  have hinvariant : ((Session.system formTypes ownFiles).restrict fun _ _ => True).Invariant
      (Holds fun _ _ => True) :=
    ownSession_invariant (fun _ _ _ _ h => h) trivial (fun _ _ _ _ _ => trivial)
      fun _ _ _ => trivial
  exact (hinvariant.reachable h.restrict_true).state.1

/-- In every state of a session that loads its own co-saves, each slot that is set names
an option of the catalog that is compatible with the slot and unlocked. -/
theorem slotsValid_of_reachable {formTypes : FormID → FormType} {session : Session}
    (h : (Session.system formTypes ownFiles).Reachable session) (slotId : BuildSlotId)
    (hset : session.state.activeBuildSlots slotId ≠ []) :
    ∃ option ∈ getBuildOptionCatalog (F := Float32),
      option.id = session.state.activeBuildSlots slotId ∧
      Builds.isSlotCompatible option slotId = true ∧
      option.unlockPointsCenti ≤ session.state.pointsCenti option.discipline := by
  obtain ⟨option, hfind, hcompat, hunlocked⟩ :=
    ((settled_of_reachable h).slots slotId).resolve_left hset
  exact ⟨option, mem_catalog_of_findOption hfind, id_of_findOption hfind, hcompat, hunlocked⟩

/-- Six swords are registered. -/
def sixSwords : Session :=
  Session.act Session.weapons
    (.registerBatch ([1, 2, 3, 4, 5, 6].map fun sword => (Session.armory 1 0, sword)))
    { state := newGameState }

/-- Six swords are registered, and the first attack option is put into a slot. -/
def armed : Session :=
  Session.act Session.weapons (.activate none .Attack1 (utf8 "build.attack.ferocity")) sixSwords

theorem slotsValid_armed :
    ∃ option ∈ getBuildOptionCatalog (F := Float32),
      option.id = armed.state.activeBuildSlots .Attack1 ∧
      Builds.isSlotCompatible option .Attack1 = true ∧
      option.unlockPointsCenti ≤ armed.state.pointsCenti option.discipline :=
  slotsValid_of_reachable
    (((Session.reachable_newGame ownFiles).step (.act _ _)).step (.act _ _)) .Attack1
    (by decide +kernel)

end CodexOfPower
