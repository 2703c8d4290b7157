/-
# `CodexOfPower.SaveLoad` — every state of a session survives saving and loading

`Restorable` is an invariant of sessions in which arbitrary co-saves are loaded, so
the round trip of `CodexOfPower.RoundTrip` is one of every reachable state.

## What is not said

The save is a complete one; of an incomplete one nothing is said.  States of an older version
are left out.  The next action id is the one part that may come back as another, raised above
the id of the newest record.  In a session that loads its own co-saves it comes back as it
was as long as the ids have not run out (`IdsBelow.nextActionIdOf_eq`); in other sessions it
need not.
-/
import CodexOfPower.RestorableStates
import CodexOfPower.WrappedIds

namespace CodexOfPower.Serialization

open RE Builds BuildProgression Registration SerializationStateStore

/-! ## Every state is restorable -/

theorem restorable_newGameState : Restorable newGameState where
  toReadable := readable_default.congr rfl rfl rfl
  slotCurrent _ := rfl
  slotsPending _ _ := rfl
  deltasComplete _ _ hrecord := absurd hrecord List.not_mem_nil

theorem restorable_loadGame (lookupFormType : FormTypeLookup) (cleanup : Snapshot Float32 → Bool)
    (avOwner : Option (ActorValue → Float32)) (resolveFormID : FormIDResolver)
    (records : List Record) (state : RuntimeState Float32) :
    Restorable (loadGame lookupFormType cleanup avOwner resolveFormID records state) := by
  refine restorable_sync (restorable_process ?_ lookupFormType cleanup) avOwner
  rw [load_state]
  cases hdecode : decodeRecords resolveFormID records {} with
  | none => exact readable_default
  | some decoded =>
    exact (restorable_normalize (readable_decodeRecords readable_default hdecode)
      lookupFormType none).1.toReadable

/-- Every state of a session is restorable, whatever co-saves may have been loaded on the way.
-/
theorem invariant_restorable (formTypes : FormID → FormType) (files : Files) :
    (Session.system formTypes files).Invariant fun session => Restorable session.state where
  init session hinit := by
    obtain ⟨lookupFormType, cleanup, avOwner, rfl⟩ := hinit
    rw [newGame_eq]
    exact restorable_newGameState
  step session session' h hstep := by
    cases hstep with
    | act action => exact restorable_perform h formTypes action
    | save accepts records hsave => exact h
    | load lookupFormType cleanup avOwner resolveFormID records hfile =>
      exact restorable_loadGame _ _ _ _ _ _
    | newGame lookupFormType cleanup avOwner =>
      rw [newGame_eq]
      exact restorable_newGameState

/-! ## The round trip in a session -/

section Session

variable {formTypes : FormID → FormType} {session : Session} {accepts : Nat → Bool}
  {records : List Record} {resolveFormID : FormIDResolver}

/-- In any session, with arbitrary co-saves loaded on the way, a state of version 2,
whatever its migration, comes back from a complete save in every part, but for the next
action id: that one comes back no smaller than the newest record's id and one. -/
theorem load_save_restores
    (hreachable : (Session.system formTypes anyFiles).Reachable session)
    (hversion : session.state.buildMigrationVersion = 2)
    (hsave : save accepts session.state = (true, records))
    (hresolve : ResolvesStored resolveFormID session.state) (lookupFormType : FormTypeLookup)
    (before : RuntimeState Float32) :
    Restores session.state (load resolveFormID lookupFormType records (revert before)).state ∧
      (load resolveFormID lookupFormType records (revert before)).state.undoNextActionId =
        nextActionIdOf session.state.undoHistory session.state.undoNextActionId :=
  load_saved ((invariant_restorable formTypes anyFiles).reachable hreachable)
    (by rw [hversion]; exact UInt32.le_refl _) hresolve hsave lookupFormType _

theorem save_eq_of_fst {state : RuntimeState Float32} (h : (save accepts state).1 = true) :
    save accepts state = (true, (save accepts state).2) := by
  rw [← h]

end Session

/-- The state with one registered item. -/
theorem load_save_restores_oneSword :
    Restores (Session.oneSword 2) (load some (fun _ => none)
        (save (fun _ => true) (Session.oneSword 2)).2 (revert {})).state ∧
      (load some (fun _ => none)
        (save (fun _ => true) (Session.oneSword 2)).2 (revert {})).state.undoNextActionId =
        nextActionIdOf [Session.swordRecord 1 1] 2 := by
  have hreachable : (Session.system Session.weapons anyFiles).Reachable
      { state := Session.oneSword 2, saves := [], registrations := 1 } :=
    Session.reachable_rounds anyFiles 0
  have hsave : save (fun _ => true) (Session.oneSword 2) =
      (true, (save (fun _ => true) (Session.oneSword 2)).2) := save_eq_of_fst (by decide +kernel)
  exact load_save_restores hreachable rfl hsave (resolvesStored_some _)
    (fun _ => none) {}

/-- The next action id alone does not always come back: once the ids have run out, it is
raised by the load. -/
theorem not_load_save_restores_nextActionId :
    ¬ ∀ (formTypes : FormID → FormType) (session : Session),
      (Session.system formTypes anyFiles).Reachable session →
      session.state.buildMigrationVersion = 2 →
      session.state.buildMigrationState = .kComplete ∨
        session.state.buildMigrationState = .kPendingCleanup →
      ∀ (accepts : Nat → Bool) (records : List Record),
      save accepts session.state = (true, records) →
      ∀ resolveFormID : FormIDResolver, ResolvesStored resolveFormID session.state →
      ∀ (lookupFormType : FormTypeLookup) (before : RuntimeState Float32),
      Restores session.state (load resolveFormID lookupFormType records (revert before)).state ∧
        (load resolveFormID lookupFormType records (revert before)).state.undoNextActionId =
          session.state.undoNextActionId := by
  intro h
  obtain ⟨registrations, hreachable⟩ := Session.reachable_wrapped anyFiles
  have hsave := save_eq_of_fst
    (by decide +kernel : (save (fun _ => true) (Session.oneSword 0)).1 = true)
  obtain ⟨-, hsame⟩ := h _ _ hreachable rfl (.inl rfl) _ _ hsave some (resolvesStored_some _)
    (fun _ => none) {}
  obtain ⟨-, hraised⟩ := load_saved
    ((invariant_restorable _ anyFiles).reachable hreachable) (UInt32.le_refl _)
    (resolvesStored_some _) hsave (fun _ => none) (revert {})
  have hwrong : nextActionIdOf (Session.oneSword 0).undoHistory 0 = 0 := hraised.symm.trans hsame
  exact absurd hwrong (by decide)

end CodexOfPower.Serialization
