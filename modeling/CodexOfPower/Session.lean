/-
# `CodexOfPower.Session` — a game, from its start to any later moment

A session is a run of the plugin: a new game, then requests of the UI, pickups,
saves, loads and further new games in any order.  What the game answers during a
request, what the disk accepts during a save, and which co-save the player loads
are all open.

Which co-saves can be loaded is a parameter.  With `ownFiles` they are those this
run wrote completely, and the load order has not changed; with `anyFiles` they are
arbitrary records under an arbitrary load order.

## What is not said

The threads of the game are not here: an action is done before the next one begins.  What
interleaves is modelled where it matters, for the settings, the cached list, the focus and
the refresh of the page.
-/
import CodexOfPower.ActiveSlots
import CodexOfPower.SerializationSafety
import CodexOfPower.SerializationSave
import CodexOfPower.Lib.Transition

namespace CodexOfPower

open RE Builds BuildProgression Registration Serialization SerializationStateStore

/-! ## Messages of the game -/

section Messages

variable (lookupFormType : FormTypeLookup) (cleanup : Snapshot Float32 → Bool)
  (avOwner : Option (ActorValue → Float32))

/-- `Revert`, then `kNewGame`. -/
def newGame (state : RuntimeState Float32) : RuntimeState Float32 :=
  let state := resetForLoad (revert state)
  let state := (processBuildMigrationState lookupFormType cleanup state).1
  (syncCurrentBuildEffectsToPlayer avOwner state).1

/-- `kPreLoadGame`, `Revert`, `Load`, then `kPostLoadGame`. -/
def loadGame (resolveFormID : FormIDResolver) (records : List Record)
    (state : RuntimeState Float32) : RuntimeState Float32 :=
  let state := revert (resetForLoad state)
  let state := (load resolveFormID lookupFormType records state).state
  let state := (processBuildMigrationState lookupFormType cleanup state).1
  (syncCurrentBuildEffectsToPlayer avOwner state).1

/-- The state of a new game: of the current version, and complete. -/
def newGameState : RuntimeState Float32 :=
  { buildMigrationVersion := kBuildMigrationVersion, buildMigrationState := .kComplete }

theorem newGame_eq (state : RuntimeState Float32) :
    newGame lookupFormType cleanup avOwner state = newGameState := by
  have hnormal : (processBuildMigrationState lookupFormType cleanup
      (resetForLoad (revert state))).1 = newGameState := rfl
  -- no slot is set, so there is nothing to sync
  have hderived : computeDerivedBuildActorValueTotals (F := Float32)
      (snapshotCurrentBuildRuntime newGameState) = [] := List.mergeSort_nil
  have hdesired : desiredTotals newGameState = ∅ := congrArg (UnorderedMap.emplaceAll · ∅) hderived
  refine (congrArg (fun normal => (syncCurrentBuildEffectsToPlayer avOwner normal).1)
    hnormal).trans ?_
  cases avOwner with
  | none => rfl
  | some reading =>
    unfold syncCurrentBuildEffectsToPlayer
    dsimp only
    rw [hdesired]
    rfl

end Messages

/-! ## Actions -/

/-- What happens between two loads: a request of the UI, or a pickup that was noticed. -/
inductive Action
  | register (env : Environment Float32) (formId : FormID)
  | registerBatch (calls : List (Environment Float32 × FormID))
  | undo (env : Environment Float32) (actionId : UInt64)
  | activate (avOwner : Option (ActorValue → Float32)) (slotId : BuildSlotId) (optionId : Text)
  | deactivate (avOwner : Option (ActorValue → Float32)) (slotId : BuildSlotId)
  | swap (avOwner : Option (ActorValue → Float32)) (fromSlotId toSlotId : BuildSlotId)
      (optionId : Text)
  | notify (primaryId secondaryId : FormID)
  | refund (avOwner : Bool)

section Perform

variable (formTypes : FormID → FormType)

/-- The state after an action, and how many registrations it made. -/
def perform : Action → RuntimeState Float32 → RuntimeState Float32 × Nat
  | .register env formId, state =>
    let (state, result) := tryRegisterItem formTypes env state formId
    (state, if result.success then 1 else 0)
  | .registerBatch calls, state => Registration.registerBatch formTypes state calls
  | .undo env actionId, state => ((tryUndoRegistration env state actionId).1, 0)
  | .activate avOwner slotId optionId, state =>
    ((PrismaUIManager.activateBuildOption avOwner state slotId optionId).1, 0)
  | .deactivate avOwner slotId, state =>
    (PrismaUIManager.deactivateBuildOption avOwner state slotId, 0)
  | .swap avOwner fromSlotId toSlotId optionId, state =>
    ((PrismaUIManager.swapBuildOption avOwner state fromSlotId toSlotId optionId).1, 0)
  | .notify primaryId secondaryId, state =>
    (NotifiedStateStore.markPair state primaryId secondaryId, 0)
  | .refund avOwner, state => ((Rewards.refundRewards avOwner state).1, 0)

end Perform

/-! ## Sessions -/

/-- The runtime state, the co-saves written so far, and how many registrations were
made; the last two are not known to the plugin. -/
structure Session where
  state : RuntimeState Float32
  saves : List (List Record) := []
  registrations : Nat := 0

/-- Which co-saves may be loaded, and how their form ids resolve then. -/
abbrev Files := Session → FormIDResolver → List Record → Prop

/-- The co-saves of this run, every form id resolving to itself. -/
def ownFiles : Files := fun session resolveFormID records =>
  resolveFormID = some ∧ records ∈ session.saves

def anyFiles : Files := fun _ _ _ => True

namespace Session

variable (formTypes : FormID → FormType) (files : Files)

def act (action : Action) (session : Session) : Session :=
  { session with
    state := (perform formTypes action session.state).1
    registrations := session.registrations + (perform formTypes action session.state).2 }

inductive Step : Session → Session → Prop
  | act (session : Session) (action : Action) : Step session (session.act formTypes action)
  /-- A save that was written completely can be loaded later. -/
  | save (session : Session) (accepts : Nat → Bool) (records : List Record)
      (h : save accepts session.state = (true, records)) :
      Step session { session with saves := records :: session.saves }
  | load (session : Session) (lookupFormType : FormTypeLookup)
      (cleanup : Snapshot Float32 → Bool) (avOwner : Option (ActorValue → Float32))
      (resolveFormID : FormIDResolver) (records : List Record)
      (h : files session resolveFormID records) :
      Step session { session with
        state := loadGame lookupFormType cleanup avOwner resolveFormID records session.state }
  | newGame (session : Session) (lookupFormType : FormTypeLookup)
      (cleanup : Snapshot Float32 → Bool) (avOwner : Option (ActorValue → Float32)) :
      Step session { session with
        state := CodexOfPower.newGame lookupFormType cleanup avOwner session.state }

/-- Sessions start with a new game. -/
def system : TransitionSystem Session where
  init session := ∃ lookupFormType cleanup avOwner,
    session = { state := CodexOfPower.newGame lookupFormType cleanup avOwner {} }
  step := Step formTypes files

end Session

end CodexOfPower
