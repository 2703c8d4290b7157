/-
# `CodexOfPower.SwapAtomicity` — a swap that fails, and what it leaves behind

A swap empties the source slot, sets the target, and if that is refused sets the
source again.  The setter that puts the option back makes the same checks as any
other, so it may refuse too: an option that came with a co-save into a slot that does
not take it, or that its points do not unlock, is gone after a failed swap.

For one swap the condition is exact (`swap_atomic_iff`).  While only co-saves with
valid slots are loaded, what stands in a slot may stand there, and every swap is
atomic.

## What is not said

Only slots are compared here; the effects are synced after a swap that succeeds, and not
after one that fails.
-/
import CodexOfPower.LoadedSlots
import CodexOfPower.OwnSessions

namespace CodexOfPower

open RE Builds BuildProgression Serialization SerializationStateStore

/-! ## One swap -/

section Swap

variable {F : Type} [FloatType F]

/-- All or nothing: a failed swap leaves the slots as they were, a successful one moves
the option and touches no other slot. -/
structure SwapAtomic (state : RuntimeState F) (fromSlotId toSlotId : BuildSlotId)
    (optionId : Text) (result : RuntimeState F × Bool) : Prop where
  failed : result.2 = false → result.1.activeBuildSlots = state.activeBuildSlots
  target : result.2 = true → result.1.activeBuildSlots toSlotId = optionId
  source : result.2 = true → fromSlotId ≠ toSlotId → result.1.activeBuildSlots fromSlotId = []
  others : result.2 = true → ∀ slotId, slotId ≠ fromSlotId → slotId ≠ toSlotId →
    result.1.activeBuildSlots slotId = state.activeBuildSlots slotId

/-- What `SetActiveSlot` checks. -/
def Accepts (state : RuntimeState F) (slotId : BuildSlotId) (optionId : Text) : Prop :=
  state.buildMigrationState ≠ .kPendingCleanup ∧ MayHold state slotId optionId

/-- The option is not in the source slot, or goes into the target, or may go back. -/
def SwapCovered (state : RuntimeState F) (fromSlotId toSlotId : BuildSlotId)
    (optionId : Text) : Prop :=
  BuildStateStore.getActiveSlot state fromSlotId = some optionId →
    Accepts state toSlotId optionId ∨ Accepts state fromSlotId optionId

variable {state : RuntimeState F} {slotId fromSlotId toSlotId : BuildSlotId} {optionId : Text}

theorem setActiveSlot_of_accepts (h : Accepts state slotId optionId) :
    BuildStateStore.setActiveSlot state slotId optionId =
      ({ state with activeBuildSlots := state.activeBuildSlots.set slotId optionId }, true) := by
  obtain ⟨hcomplete, option, hfind, hcompatible, hunlocked⟩ := h
  have hfound : BuildStateStore.findOption optionId = some option := hfind
  have hfits : BuildStateStore.isSlotCompatible option slotId = true := hcompatible
  unfold BuildStateStore.setActiveSlot
  rw [if_neg hcomplete, hfound]
  dsimp only
  rw [hfits, Bool.not_true, if_neg Bool.false_ne_true]
  exact if_neg (UInt32.not_lt.mpr hunlocked)

theorem setActiveSlot_of_not_accepts (h : ¬ Accepts state slotId optionId) :
    BuildStateStore.setActiveSlot state slotId optionId = (state, false) := by
  rcases BuildStateStore.setActiveSlot_cases state slotId optionId with
    heq | ⟨option, hfind, hcompatible, hunlocked, hcomplete, -⟩
  · exact heq
  · exact absurd ⟨hcomplete, option, hfind, hcompatible, hunlocked⟩ h

theorem accepts_clearActiveSlot :
    Accepts (BuildStateStore.clearActiveSlot state fromSlotId) slotId optionId ↔
      Accepts state slotId optionId := Iff.rfl

omit [FloatType F] in
theorem activeSlot_of_getActiveSlot
    (h : BuildStateStore.getActiveSlot state slotId = some optionId) :
    state.activeBuildSlots slotId = optionId ∧ optionId ≠ [] := by
  by_cases hempty : state.activeBuildSlots slotId = []
  · rw [BuildStateStore.getActiveSlot_eq_none hempty] at h
    cases h
  · rw [BuildStateStore.getActiveSlot_eq_some hempty] at h
    obtain rfl := Option.some.inj h
    exact ⟨rfl, hempty⟩

/-- Cleared and set again, the slots are as before. -/
theorem set_set_self (slots : ActiveBuildSlots) (slotId : BuildSlotId) :
    (slots.set slotId []).set slotId (slots slotId) = slots := by
  funext id
  by_cases hid : id = slotId
  · subst hid
    exact ActiveBuildSlots.set_self _ _ _
  · rw [ActiveBuildSlots.set_of_ne _ hid, ActiveBuildSlots.set_of_ne _ hid]

variable {avOwner : Option (ActorValue → F)}

theorem swap_of_absent (h : BuildStateStore.getActiveSlot state fromSlotId ≠ some optionId) :
    PrismaUIManager.swapBuildOption avOwner state fromSlotId toSlotId optionId =
      (state, false) := if_neg h

theorem swap_of_accepts (avOwner : Option (ActorValue → F))
    (h : BuildStateStore.getActiveSlot state fromSlotId = some optionId)
    (htarget : Accepts state toSlotId optionId) :
    ∃ ledger, PrismaUIManager.swapBuildOption avOwner state fromSlotId toSlotId optionId =
      ({ state with
          activeBuildSlots := (state.activeBuildSlots.set fromSlotId []).set toSlotId optionId
          buildAppliedEffectTotals := ledger }, true) := by
  have hcleared : Accepts (BuildStateStore.clearActiveSlot state fromSlotId) toSlotId optionId :=
    accepts_clearActiveSlot.mpr htarget
  have hset := setActiveSlot_of_accepts hcleared
  unfold PrismaUIManager.swapBuildOption
  rw [if_pos h]
  dsimp only
  rw [hset, Bool.not_true, if_neg Bool.false_ne_true, sync_frame]
  exact ⟨_, rfl⟩

theorem swap_of_refused (h : BuildStateStore.getActiveSlot state fromSlotId = some optionId)
    (htarget : ¬ Accepts state toSlotId optionId) :
    PrismaUIManager.swapBuildOption avOwner state fromSlotId toSlotId optionId =
      ((BuildStateStore.setActiveSlot (BuildStateStore.clearActiveSlot state fromSlotId)
        fromSlotId optionId).1, false) := by
  have hcleared : ¬ Accepts (BuildStateStore.clearActiveSlot state fromSlotId) toSlotId optionId :=
    mt accepts_clearActiveSlot.mp htarget
  have hset := setActiveSlot_of_not_accepts hcleared
  unfold PrismaUIManager.swapBuildOption
  rw [if_pos h]
  dsimp only
  rw [hset]
  rfl

/-- Exactly when one swap is atomic. -/
theorem swapAtomic_iff_covered (avOwner : Option (ActorValue → F)) (state : RuntimeState F)
    (fromSlotId toSlotId : BuildSlotId) (optionId : Text) :
    SwapAtomic state fromSlotId toSlotId optionId
        (PrismaUIManager.swapBuildOption avOwner state fromSlotId toSlotId optionId) ↔
      SwapCovered state fromSlotId toSlotId optionId := by
  by_cases hpresent : BuildStateStore.getActiveSlot state fromSlotId = some optionId
  case neg =>
    rw [swap_of_absent hpresent]
    exact ⟨fun _ h => absurd h hpresent, fun _ => ⟨fun _ => rfl, nofun, nofun, nofun⟩⟩
  obtain ⟨hsource, hne⟩ := activeSlot_of_getActiveSlot hpresent
  by_cases htarget : Accepts state toSlotId optionId
  · obtain ⟨ledger, heq⟩ := swap_of_accepts avOwner hpresent htarget
    rw [heq]
    refine ⟨fun _ _ => .inl htarget, fun _ => ⟨nofun, fun _ => ?_, fun _ hslots => ?_, ?_⟩⟩
    · exact ActiveBuildSlots.set_self _ _ _
    · show (state.activeBuildSlots.set fromSlotId []).set toSlotId optionId fromSlotId = []
      rw [ActiveBuildSlots.set_of_ne _ hslots, ActiveBuildSlots.set_self]
    · intro _ slotId hfrom hto
      show (state.activeBuildSlots.set fromSlotId []).set toSlotId optionId slotId = _
      rw [ActiveBuildSlots.set_of_ne _ hto, ActiveBuildSlots.set_of_ne _ hfrom]
  · rw [swap_of_refused hpresent htarget]
    by_cases hback : Accepts state fromSlotId optionId
    · rw [setActiveSlot_of_accepts (accepts_clearActiveSlot.mpr hback)]
      refine ⟨fun _ _ => .inr hback, fun _ => ⟨fun _ => ?_, nofun, nofun, nofun⟩⟩
      show (state.activeBuildSlots.set fromSlotId []).set fromSlotId optionId = _
      rw [← hsource, set_set_self]
    · rw [setActiveSlot_of_not_accepts (mt accepts_clearActiveSlot.mp hback)]
      constructor
      · intro hatomic
        have hslots := congrFun (hatomic.failed rfl) fromSlotId
        have hcleared : state.activeBuildSlots.set fromSlotId [] fromSlotId = [] :=
          ActiveBuildSlots.set_self _ _ _
        exact absurd (hsource.symm.trans (hslots.symm.trans hcleared)) hne
      · intro hcovered
        rcases hcovered hpresent with h | h
        · exact absurd h htarget
        · exact absurd h hback

end Swap

/-! ## Swaps in a session -/

/-- The co-saves whose slots are valid once they are loaded. -/
def validFiles : Files := fun _ resolveFormID records =>
  ∀ decoded, decodeRecords resolveFormID records {} = some decoded → GivesValidSlots decoded

section Session

variable {state : RuntimeState Float32}

theorem slotsValid_normalize (h : SlotsValid state) (lookupFormType : FormTypeLookup)
    (resolver : Option LegacyDisciplineResolver) :
    SlotsValid (normalizeLoadedSnapshot lookupFormType resolver state) := by
  rw [slotsValid_normalize_iff]
  exact .inr (.inr fun slotId => (h slotId).imp id Or.inl)

theorem slotsValid_process (h : SlotsValid state) (lookupFormType : FormTypeLookup)
    (cleanup : Snapshot Float32 → Bool) :
    SlotsValid (processBuildMigrationState lookupFormType cleanup state).1 := by
  have hnormal := slotsValid_normalize h lookupFormType none
  have hconsume : ∀ snapshot : Snapshot Float32, SlotsValid snapshot →
      SlotsValid (consumeMigrationNotice snapshot).1 := by
    intro snapshot hsnapshot
    unfold consumeMigrationNotice
    split_ifs
    · exact hsnapshot
    · exact hsnapshot.congr rfl rfl
  refine hconsume (tryFinalizePendingMigration (some cleanup)
    (normalizeLoadedSnapshot lookupFormType none state)).1 ?_
  generalize normalizeLoadedSnapshot lookupFormType none state = normal at hnormal
  unfold tryFinalizePendingMigration
  dsimp only
  split_ifs
  · exact hnormal
  · exact hnormal.congr rfl rfl
  · exact hnormal
  · exact slotsValid_of_empty fun _ => rfl
  · exact slotsValid_of_empty fun _ => rfl

theorem slotsValid_loadGame {resolveFormID : FormIDResolver} {records : List Record}
    (hvalid : ∀ decoded, decodeRecords resolveFormID records {} = some decoded →
      GivesValidSlots decoded) (lookupFormType : FormTypeLookup)
    (cleanup : Snapshot Float32 → Bool) (avOwner : Option (ActorValue → Float32)) :
    SlotsValid (loadGame lookupFormType cleanup avOwner resolveFormID records state) := by
  have hload := (load_slotsValid_iff resolveFormID lookupFormType records
    (resetForLoad state)).mpr hvalid
  exact slotsValid_sync (slotsValid_process hload lookupFormType cleanup) avOwner

/-- While no file brings in a slot that is not valid, all slots are. -/
theorem invariant_slotsValid (formTypes : FormID → FormType) :
    (Session.system formTypes validFiles).Invariant fun session => SlotsValid session.state where
  init session hinit := by
    obtain ⟨lookupFormType, cleanup, avOwner, rfl⟩ := hinit
    rw [newGame_eq]
    exact slotsValid_of_empty fun _ => rfl
  step session session' h hstep := by
    cases hstep with
    | act action => exact slotsValid_perform formTypes h action
    | save accepts records hsave => exact h
    | load lookupFormType cleanup avOwner resolveFormID records hfile =>
      exact slotsValid_loadGame hfile lookupFormType cleanup avOwner
    | newGame lookupFormType cleanup avOwner =>
      rw [newGame_eq]
      exact slotsValid_of_empty fun _ => rfl

/-- An option in a valid slot may go back to it: a pending cleanup leaves no slot set. -/
theorem swapCovered_of_slotsValid (hslots : SlotsValid state) (hrestorable : Restorable state)
    (fromSlotId toSlotId : BuildSlotId) (optionId : Text) :
    SwapCovered state fromSlotId toSlotId optionId := by
  intro hpresent
  obtain ⟨rfl, hne⟩ := activeSlot_of_getActiveSlot hpresent
  refine .inr ⟨fun hpending => ?_, (hslots fromSlotId).resolve_left hne⟩
  exact hne (hrestorable.slotsPending hpending fromSlotId)

end Session

/-- In whatever state, a swap is atomic exactly when a refused target does not meet a
source that refuses too; and in a session that loads no co-save with a slot that is not
valid, every swap is. -/
theorem swap_atomic_iff (formTypes : FormID → FormType) :
    (∀ session, (Session.system formTypes anyFiles).Reachable session →
      ∀ (avOwner : Option (ActorValue → Float32)) (fromSlotId toSlotId : BuildSlotId)
        (optionId : Text),
      SwapAtomic session.state fromSlotId toSlotId optionId
          (PrismaUIManager.swapBuildOption avOwner session.state fromSlotId toSlotId optionId) ↔
        SwapCovered session.state fromSlotId toSlotId optionId) ∧
    ∀ session, (Session.system formTypes validFiles).Reachable session →
      ∀ (avOwner : Option (ActorValue → Float32)) (fromSlotId toSlotId : BuildSlotId)
        (optionId : Text),
      SwapAtomic session.state fromSlotId toSlotId optionId
        (PrismaUIManager.swapBuildOption avOwner session.state fromSlotId toSlotId optionId) := by
  constructor
  · intro session _ avOwner fromSlotId toSlotId optionId
    exact swapAtomic_iff_covered avOwner session.state fromSlotId toSlotId optionId
  · intro session hreachable avOwner fromSlotId toSlotId optionId
    have hslots := (invariant_slotsValid formTypes).reachable hreachable
    have hrestorable := (invariant_restorable formTypes validFiles).reachable hreachable
    exact (swapAtomic_iff_covered avOwner session.state fromSlotId toSlotId optionId).mpr
      (swapCovered_of_slotsValid hslots hrestorable fromSlotId toSlotId optionId)

/-! ## An option that does not come back -/

/-- The contents of the migration record of the current version, complete. -/
def migrationDone : Bytes :=
  toBytes (2 : UInt32) ++ toBytes (2 : UInt32) ++ [0, 0] ++ toBytes (0 : UInt32)

theorem migrationDone_fits : migrationDone.length < 2 ^ 32 := by decide

/-- A co-save of the current version with 1200 defense points and the retired fire ward,
which those points unlocked, in the defense slot. -/
def fireWardFile : List Record :=
  [({ type := kRecordBuildScores
      version := 2
      contents := toBytes (0 : UInt32) ++ toBytes (40 : UInt32) ++ toBytes (0 : UInt32) ++
        toBytes (0 : UInt32) ++ toBytes (1200 : UInt32) ++ toBytes (0 : UInt32)
      fits := by decide } : WrittenRecord).toRecord,
   ({ type := kRecordBuildMigration
      version := 1
      contents := migrationDone
      fits := migrationDone_fits } : WrittenRecord).toRecord,
   ({ type := kRecordBuildSlots
      version := 1
      contents := toBytes (3 : UInt32) ++ toBytes (0 : UInt32) ++ toBytes (0 : UInt32) ++
        toBytes (22 : UInt32) ++ utf8 "build.defense.fireward"
      fits := by decide } : WrittenRecord).toRecord]

/-- The state after loading it: the ward has become the elemental one, which takes 1600. -/
def wardedState : RuntimeState Float32 :=
  loadGame (fun _ => none) (fun _ => true) none some fireWardFile newGameState

theorem wardedState_slots : wardedState.defenseBuildPointsCenti = 1200 ∧
    wardedState.activeBuildSlots .Defense1 = utf8 "build.defense.elementalWard" := by
  have hdecode : decodeRecords some fireWardFile {} = some
      { defenseScore := 40
        defenseBuildPointsCenti := 1200
        buildMigrationVersion := 2
        buildMigrationState := .kComplete
        activeBuildSlots := slotsOfTexts [[], [], utf8 "build.defense.fireward"] } := rfl
  have hloaded : wardedState = (processBuildMigrationState (fun _ => none) (fun _ => true)
      (load some (fun _ => none) fireWardFile (revert (resetForLoad newGameState))).state).1 := rfl
  rw [load_state, hdecode] at hloaded
  rw [hloaded]
  exact ⟨rfl, rfl⟩

/-- Moving the ward to the wildcard slot fails, and the defense slot is empty after it. -/
theorem not_swap_atomic : ¬ ∀ (formTypes : FormID → FormType) (session : Session),
    (Session.system formTypes anyFiles).Reachable session →
    ∀ (avOwner : Option (ActorValue → Float32)) (fromSlotId toSlotId : BuildSlotId)
      (optionId : Text),
    SwapAtomic session.state fromSlotId toSlotId optionId
      (PrismaUIManager.swapBuildOption avOwner session.state fromSlotId toSlotId optionId) := by
  intro h
  obtain ⟨hpoints, hslot⟩ := wardedState_slots
  have hreachable : (Session.system Session.weapons anyFiles).Reachable
      { state := wardedState } :=
    (Session.reachable_newGame anyFiles).step (.load _ (fun _ => none) (fun _ => true) none some
      fireWardFile trivial)
  have hcovered := (swapAtomic_iff_covered none wardedState .Defense1 .Wildcard1
    (utf8 "build.defense.elementalWard")).mp (h _ _ hreachable none _ _ _)
  have hlocked : ∀ slotId, ¬ Accepts wardedState slotId (utf8 "build.defense.elementalWard") := by
    rintro slotId ⟨-, hmay⟩
    have hunlocked := (mayHold_elementalWard.mp hmay).2
    rw [hpoints] at hunlocked
    exact absurd hunlocked (by decide)
  have hpresent : BuildStateStore.getActiveSlot wardedState .Defense1 =
      some (utf8 "build.defense.elementalWard") := by
    rw [BuildStateStore.getActiveSlot_eq_some (by rw [hslot]; decide), hslot]
  rcases hcovered hpresent with haccepts | haccepts
  · exact hlocked _ haccepts
  · exact hlocked _ haccepts

/-- The first attack option, moved to the other attack slot. -/
theorem swap_atomic_iff_armed :
    SwapAtomic armed.state .Attack1 .Attack2 (utf8 "build.attack.ferocity")
      (PrismaUIManager.swapBuildOption none armed.state .Attack1 .Attack2
        (utf8 "build.attack.ferocity")) :=
  (swap_atomic_iff Session.weapons).2 armed
    (((Session.reachable_newGame validFiles).step (.act _ _)).step (.act _ _)) none .Attack1
    .Attack2 (utf8 "build.attack.ferocity")

end CodexOfPower
