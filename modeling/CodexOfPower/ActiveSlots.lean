/-
# `CodexOfPower.ActiveSlots` — what a slot may hold

The active-slot invariant: every non-empty slot names an option of the catalog that
is compatible with the slot and unlocked by the points of its discipline.  Each
operation on the state keeps it, for one of three reasons:

  * it leaves slots and points alone;
  * it raises points, or empties slots;
  * it ends by emptying every slot that is stale (`slotsValid_of_rollback`).

## What is not said

A load is not one of these operations: it takes the slots of a co-save as they are
(`CodexOfPower.LoadedSlots`).  That every state of a session with its own co-saves has valid
slots is put together in `CodexOfPower.OwnSessions`.

The invariant is about each slot alone.  That an option stands in one slot only is no part
of it: `SetActiveSlot` does not check that, and the page does (`CodexOfPower.PanelSessions`).
-/
import CodexOfPower.Registration
import CodexOfPower.Requests

namespace CodexOfPower

open RE Builds Registration BuildProgression

variable {F : Type} [FloatType F]

/-! ## The invariant -/

/-- The text names an option that the slot may hold, at these points. -/
def MayHold (state : RuntimeState F) (slotId : BuildSlotId) (text : Text) : Prop :=
  ∃ option : BuildOptionDef F, Builds.findOption text = some option ∧
    Builds.isSlotCompatible option slotId = true ∧
    option.unlockPointsCenti ≤ state.pointsCenti option.discipline

/-- Every slot is empty or holds what it may. -/
def SlotsValid (state : RuntimeState F) : Prop :=
  ∀ slotId, state.activeBuildSlots slotId = [] ∨
    MayHold state slotId (state.activeBuildSlots slotId)

section

variable {state state' : RuntimeState F}

theorem MayHold.mono {slotId : BuildSlotId} {text : Text}
    (hpoints : ∀ d, state.pointsCenti d ≤ state'.pointsCenti d) (h : MayHold state slotId text) :
    MayHold state' slotId text := by
  obtain ⟨option, hfind, hcompat, hunlocked⟩ := h
  exact ⟨option, hfind, hcompat, UInt32.le_trans hunlocked (hpoints _)⟩

/-- Points may rise and slots may be emptied. -/
theorem SlotsValid.mono (h : SlotsValid state)
    (hpoints : ∀ d, state.pointsCenti d ≤ state'.pointsCenti d)
    (hslots : ∀ slotId, state'.activeBuildSlots slotId = [] ∨
      state'.activeBuildSlots slotId = state.activeBuildSlots slotId) : SlotsValid state' := by
  intro slotId
  rcases hslots slotId with hempty | hsame
  · exact .inl hempty
  · rw [hsame]
    exact (h slotId).imp id (MayHold.mono hpoints)

/-- What the invariant depends on: slots and points. -/
theorem SlotsValid.congr (h : SlotsValid state)
    (hpoints : state'.pointsCenti = state.pointsCenti)
    (hslots : state'.activeBuildSlots = state.activeBuildSlots) : SlotsValid state' :=
  h.mono (fun d => by rw [hpoints]; exact UInt32.le_refl _) fun slotId => .inr (by rw [hslots])

theorem slotsValid_of_empty (h : ∀ slotId, state.activeBuildSlots slotId = []) :
    SlotsValid state := fun slotId => .inl (h slotId)

/-- The check the rollback makes is the invariant. -/
theorem slotIsStale_eq_false_iff {slotId : BuildSlotId} :
    slotIsStale state slotId = false ↔
      state.activeBuildSlots slotId = [] ∨
        MayHold state slotId (state.activeBuildSlots slotId) := by
  unfold slotIsStale
  by_cases hempty : state.activeBuildSlots slotId = []
  · rw [BuildStateStore.getActiveSlot_eq_none hempty]
    exact ⟨fun _ => .inl hempty, fun _ => rfl⟩
  rw [BuildStateStore.getActiveSlot_eq_some hempty]
  cases hfind : Builds.findOption (F := F) (state.activeBuildSlots slotId) with
  | none =>
    refine ⟨fun h => ?_, ?_⟩
    · simp [BuildProgression.findOption, hfind] at h
    · rintro (h | ⟨option, hsome, -⟩)
      · exact absurd h hempty
      · rw [hfind] at hsome
        cases hsome
  | some option =>
    have hpoints : ¬ state.pointsCenti option.discipline < option.unlockPointsCenti ↔
        option.unlockPointsCenti ≤ state.pointsCenti option.discipline := UInt32.not_lt
    have hmay : MayHold state slotId (state.activeBuildSlots slotId) ↔
        Builds.isSlotCompatible option slotId = true ∧
          option.unlockPointsCenti ≤ state.pointsCenti option.discipline := by
      constructor
      · rintro ⟨option', hsome, hcompat, hunlocked⟩
        rw [hfind] at hsome
        cases hsome
        exact ⟨hcompat, hunlocked⟩
      · exact fun h => ⟨option, hfind, h.1, h.2⟩
    rw [hmay, ← hpoints]
    simp only [BuildProgression.findOption, BuildProgression.isSlotCompatible, hfind, hempty,
      currentBuildPointsCenti_eq, Bool.or_eq_false_iff, Bool.not_eq_false', false_or]
    exact and_congr_right fun _ => decide_eq_false_iff_not

theorem SlotsValid.set (h : SlotsValid state) {slotId : BuildSlotId} {text : Text}
    (htext : text = [] ∨ MayHold state slotId text)
    (hpoints : state'.pointsCenti = state.pointsCenti)
    (hslots : state'.activeBuildSlots = state.activeBuildSlots.set slotId text) :
    SlotsValid state' := by
  have hmono : ∀ d, state.pointsCenti d ≤ state'.pointsCenti d :=
    fun d => by rw [hpoints]; exact UInt32.le_refl _
  intro id
  rw [hslots]
  by_cases hid : id = slotId
  · subst hid
    rw [ActiveBuildSlots.set_self]
    exact htext.imp (fun h => h) (MayHold.mono hmono)
  · rw [ActiveBuildSlots.set_of_ne _ hid]
    exact (h id).imp (fun h => h) (MayHold.mono hmono)

/-- Emptying the stale slots establishes the invariant. -/
theorem slotsValid_of_cleared (state : RuntimeState F)
    (hpoints : state'.pointsCenti = state.pointsCenti)
    (hslots : ∀ slotId, state'.activeBuildSlots slotId =
      if slotIsStale state slotId = true then [] else state.activeBuildSlots slotId) :
    SlotsValid state' := by
  intro slotId
  rw [hslots]
  by_cases hstale : slotIsStale state slotId = true
  · exact .inl (if_pos hstale)
  · rw [if_neg hstale]
    exact (slotIsStale_eq_false_iff.mp (Bool.not_eq_true _ ▸ hstale)).imp id
      (MayHold.mono fun d => by rw [hpoints]; exact UInt32.le_refl _)

end

/-! ## The operations keep it -/

section Operations

variable {state : RuntimeState F}

theorem slotsValid_setActiveSlot (h : SlotsValid state) (slotId : BuildSlotId) (optionId : Text) :
    SlotsValid (BuildStateStore.setActiveSlot state slotId optionId).1 := by
  rcases BuildStateStore.setActiveSlot_cases state slotId optionId with
    heq | ⟨option, hfind, hcompat, hunlocked, -, heq⟩
  · rw [heq]; exact h
  · rw [heq]; exact h.set (.inr ⟨option, hfind, hcompat, hunlocked⟩) rfl rfl

theorem slotsValid_clearActiveSlot (h : SlotsValid state) (slotId : BuildSlotId) :
    SlotsValid (BuildStateStore.clearActiveSlot state slotId) :=
  h.set (.inl rfl) rfl rfl

theorem slotsValid_sync (h : SlotsValid state) (avOwner : Option (ActorValue → F)) :
    SlotsValid (syncCurrentBuildEffectsToPlayer avOwner state).1 := by
  rw [sync_frame]
  exact h.congr rfl rfl

theorem slotsValid_activate (h : SlotsValid state) (avOwner : Option (ActorValue → F))
    (slotId : BuildSlotId) (optionId : Text) :
    SlotsValid (PrismaUIManager.activateBuildOption avOwner state slotId optionId).1 := by
  have hset := slotsValid_setActiveSlot h slotId optionId
  unfold PrismaUIManager.activateBuildOption
  dsimp only
  split_ifs
  · exact slotsValid_sync hset avOwner
  · exact hset

theorem slotsValid_deactivate (h : SlotsValid state) (avOwner : Option (ActorValue → F))
    (slotId : BuildSlotId) :
    SlotsValid (PrismaUIManager.deactivateBuildOption avOwner state slotId) :=
  slotsValid_sync (slotsValid_clearActiveSlot h slotId) avOwner

theorem slotsValid_swap (h : SlotsValid state) (avOwner : Option (ActorValue → F))
    (fromSlotId toSlotId : BuildSlotId) (optionId : Text) :
    SlotsValid (PrismaUIManager.swapBuildOption avOwner state fromSlotId toSlotId optionId).1 := by
  have hcleared := slotsValid_clearActiveSlot h fromSlotId
  have hset := slotsValid_setActiveSlot hcleared toSlotId optionId
  unfold PrismaUIManager.swapBuildOption
  dsimp only
  split_ifs
  · exact slotsValid_setActiveSlot hset fromSlotId optionId
  · exact slotsValid_sync hset avOwner
  · exact h

theorem slotsValid_apply (h : SlotsValid state) (c : BuildScoreContribution) :
    SlotsValid (applyRegistrationContribution state c).1 :=
  h.mono (fun d => (le_applyRegistrationContribution state c d).2) fun slotId =>
    .inr (by rw [activeBuildSlots_applyRegistrationContribution])

/-- After a rollback that counts, the invariant holds whatever held before. -/
theorem slotsValid_of_rollback (state : RuntimeState F) {c : BuildScoreContribution}
    (hc : Effective c) : SlotsValid (rollbackRegistrationContributionDetailed state c).1 := by
  rw [rollbackRegistrationContributionDetailed_eq hc]
  have hslots : (subtractContribution state c).activeBuildSlots = state.activeBuildSlots := by
    simp [subtractContribution]
  exact slotsValid_of_cleared (subtractContribution state c) rfl fun slotId => by rw [hslots]

theorem slotsValid_rollback (h : SlotsValid state) (c : BuildScoreContribution) :
    SlotsValid (rollbackRegistrationContributionDetailed state c).1 := by
  by_cases hc : Effective c
  · exact slotsValid_of_rollback state hc
  · rwa [rollbackRegistrationContributionDetailed_of_not_effective hc]

/-! ### Registration and undo -/

theorem slotsValid_commit (h : SlotsValid state) (formTypes : FormID → FormType)
    (env : Environment F) (item regKey : FormID) (group : UInt32) :
    SlotsValid (commitRegistration formTypes env state item regKey group).1 := by
  obtain ⟨ledger, heq⟩ := commitRegistration_eq formTypes env state item regKey group
  rw [heq]
  have happlied : SlotsValid
      (applied state (makeRegistrationContribution group (formTypes regKey))) := by
    unfold applied
    cases makeRegistrationContribution group (formTypes regKey) with
    | none => exact h
    | some c => exact slotsValid_apply h c
  exact happlied.congr rfl rfl

theorem slotsValid_tryRegisterItem (h : SlotsValid state) (formTypes : FormID → FormType)
    (env : Environment F) (formId : FormID) :
    SlotsValid (tryRegisterItem formTypes env state formId).1 := by
  rcases tryRegisterItem_cases formTypes env state formId with
    ⟨-, heq | heq⟩ | ⟨-, -, -, heq⟩
  · rw [heq]; exact h
  · rw [heq, RegistrationStateStore.blockPair_frame]
    exact h.congr rfl rfl
  · rw [heq]; exact slotsValid_commit h formTypes env formId _ _

theorem slotsValid_undone (h : SlotsValid state) (env : Environment F)
    (older : List (UndoRecord F)) (record : UndoRecord F) :
    SlotsValid (undone env state older record) := by
  have htaken : SlotsValid (takenBack state older record) := h.congr rfl rfl
  cases hc : record.buildContribution with
  | some c =>
    obtain ⟨ledger, heq⟩ := undone_of_contribution env state older hc
    rw [heq]
    exact (slotsValid_rollback htaken c).congr rfl rfl
  | none =>
    rw [undone_of_no_contribution env state older hc, Rewards.rollbackRewardDeltas_frame]
    exact htaken.congr rfl rfl

theorem slotsValid_tryUndoRegistration (h : SlotsValid state) (env : Environment F)
    (actionId : UInt64) : SlotsValid (tryUndoRegistration env state actionId).1 := by
  rcases tryUndoRegistration_cases env state actionId with
    ⟨-, heq⟩ | ⟨older, record, -, -, ⟨-, -, heq⟩ | ⟨-, -, -, heq⟩ | ⟨-, -, -, heq⟩⟩
  · rw [heq]; exact h
  · rw [heq]; exact h.congr rfl rfl
  · rw [heq]; exact h.congr rfl rfl
  · rw [heq]; exact slotsValid_undone h env older record

end Operations

end CodexOfPower
