/-
# `CodexOfPower.UndoIdentity` — registering and undoing is the identity on progress

A registration adds a key, and its contribution to one discipline; the undo of its
record takes both away.  The addition saturates and the subtraction stops at zero, so
the counters come back exactly when there is room for the addition (`HasRoom`); and
then the points are what they were, so a slot that was valid is not stale, and the
check of the slots deactivates none (`restored_iff`).

## What is not said

The ledger of effects, the marked items and the next action id are no part of the progress
that is compared.
-/
import CodexOfPower.UndoAtomicity
import CodexOfPower.Conservation

namespace CodexOfPower

open RE Builds BuildProgression Registration Serialization

variable {formTypes : FormID → FormType} {state : RuntimeState Float32}
  {env env' : Environment Float32} {formId regKey : FormID} {group : UInt32} {actionId : UInt64}

/-! ## What is compared -/

/-- The items, the scores, the points and the slots are as before; the table of
registered items is compared by content. -/
structure Restored (before after : RuntimeState Float32) : Prop where
  registeredItems : after.registeredItems.Same before.registeredItems
  score : after.score = before.score
  pointsCenti : after.pointsCenti = before.pointsCenti
  activeBuildSlots : after.activeBuildSlots = before.activeBuildSlots

/-- The number of slots the undo of the newest record deactivates, as the rollback of
its contribution reports it. -/
def deactivatedByUndo (state : RuntimeState Float32) : Nat :=
  match state.undoHistory.getLast? with
  | none => 0
  | some record =>
    match record.buildContribution with
    | none => 0
    | some contribution =>
      (rollbackRegistrationContributionDetailed
        (takenBack state state.undoHistory.dropLast record) contribution).2.deactivatedSlots

section Room

variable (formTypes : FormID → FormType)

/-- Registering the key saturates neither counter of its discipline. -/
def HasRoom (state : RuntimeState Float32) (regKey : FormID) (group : UInt32) : Prop :=
  (state.score (convertLegacyGroupToDiscipline group)).toNat + 1 < 2 ^ 32 ∧
    (state.pointsCenti (convertLegacyGroupToDiscipline group)).toNat +
      (resolveBuildPointsForFormType (formTypes regKey)).toNat < 2 ^ 32

instance (state : RuntimeState Float32) (regKey : FormID) (group : UInt32) :
    Decidable (HasRoom formTypes state regKey group) :=
  inferInstanceAs (Decidable (_ ∧ _))

end Room

/-! ## Adding and taking away -/

/-- A saturating subtraction undoes a saturating addition that does not saturate, and
no other. -/
theorem saturatingSub_saturatingAdd_eq_iff {current delta : UInt32} :
    saturatingSub (saturatingAdd current delta) delta = current ↔
      current.toNat + delta.toNat < 2 ^ 32 := by
  have hcurrent := current.toNat_lt
  have hdelta := delta.toNat_lt
  rw [← UInt32.toNat_inj, toNat_saturatingSub, toNat_saturatingAdd]
  omega

/-- Outside the declared disciplines there is nothing to count. -/
theorem totals_of_not_declared (state : RuntimeState Float32) {d : BuildDiscipline}
    (hd : ¬ d.IsDeclared) : state.score d = 0 ∧ state.pointsCenti d = 0 := by
  cases d with
  | unnamed value => exact ⟨rfl, rfl⟩
  | _ => exact absurd trivial hd

/-- Totals that agree at every other discipline are equal when they agree at this one. -/
theorem totals_eq_iff {f g : BuildDiscipline → UInt32} {d : BuildDiscipline}
    (hother : ∀ d', d' ≠ d → f d' = g d') : f = g ↔ f d = g d := by
  constructor
  · intro h
    rw [h]
  · intro h
    funext d'
    by_cases hd : d' = d
    · rw [hd]; exact h
    · exact hother d' hd

section Rollback

variable {registered : RuntimeState Float32} {c : BuildScoreContribution}

/-- Rolled back where it was applied, a contribution leaves the scores as they were exactly
when there is room for its records. -/
theorem score_rollback_applied_iff (registered : RuntimeState Float32) (hc : Effective c)
    (hd : c.discipline.IsDeclared)
    (hscore : registered.score = (applyRegistrationContribution state c).1.score) :
    (rollbackRegistrationContributionDetailed registered c).1.score = state.score ↔
      (state.score c.discipline).toNat + c.recordDelta.toUInt32.toNat < 2 ^ 32 := by
  have hother : ∀ d, d ≠ c.discipline →
      (rollbackRegistrationContributionDetailed registered c).1.score d = state.score d := by
    intro d hne
    by_cases hdeclared : d.IsDeclared
    · rw [score_rollback hc hdeclared, if_neg hne, hscore,
        score_applyRegistrationContribution hc hdeclared, if_neg hne]
    · rw [(totals_of_not_declared _ hdeclared).1, (totals_of_not_declared _ hdeclared).1]
  rw [totals_eq_iff hother, score_rollback hc hd, if_pos rfl, hscore,
    score_applyRegistrationContribution hc hd, if_pos rfl, saturatingSub_saturatingAdd_eq_iff]

/-- Rolled back where it was applied, a contribution leaves the points as they were exactly
when there is room for its points. -/
theorem pointsCenti_rollback_applied_iff (registered : RuntimeState Float32) (hc : Effective c)
    (hd : c.discipline.IsDeclared)
    (hpoints : registered.pointsCenti = (applyRegistrationContribution state c).1.pointsCenti) :
    (rollbackRegistrationContributionDetailed registered c).1.pointsCenti = state.pointsCenti ↔
      (state.pointsCenti c.discipline).toNat + c.pointsDeltaCenti.toUInt32.toNat < 2 ^ 32 := by
  have hother : ∀ d, d ≠ c.discipline →
      (rollbackRegistrationContributionDetailed registered c).1.pointsCenti d =
        state.pointsCenti d := by
    intro d hne
    by_cases hdeclared : d.IsDeclared
    · rw [pointsCenti_rollback hc hdeclared, if_neg hne, hpoints,
        pointsCenti_applyRegistrationContribution hc hdeclared, if_neg hne]
    · rw [(totals_of_not_declared _ hdeclared).2, (totals_of_not_declared _ hdeclared).2]
  rw [totals_eq_iff hother, pointsCenti_rollback hc hd, if_pos rfl, hpoints,
    pointsCenti_applyRegistrationContribution hc hd, if_pos rfl,
    saturatingSub_saturatingAdd_eq_iff]

/-- The loop over the slots passes by those that are not stale. -/
theorem deactivateStaleSlots_of_not_stale {slotIds : List BuildSlotId}
    (h : ∀ slotId ∈ slotIds, slotIsStale state slotId = false) (n : Nat) :
    deactivateStaleSlots slotIds state n = (state, n) := by
  induction slotIds with
  | nil => rfl
  | cons slotId slotIds ih =>
    rw [deactivateStaleSlots, if_neg (by rw [h slotId List.mem_cons_self]; decide)]
    exact ih fun slotId' hmem => h slotId' (List.mem_cons_of_mem _ hmem)

/-- Once the points are what they were for valid slots, the check finds none stale. -/
theorem slots_rollback_of_valid (hc : Effective c) (hslots : SlotsValid state)
    (hpoints : (rollbackRegistrationContributionDetailed registered c).1.pointsCenti =
      state.pointsCenti) (hsame : registered.activeBuildSlots = state.activeBuildSlots) :
    (rollbackRegistrationContributionDetailed registered c).1.activeBuildSlots =
        state.activeBuildSlots ∧
      (rollbackRegistrationContributionDetailed registered c).2.deactivatedSlots = 0 := by
  have hkept : (subtractContribution registered c).activeBuildSlots = state.activeBuildSlots := by
    simp [subtractContribution, hsame]
  have hsubtracted : (subtractContribution registered c).pointsCenti = state.pointsCenti := by
    rw [rollbackRegistrationContributionDetailed_eq hc] at hpoints
    exact hpoints
  have hfresh : ∀ slotId, slotIsStale (subtractContribution registered c) slotId = false :=
    fun slotId => slotIsStale_eq_false_iff.mpr (hslots.congr hsubtracted hkept slotId)
  constructor
  · rw [rollbackRegistrationContributionDetailed_eq hc]
    funext slotId
    show (if slotIsStale (subtractContribution registered c) slotId = true then []
      else registered.activeBuildSlots slotId) = _
    rw [hfresh slotId, if_neg Bool.false_ne_true, hsame]
  · have hloop : deactivateStaleSlots getInitialBuildSlotLayout (subtractContribution registered c)
        0 = (subtractContribution registered c, 0) :=
      deactivateStaleSlots_of_not_stale (fun slotId _ => hfresh slotId) 0
    unfold rollbackRegistrationContributionDetailed
    rw [if_neg (fun h => (not_effective_iff c).mpr h hc)]
    exact congrArg Prod.snd hloop

end Rollback

/-! ## Registering, then undoing -/

/-- However long the history is, the record just added is its newest. -/
theorem trimHistory_concat (history : List (UndoRecord Float32)) (record : UndoRecord Float32) :
    ∃ older, trimHistory (history ++ [record]) = older ++ [record] := by
  have hle : (history ++ [record]).length - kUndoHistoryLimit ≤ history.length := by
    have hlimit : 0 < kUndoHistoryLimit := by decide
    rw [List.length_append, List.length_singleton]
    omega
  exact ⟨_, List.drop_append_of_le_length hle⟩

/-- What a registration that succeeds leaves: a new key, its contribution applied, and
its record the newest of the history. -/
structure Registered (formTypes : FormID → FormType) (state : RuntimeState Float32)
    (regKey : FormID) (group : UInt32) (registered : RuntimeState Float32)
    (older : List (UndoRecord Float32)) (record : UndoRecord Float32)
    (c : BuildScoreContribution) : Prop where
  fresh : regKey ∉ state.registeredItems
  contributionOf : ContributionOf formTypes regKey group c
  registeredItems : registered.registeredItems = state.registeredItems.insert regKey group
  score : registered.score = (applyRegistrationContribution state c).1.score
  pointsCenti : registered.pointsCenti = (applyRegistrationContribution state c).1.pointsCenti
  activeBuildSlots : registered.activeBuildSlots = state.activeBuildSlots
  undoHistory : registered.undoHistory = older ++ [record]
  key : record.regKey = regKey
  contribution : record.buildContribution = some c

theorem registered_of_tryRegisterItem
    (hsuccess : (tryRegisterItem formTypes env state formId).2.success = true) :
    ∃ older record c, Registered formTypes state
      (tryRegisterItem formTypes env state formId).2.regKey
      (tryRegisterItem formTypes env state formId).2.group
      (tryRegisterItem formTypes env state formId).1 older record c := by
  obtain ⟨hkey, hgroup, -⟩ := registered_of_success hsuccess
  rw [hkey, hgroup]
  rcases tryRegisterItem_cases formTypes env state formId with
    ⟨hfails, -⟩ | ⟨-, hfresh, hle, heq⟩
  · rw [hsuccess] at hfails
    cases hfails
  · obtain ⟨c, hc, hcontribution⟩ :=
      contributionOf_counts ⟨hle, resolveBuildPoints_of_discoveryGroup hle⟩
    obtain ⟨ledger, hcommit⟩ := commitRegistration_eq formTypes env state formId
      (getRegisterKey env formId)
      (getDiscoveryGroup formTypes env state (getRegisterKey env formId))
    obtain ⟨older, hhistory⟩ := trimHistory_concat state.undoHistory
      (registrationRecord formTypes state formId (getRegisterKey env formId)
        (getDiscoveryGroup formTypes env state (getRegisterKey env formId)))
    rw [heq, hcommit, hhistory, hc, UnorderedMap.emplace_of_notMem hfresh]
    exact ⟨older, _, c,
      { fresh := hfresh
        contributionOf := hcontribution
        registeredItems := rfl
        score := rfl
        pointsCenti := rfl
        activeBuildSlots := activeBuildSlots_applyRegistrationContribution state c
        undoHistory := rfl
        key := rfl
        contribution := hc }⟩

section Undo

variable {registered : RuntimeState Float32} {older : List (UndoRecord Float32)}
  {record : UndoRecord Float32} {c : BuildScoreContribution}

/-- After a registration that succeeded, an undo that succeeds takes its record back. -/
theorem Registered.undone (h : Registered formTypes state regKey group registered older record c)
    (hundo : (tryUndoRegistration env' registered actionId).2.success = true) :
    ∃ ledger, (tryUndoRegistration env' registered actionId).1 =
      { (rollbackRegistrationContributionDetailed (takenBack registered older record) c).1 with
        buildAppliedEffectTotals := ledger } := by
  rw [undone_of_success h.undoHistory hundo]
  exact undone_of_contribution env' registered older h.contribution

theorem Registered.deactivatedByUndo
    (h : Registered formTypes state regKey group registered older record c) :
    CodexOfPower.deactivatedByUndo registered =
      (rollbackRegistrationContributionDetailed
        (takenBack registered older record) c).2.deactivatedSlots := by
  unfold CodexOfPower.deactivatedByUndo
  rw [h.undoHistory, List.getLast?_concat, List.dropLast_concat]
  simp only [h.contribution]

/-- The undo of a registration takes its key away, and nothing else of the table. -/
theorem Registered.same_erase
    (h : Registered formTypes state regKey group registered older record c) :
    (takenBack registered older record).registeredItems.Same state.registeredItems := by
  unfold takenBack
  rw [h.key, h.registeredItems]
  exact UnorderedMap.same_erase_insert h.fresh group

/-- The room a contribution needs is the room of its key. -/
theorem hasRoom_iff (hc : ContributionOf formTypes regKey group c) :
    HasRoom formTypes state regKey group ↔
      (state.score c.discipline).toNat + c.recordDelta.toUInt32.toNat < 2 ^ 32 ∧
        (state.pointsCenti c.discipline).toNat + c.pointsDeltaCenti.toUInt32.toNat < 2 ^ 32 := by
  rw [hc.discipline, hc.record, hc.points]
  exact Iff.rfl

/-- From valid slots, registering and undoing restores the progress, without touching a
slot, exactly when there is room for the registration. -/
theorem restored_iff (hslots : SlotsValid state)
    (hsuccess : (tryRegisterItem formTypes env state formId).2.success = true)
    (hundo : (tryUndoRegistration env' (tryRegisterItem formTypes env state formId).1
      actionId).2.success = true) :
    (Restored state
        (tryUndoRegistration env' (tryRegisterItem formTypes env state formId).1 actionId).1 ∧
      deactivatedByUndo (tryRegisterItem formTypes env state formId).1 = 0) ↔
      HasRoom formTypes state (tryRegisterItem formTypes env state formId).2.regKey
        (tryRegisterItem formTypes env state formId).2.group := by
  obtain ⟨older, record, c, h⟩ := registered_of_tryRegisterItem hsuccess
  generalize (tryRegisterItem formTypes env state formId).1 = registered at h hundo ⊢
  generalize (tryRegisterItem formTypes env state formId).2.regKey = regKey at h ⊢
  generalize (tryRegisterItem formTypes env state formId).2.group = group at h ⊢
  have hdeclared : c.discipline.IsDeclared := by
    rw [h.contributionOf.discipline]
    exact isDeclared_convertLegacyGroup group
  have hscore := score_rollback_applied_iff (takenBack registered older record)
    h.contributionOf.effective hdeclared h.score
  have hpoints := pointsCenti_rollback_applied_iff (takenBack registered older record)
    h.contributionOf.effective hdeclared h.pointsCenti
  obtain ⟨ledger, hundone⟩ := h.undone hundo
  rw [hundone, h.deactivatedByUndo, hasRoom_iff h.contributionOf]
  constructor
  · rintro ⟨hrestored, -⟩
    exact ⟨hscore.mp hrestored.score, hpoints.mp hrestored.pointsCenti⟩
  · rintro ⟨hrecords, hroom⟩
    have helse := sameElsewhere_rollback (takenBack registered older record) c
    obtain ⟨hkept, hnone⟩ := slots_rollback_of_valid h.contributionOf.effective hslots
      (hpoints.mpr hroom) h.activeBuildSlots
    refine ⟨?_, hnone⟩
    exact
      { registeredItems := fun key =>
          (congrArg (AList.lookup key) helse.registeredItems).trans (h.same_erase key)
        score := hscore.mpr hrecords
        pointsCenti := hpoints.mpr hroom
        activeBuildSlots := hkept }

end Undo

/-! ## In every session -/

/-- In every state of a session from a new game, loading its own co-saves: when an item
is registered, an undo of the new record that succeeds restores the registered items,
the scores, the points and the slots, and deactivates no slot; the registration's
counters must stay below saturation for it, and nothing else. -/
theorem register_undo_restores_iff {session : Session}
    (h : (Session.system formTypes ownFiles).Reachable session)
    (hsuccess : (tryRegisterItem formTypes env session.state formId).2.success = true)
    (hundo : (tryUndoRegistration env' (tryRegisterItem formTypes env session.state formId).1
      session.state.undoNextActionId).2.success = true) :
    (Restored session.state
        (tryUndoRegistration env' (tryRegisterItem formTypes env session.state formId).1
          session.state.undoNextActionId).1 ∧
      deactivatedByUndo (tryRegisterItem formTypes env session.state formId).1 = 0) ↔
      HasRoom formTypes session.state
        (tryRegisterItem formTypes env session.state formId).2.regKey
        (tryRegisterItem formTypes env session.state formId).2.group :=
  restored_iff (settled_of_reachable h).slots hsuccess hundo

def seventhSword (count countAfter : Int) : Environment Float32 :=
  { Session.armory count countAfter with inventory := [{ object := 7 }] }

theorem register_undo_restores_iff_armed :
    Restored armed.state
        (tryUndoRegistration (seventhSword 0 1)
          (tryRegisterItem Session.weapons (seventhSword 1 0) armed.state 7).1
          armed.state.undoNextActionId).1 ∧
      deactivatedByUndo (tryRegisterItem Session.weapons (seventhSword 1 0) armed.state 7).1 = 0 :=
  (register_undo_restores_iff
    (((Session.reachable_newGame ownFiles).step (.act _ _)).step (.act _ _))
    (by decide +kernel) (by decide +kernel)).mpr (by decide +kernel)

end CodexOfPower
