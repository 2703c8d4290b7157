/-
# `CodexOfPower.Conservation` — scores and points add up

As long as no counter reaches its limit, the score of a discipline is the number of
registered keys that count for it, and its points are the sum of what their form
types are worth (`score_conserved`).  A registration adds one key and its
contribution; an undo takes back the key of the newest record and what that record
carries, which is the same contribution (`CodexOfPower.UndoHistory`).

## What is not said

Runs in which a counter saturates are left out: there the score is less than the number of
keys, and an undo takes it further down.  So are co-saves from elsewhere, whose totals are
what their writer put there.  What remains true when mods come and go between two loads is
in `CodexOfPower.Playthroughs`.
-/
import CodexOfPower.UndoHistory

namespace CodexOfPower

open RE Builds BuildProgression Registration Serialization

/-! ## What the registered items are worth -/

section Worth

variable (formTypes : FormID → FormType)

def registeredCount (d : BuildDiscipline) (registeredItems : UnorderedMap FormID UInt32) : Nat :=
  registeredItems.sum fun _ group => if convertLegacyGroupToDiscipline group = d then 1 else 0

def registeredPoints (d : BuildDiscipline) (registeredItems : UnorderedMap FormID UInt32) : Nat :=
  registeredItems.sum fun regKey group =>
    if convertLegacyGroupToDiscipline group = d then
      (resolveBuildPointsForFormType (formTypes regKey)).toNat else 0

/-- No counter has reached the limit of `uint32_t`. -/
def InRange (state : RuntimeState Float32) : Prop :=
  ∀ d, state.score d < 0xFFFFFFFF ∧ state.pointsCenti d < 0xFFFFFFFF

/-- The history is consistent, and the totals are what is registered. -/
structure Conserved (state : RuntimeState Float32) : Prop extends Consistent formTypes state where
  score : ∀ d : BuildDiscipline, d.IsDeclared →
    (state.score d).toNat = registeredCount d state.registeredItems
  points : ∀ d : BuildDiscipline, d.IsDeclared →
    (state.pointsCenti d).toNat = registeredPoints formTypes d state.registeredItems

end Worth

variable {formTypes : FormID → FormType} {state : RuntimeState Float32} {regKey : FormID}
  {group : UInt32}

/-! ## The sums -/

theorem registeredCount_insert {items : UnorderedMap FormID UInt32} (h : regKey ∉ items)
    (d : BuildDiscipline) :
    registeredCount d (items.insert regKey group) =
      (if convertLegacyGroupToDiscipline group = d then 1 else 0) + registeredCount d items :=
  UnorderedMap.sum_insert h _ _

theorem registeredPoints_insert {items : UnorderedMap FormID UInt32} (h : regKey ∉ items)
    (d : BuildDiscipline) :
    registeredPoints formTypes d (items.insert regKey group) =
      (if convertLegacyGroupToDiscipline group = d then
        (resolveBuildPointsForFormType (formTypes regKey)).toNat else 0) +
      registeredPoints formTypes d items :=
  UnorderedMap.sum_insert h _ _

/-- What erasing a key takes away from the sums. -/
theorem registeredCount_erase {items : UnorderedMap FormID UInt32}
    (h : items.lookup regKey = some group) (d : BuildDiscipline) :
    registeredCount d items =
      (if convertLegacyGroupToDiscipline group = d then 1 else 0) +
        registeredCount d (items.erase regKey) :=
  UnorderedMap.sum_erase h _

theorem registeredPoints_erase {items : UnorderedMap FormID UInt32}
    (h : items.lookup regKey = some group) (d : BuildDiscipline) :
    registeredPoints formTypes d items =
      (if convertLegacyGroupToDiscipline group = d then
        (resolveBuildPointsForFormType (formTypes regKey)).toNat else 0) +
      registeredPoints formTypes d (items.erase regKey) :=
  UnorderedMap.sum_erase h _

def raised (counter : UInt32) (amount : Nat) : Nat := min (counter.toNat + amount) (2 ^ 32 - 1)

theorem raised_zero (counter : UInt32) : raised counter 0 = counter.toNat := by
  have hlt := counter.toNat_lt
  unfold raised
  omega

/-- A raised counter that is below its maximum has risen by the whole amount. -/
theorem eq_add_of_raised {counter after : UInt32} {amount : Nat}
    (h : after.toNat = raised counter amount) (hlt : after < 0xFFFFFFFF) :
    after.toNat = counter.toNat + amount := by
  have hmax : after.toNat < 2 ^ 32 - 1 := UInt32.lt_iff_toNat_lt.mp hlt
  unfold raised at h
  omega

/-- The accounts depend on the registered items, the totals and the history alone. -/
theorem Conserved.congr {state' : RuntimeState Float32} (h : Conserved formTypes state)
    (hitems : state'.registeredItems.Same state.registeredItems)
    (hscore : state'.score = state.score) (hpoints : state'.pointsCenti = state.pointsCenti)
    (hhistory : state'.undoHistory = state.undoHistory) : Conserved formTypes state' where
  toConsistent := h.toConsistent.congr hitems hhistory
  score d hd := by rw [hscore, h.score d hd]; exact (hitems.sum_eq _).symm
  points d hd := by rw [hpoints, h.points d hd]; exact (hitems.sum_eq _).symm

/-! ## A contribution and its key -/

section Contribution

variable {c : BuildScoreContribution} {d : BuildDiscipline}

structure ContributionOf (formTypes : FormID → FormType) (regKey : FormID) (group : UInt32)
    (c : BuildScoreContribution) : Prop where
  effective : Effective c
  discipline : c.discipline = convertLegacyGroupToDiscipline group
  record : c.recordDelta.toUInt32 = 1
  points : c.pointsDeltaCenti.toUInt32 = resolveBuildPointsForFormType (formTypes regKey)

/-- Applying the contribution of a key raises the counters of its discipline. -/
theorem counters_apply (hc : ContributionOf formTypes regKey group c)
    (state : RuntimeState Float32) (d : BuildDiscipline) :
    ((applyRegistrationContribution state c).1.score d).toNat =
        raised (state.score d) (if convertLegacyGroupToDiscipline group = d then 1 else 0) ∧
      ((applyRegistrationContribution state c).1.pointsCenti d).toNat =
        raised (state.pointsCenti d) (if convertLegacyGroupToDiscipline group = d then
          (resolveBuildPointsForFormType (formTypes regKey)).toNat else 0) := by
  by_cases hd : d.IsDeclared
  · rw [score_applyRegistrationContribution hc.effective hd,
      pointsCenti_applyRegistrationContribution hc.effective hd, hc.discipline, hc.record,
      hc.points]
    by_cases hsame : d = convertLegacyGroupToDiscipline group
    · rw [if_pos hsame, if_pos hsame, if_pos hsame.symm, if_pos hsame.symm,
        toNat_saturatingAdd, toNat_saturatingAdd]
      exact ⟨rfl, rfl⟩
    · rw [if_neg hsame, if_neg hsame, if_neg (Ne.symm hsame), if_neg (Ne.symm hsame),
        raised_zero, raised_zero]
      exact ⟨rfl, rfl⟩
  · have hne : convertLegacyGroupToDiscipline group ≠ d :=
      fun h => hd (h ▸ isDeclared_convertLegacyGroup group)
    rw [if_neg hne, if_neg hne, raised_zero, raised_zero]
    cases d with
    | unnamed value => exact ⟨rfl, rfl⟩
    | _ => exact absurd trivial hd

/-- Applying the contribution of a key and inserting the key keeps the totals equal to the
sums. -/
theorem conserved_apply (hc : ContributionOf formTypes regKey group c)
    (hfresh : regKey ∉ state.registeredItems)
    (hscore : (state.score d).toNat = registeredCount d state.registeredItems)
    (hpoints : (state.pointsCenti d).toNat = registeredPoints formTypes d state.registeredItems)
    (hrange : (applyRegistrationContribution state c).1.score d < 0xFFFFFFFF ∧
      (applyRegistrationContribution state c).1.pointsCenti d < 0xFFFFFFFF) :
    ((applyRegistrationContribution state c).1.score d).toNat =
        registeredCount d (state.registeredItems.insert regKey group) ∧
      ((applyRegistrationContribution state c).1.pointsCenti d).toNat =
        registeredPoints formTypes d (state.registeredItems.insert regKey group) := by
  obtain ⟨hraised, hraisedPoints⟩ := counters_apply hc state d
  rw [registeredCount_insert hfresh, registeredPoints_insert hfresh, ← hscore, ← hpoints,
    eq_add_of_raised hraised hrange.1, eq_add_of_raised hraisedPoints hrange.2]
  exact ⟨Nat.add_comm _ _, Nat.add_comm _ _⟩

/-- Rolling the contribution of a key back and erasing the key keeps the totals equal to the
sums. -/
theorem conserved_rollback (hc : ContributionOf formTypes regKey group c)
    {items : UnorderedMap FormID UInt32} (hregistered : items.lookup regKey = some group)
    (hd : d.IsDeclared) (hscore : (state.score d).toNat = registeredCount d items)
    (hpoints : (state.pointsCenti d).toNat = registeredPoints formTypes d items) :
    ((rollbackRegistrationContributionDetailed state c).1.score d).toNat =
        registeredCount d (items.erase regKey) ∧
      ((rollbackRegistrationContributionDetailed state c).1.pointsCenti d).toNat =
        registeredPoints formTypes d (items.erase regKey) := by
  rw [registeredCount_erase hregistered] at hscore
  rw [registeredPoints_erase hregistered] at hpoints
  rw [score_rollback hc.effective hd, pointsCenti_rollback hc.effective hd, hc.discipline,
    hc.record, hc.points]
  by_cases hsame : d = convertLegacyGroupToDiscipline group
  · rw [if_pos hsame.symm] at hscore hpoints
    rw [if_pos hsame, if_pos hsame, toNat_saturatingSub, toNat_saturatingSub, hscore, hpoints]
    exact ⟨Nat.add_sub_cancel_left _ _, Nat.add_sub_cancel_left _ _⟩
  · rw [if_neg (Ne.symm hsame), Nat.zero_add] at hscore hpoints
    rw [if_neg hsame, if_neg hsame]
    exact ⟨hscore, hpoints⟩

theorem contributionOf_counts (h : Counts formTypes regKey group) :
    ∃ c, makeRegistrationContribution group (formTypes regKey) = some c ∧
      ContributionOf formTypes regKey group c := by
  obtain ⟨hgroup, hpoints⟩ := h
  refine ⟨_, (if_neg (UInt32.not_lt.mpr hgroup)).trans (if_neg hpoints),
    ⟨⟨(by decide : (0 : Int32) < 1), ?_⟩, rfl, rfl, UInt32.toUInt32_toInt32 _⟩⟩
  show 0 < (resolveBuildPointsForFormType (formTypes regKey)).toInt32
  cases hform : formTypes regKey with
  | other => rw [hform] at hpoints; exact absurd rfl hpoints
  | _ => decide

end Contribution

/-! ## Each operation keeps the accounts -/

section Operations

variable {env : Environment Float32} {item : FormID} {older : List (UndoRecord Float32)}
  {record : UndoRecord Float32}

theorem conserved_commit (h : Conserved formTypes state) (hfresh : regKey ∉ state.registeredItems)
    (hcounts : Counts formTypes regKey group)
    (hrange : InRange (commitRegistration formTypes env state item regKey group).1) :
    Conserved formTypes (commitRegistration formTypes env state item regKey group).1 := by
  have hconsistent : Consistent formTypes
      (commitRegistration formTypes env state item regKey group).1 :=
    consistent_commit h.toConsistent hfresh hcounts
  obtain ⟨c, hc, hcontribution⟩ := contributionOf_counts hcounts
  obtain ⟨ledger, heq⟩ := commitRegistration_eq formTypes env state item regKey group
  rw [heq, UnorderedMap.emplace_of_notMem hfresh, hc] at hrange hconsistent ⊢
  exact
    { toConsistent := hconsistent
      score := fun d hd =>
        (conserved_apply hcontribution hfresh (h.score d hd) (h.points d hd) (hrange d)).1
      points := fun d hd =>
        (conserved_apply hcontribution hfresh (h.score d hd) (h.points d hd) (hrange d)).2 }

theorem conserved_undone (h : Conserved formTypes state)
    (hhistory : state.undoHistory = older ++ [record]) :
    Conserved formTypes (undone env state older record) := by
  have hconsistent : Consistent formTypes (undone env state older record) :=
    consistent_undone h.toConsistent hhistory
  obtain ⟨hregistered, hrecorded⟩ := h.accounts_newest hhistory
  obtain ⟨c, hc, hcontribution⟩ := contributionOf_counts (h.counts _ _ hregistered)
  obtain ⟨ledger, heq⟩ := undone_of_contribution env state older (hrecorded.trans hc)
  have helse := sameElsewhere_rollback (takenBack state older record) c
  have hitems : (rollbackRegistrationContributionDetailed (takenBack state older record)
      c).1.registeredItems = state.registeredItems.erase record.regKey := helse.registeredItems
  have hscore : ∀ d : BuildDiscipline, d.IsDeclared →
      ((takenBack state older record).score d).toNat = registeredCount d state.registeredItems :=
    h.score
  have hpoints : ∀ d : BuildDiscipline, d.IsDeclared →
      ((takenBack state older record).pointsCenti d).toNat =
        registeredPoints formTypes d state.registeredItems := h.points
  have hrolled := fun (d : BuildDiscipline) (hd : d.IsDeclared) =>
    conserved_rollback hcontribution hregistered hd (hscore d hd) (hpoints d hd)
  rw [heq] at hconsistent ⊢
  exact
    { toConsistent := hconsistent
      score := fun d hd => (hrolled d hd).1.trans (congrArg (registeredCount d) hitems).symm
      points := fun d hd =>
        (hrolled d hd).2.trans (congrArg (registeredPoints formTypes d) hitems).symm }

theorem conserved_tryUndoRegistration (h : Conserved formTypes state)
    (hlength : state.undoHistory.length ≤ kUndoHistoryLimit) (env : Environment Float32)
    (actionId : UInt64) : Conserved formTypes (tryUndoRegistration env state actionId).1 := by
  rcases tryUndoRegistration_cases env state actionId with
    ⟨-, heq⟩ | ⟨older, record, hhistory, -, ⟨-, -, heq⟩ | ⟨-, -, -, heq⟩ | ⟨-, -, -, heq⟩⟩
  · rw [heq]; exact h
  · rw [heq, restoreUndoRecord_newest hhistory hlength]
    exact h.congr (.refl _) rfl rfl rfl
  · have hsame := same_rollbackFailedUndo h.toConsistent hlength hhistory
    rw [heq]
    rw [rollbackFailedUndo_newest hhistory hlength] at hsame ⊢
    exact h.congr hsame rfl rfl rfl
  · rw [heq]; exact conserved_undone h hhistory

/-- Registering raises counters, so a state from which one stays in range is in range. -/
theorem InRange.of_tryRegisterItem {formId : FormID}
    (h : InRange (tryRegisterItem formTypes env state formId).1) : InRange state := by
  rcases tryRegisterItem_cases formTypes env state formId with
    ⟨-, heq | heq⟩ | ⟨-, -, -, heq⟩
  · rwa [heq] at h
  · rw [heq, RegistrationStateStore.blockPair_frame] at h
    exact h
  · obtain ⟨ledger, hcommit⟩ := commitRegistration_eq formTypes env state formId _ _
    rw [heq, hcommit] at h
    intro d
    have hle := le_applied state (makeRegistrationContribution
      (getDiscoveryGroup formTypes env state (getRegisterKey env formId))
      (formTypes (getRegisterKey env formId))) d
    exact ⟨UInt32.lt_of_le_of_lt hle.1 (h d).1, UInt32.lt_of_le_of_lt hle.2 (h d).2⟩

theorem conserved_tryRegisterItem (h : Conserved formTypes state) {formId : FormID}
    (hrange : InRange (tryRegisterItem formTypes env state formId).1) :
    Conserved formTypes (tryRegisterItem formTypes env state formId).1 := by
  rcases tryRegisterItem_cases formTypes env state formId with
    ⟨-, heq | heq⟩ | ⟨-, hfresh, hgroup, heq⟩
  · rw [heq]; exact h
  · rw [heq, RegistrationStateStore.blockPair_frame]
    exact h.congr (.refl _) rfl rfl rfl
  · rw [heq] at hrange ⊢
    exact conserved_commit h hfresh ⟨hgroup, resolveBuildPoints_of_discoveryGroup hgroup⟩ hrange

/-- A batch keeps the accounts when it ends in range. -/
theorem conserved_registerBatch (calls : List (Environment Float32 × FormID))
    (h : InRange state → Conserved formTypes state)
    (hrange : InRange (registerBatch formTypes state calls).1) :
    Conserved formTypes (registerBatch formTypes state calls).1 := by
  induction calls generalizing state with
  | nil => exact h hrange
  | cons call calls ih =>
    refine ih (fun hnext => ?_) hrange
    exact conserved_tryRegisterItem (h hnext.of_tryRegisterItem) hnext

end Operations

/-! ## Every state of a session -/

theorem conserved_newGameState (formTypes : FormID → FormType) :
    Conserved formTypes newGameState where
  toConsistent := consistent_newGameState formTypes
  score d _ := by cases d <;> rfl
  points d _ := by cases d <;> rfl

/-- The accounts are an invariant of the runs in which every counter stays in range. -/
theorem invariant_conserved (formTypes : FormID → FormType) :
    ((Session.system formTypes ownFiles).restrict fun _ session => InRange session.state).Invariant
      (Holds fun _ state => Conserved formTypes state) := by
  refine ownSession_invariant (fun _ _ _ _ h => h) (conserved_newGameState formTypes) ?_ ?_
  · intro session action hsettled h hrange
    unfold Session.act at hrange ⊢
    dsimp only at hrange ⊢
    rcases perform_cases formTypes action session.state with
      ⟨calls, heq⟩ | ⟨env, actionId, heq⟩ | ⟨hsame, -⟩
    · rw [heq] at hrange ⊢
      exact conserved_registerBatch calls (fun _ => h) hrange
    · rw [heq]
      exact conserved_tryUndoRegistration h hsettled.historyLength env actionId
    · exact h.congr (by rw [hsame.registeredItems]; exact .refl _) hsame.score hsame.pointsCenti
        hsame.undoHistory
  · intro _ saved loaded _ h hcontinues
    exact h.congr hcontinues.registeredItems hcontinues.score hcontinues.pointsCenti
      hcontinues.undoHistory

/-- In every run of a session from a new game, loading its own co-saves, in which no
counter reaches the limit of `uint32_t`, the score of each discipline is the number of
registered keys that count for it, and its build points are what their form types are
worth. -/
theorem score_conserved {formTypes : FormID → FormType} {session : Session}
    (h : ((Session.system formTypes ownFiles).restrict
      fun _ session => InRange session.state).Reachable session)
    (d : BuildDiscipline) (hd : d.IsDeclared) :
    (session.state.score d).toNat = registeredCount d session.state.registeredItems ∧
      (session.state.pointsCenti d).toNat =
        registeredPoints formTypes d session.state.registeredItems := by
  have hconserved := ((invariant_conserved formTypes).reachable h).state.2
  exact ⟨hconserved.score d hd, hconserved.points d hd⟩

theorem inRange_sixSwords : InRange sixSwords.state := by
  have hzero : (0 : UInt32) < 0xFFFFFFFF := by decide
  intro d
  cases d with
  | unnamed value => exact ⟨hzero, hzero⟩
  | _ => exact ⟨by decide +kernel, by decide +kernel⟩

theorem reachable_sixSwords : ((Session.system Session.weapons ownFiles).restrict
    fun _ session => InRange session.state).Reachable sixSwords := by
  have hstart : ((Session.system Session.weapons ownFiles).restrict
      fun _ session => InRange session.state).Reachable { state := newGameState } :=
    .of_init ⟨fun _ => none, fun _ => true, none, by rw [newGame_eq]⟩
  exact hstart.step ⟨.act _ _, inRange_sixSwords⟩

theorem score_conserved_sixSwords :
    (sixSwords.state.score .Attack).toNat =
        registeredCount .Attack sixSwords.state.registeredItems ∧
      (sixSwords.state.pointsCenti .Attack).toNat =
        registeredPoints Session.weapons .Attack sixSwords.state.registeredItems :=
  score_conserved reachable_sixSwords .Attack trivial

end CodexOfPower
