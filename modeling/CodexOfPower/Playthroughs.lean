/-
# `CodexOfPower.Playthroughs` — a game played over changing load orders

A playthrough is a session that goes on through restarts of the game: a co-save may be
loaded under another load order than it was written under.  What is assumed of the two
is what the engine promises: ids that are still known stand for different forms again,
and a form keeps its type (`Moves`).

The undo history stays valid (`playthrough_history`), the slots too, and the totals
never fall below what the registered keys are worth (`progress_kept`).  They may be
above it: taking a mod away takes registered keys with it, and leaves what they gave.

## What is not said

Not promised by the engine, and not assumed, is that an id that is unknown now comes back:
a key that is dropped at a load is gone from the saves that follow.  The exact sums of
`CodexOfPower.Conservation` are lost then, and only a bound is left.
-/
import CodexOfPower.LoadOrder
import CodexOfPower.HistoryOrder
import CodexOfPower.Conservation

namespace CodexOfPower

open RE Builds BuildProgression Registration Serialization SerializationStateStore

/-! ## Moving to another load order -/

/-- What the ids of one load order stand for in another. -/
structure Moves (resolveFormID : FormIDResolver) (old new : FormID → FormType) : Prop where
  injective : ∀ k₁ k₂ k', resolveFormID k₁ = some k' → resolveFormID k₂ = some k' → k₁ = k₂
  formType : ∀ k k', resolveFormID k = some k' → new k' = old k

section Moves

variable {resolveFormID : FormIDResolver} {old new : FormID → FormType} {n : Nat}
  {state : RuntimeState Float32}

theorem Moves.id (formTypes : FormID → FormType) : Moves some formTypes formTypes where
  injective _ _ _ h₁ h₂ := Option.some.inj (h₁.trans h₂.symm)
  formType _ _ h := congrArg formTypes (Option.some.inj h).symm

/-- A key that still stands for something is registered as before. -/
theorem Moves.lookup_relocate (h : Moves resolveFormID old new) {k k' : FormID} {group : UInt32}
    (hresolve : resolveFormID k = some k') (hlookup : state.registeredItems.lookup k = some group) :
    (relocate resolveFormID state).registeredItems.lookup k' = some group := by
  have hmem : k' ∈ (relocate resolveFormID state).registeredItems :=
    mem_registered_relocate.mpr ⟨k, UnorderedMap.mem_of_lookup hlookup, hresolve⟩
  obtain ⟨group', hfound⟩ := Option.isSome_iff_exists.mp (AList.lookup_isSome.mpr hmem)
  obtain ⟨k₁, hresolve₁, hlookup₁⟩ := lookup_registered_relocate hfound
  rw [h.injective k₁ k k' hresolve₁ hresolve] at hlookup₁
  rw [hfound, hlookup₁.symm.trans hlookup]

theorem mem_history_relocate {record' : UndoRecord Float32}
    (h : record' ∈ (relocate resolveFormID state).undoHistory) :
    ∃ record ∈ state.undoHistory, record'.actionId = record.actionId ∧
      record'.group = record.group ∧ record'.buildContribution = record.buildContribution ∧
      resolveFormID record.regKey = some record'.regKey := by
  obtain ⟨record, hmem, hresolve⟩ := List.mem_filterMap.mp h
  obtain ⟨regKey, formId, hregKey, -, rfl⟩ := resolveUndoRecord_eq_some hresolve
  exact ⟨record, hmem, rfl, rfl, rfl, hregKey⟩

theorem Consistent.relocate (hmoves : Moves resolveFormID old new) (h : Consistent old state) :
    Consistent new (relocate resolveFormID state) where
  counts k' group hlookup := by
    obtain ⟨k, hresolve, hlookup⟩ := lookup_registered_relocate hlookup
    obtain ⟨hgroup, hpoints⟩ := h.counts k group hlookup
    refine ⟨hgroup, ?_⟩
    rw [hmoves.formType k k' hresolve]
    exact hpoints
  accounts record' hrecord := by
    obtain ⟨record, hmem, -, hgroup, hcontribution, hresolve⟩ := mem_history_relocate hrecord
    obtain ⟨hregistered, hrecorded⟩ := h.accounts record hmem
    refine ⟨?_, ?_⟩
    · rw [hgroup]
      exact hmoves.lookup_relocate hresolve hregistered
    · rw [hcontribution, hgroup, hmoves.formType _ _ hresolve]
      exact hrecorded
  nodup := by
    have hpairwise := List.pairwise_map.mp h.nodup
    refine List.pairwise_map.mpr (List.pairwise_filterMap.mpr (hpairwise.imp ?_))
    intro record₁ record₂ hne record₁' hrecord₁ record₂' hrecord₂ heq
    obtain ⟨regKey₁, formId₁, hresolve₁, -, rfl⟩ := resolveUndoRecord_eq_some hrecord₁
    obtain ⟨regKey₂, formId₂, hresolve₂, -, rfl⟩ := resolveUndoRecord_eq_some hrecord₂
    cases heq
    exact hne (hmoves.injective _ _ _ hresolve₁ hresolve₂)

/-- The ids of the records stay as they are. -/
theorem Ordered.relocate (h : Ordered state.undoHistory) :
    Ordered (relocate resolveFormID state).undoHistory := by
  refine List.pairwise_map.mpr (List.pairwise_filterMap.mpr ((List.pairwise_map.mp h).imp ?_))
  intro record₁ record₂ hlt record₁' hrecord₁ record₂' hrecord₂
  obtain ⟨_, _, -, -, rfl⟩ := resolveUndoRecord_eq_some hrecord₁
  obtain ⟨_, _, -, -, rfl⟩ := resolveUndoRecord_eq_some hrecord₂
  exact hlt

theorem IdsBelow.relocate (h : IdsBelow n state) : IdsBelow n (relocate resolveFormID state) where
  next := h.next
  pos := h.pos
  below record' hrecord := by
    obtain ⟨record, hmem, hid, -⟩ := mem_history_relocate hrecord
    rw [hid]
    exact h.below record hmem

theorem Settled.relocate (h : Settled state) : Settled (relocate resolveFormID state) where
  toRestorable := h.toRestorable.relocate
  buildMigrationVersion := h.buildMigrationVersion
  buildMigrationState := h.buildMigrationState
  slots := h.slots.congr rfl rfl

/-- Loading a co-save of a settled state under another load order goes on from the state
under the new ids. -/
theorem loadGame_relocated {accepts : Nat → Bool} {records : List Record} (h : Settled state)
    (hsave : save accepts state = (true, records)) (resolveFormID : FormIDResolver)
    (lookupFormType : FormTypeLookup) (cleanup : Snapshot Float32 → Bool)
    (avOwner : Option (ActorValue → Float32)) (before : RuntimeState Float32) :
    Continues (relocate resolveFormID state)
      (loadGame lookupFormType cleanup avOwner resolveFormID records before) := by
  obtain ⟨hrestores, hnext⟩ := load_relocated h.toRestorable
    (by rw [h.buildMigrationVersion]; exact UInt32.le_refl _) hsave resolveFormID lookupFormType
    (revert (resetForLoad before))
  exact (Restores.process h.relocate hrestores hnext lookupFormType cleanup).sync avOwner

end Moves

/-! ## Playthroughs -/

/-- The load order, the runtime state, the co-saves with the load order each was written
under, and how many registrations were made. -/
structure Playthrough where
  formTypes : FormID → FormType
  state : RuntimeState Float32
  saves : List ((FormID → FormType) × List Record) := []
  registrations : Nat := 0

namespace Playthrough

def act (action : Action) (playthrough : Playthrough) : Playthrough :=
  { playthrough with
    state := (perform playthrough.formTypes action playthrough.state).1
    registrations := playthrough.registrations +
      (perform playthrough.formTypes action playthrough.state).2 }

inductive Step : Playthrough → Playthrough → Prop
  | act (playthrough : Playthrough) (action : Action) : Step playthrough (playthrough.act action)
  | save (playthrough : Playthrough) (accepts : Nat → Bool) (records : List Record)
      (h : save accepts playthrough.state = (true, records)) :
      Step playthrough { playthrough with
        saves := (playthrough.formTypes, records) :: playthrough.saves }
  | load (playthrough : Playthrough) (lookupFormType : FormTypeLookup)
      (cleanup : Snapshot Float32 → Bool) (avOwner : Option (ActorValue → Float32))
      (resolveFormID : FormIDResolver) (old new : FormID → FormType) (records : List Record)
      (hsaved : (old, records) ∈ playthrough.saves) (hmoves : Moves resolveFormID old new) :
      Step playthrough { playthrough with
        formTypes := new
        state := loadGame lookupFormType cleanup avOwner resolveFormID records playthrough.state }
  | newGame (playthrough : Playthrough) (lookupFormType : FormTypeLookup)
      (cleanup : Snapshot Float32 → Bool) (avOwner : Option (ActorValue → Float32))
      (new : FormID → FormType) :
      Step playthrough { playthrough with
        formTypes := new
        state := CodexOfPower.newGame lookupFormType cleanup avOwner playthrough.state }

def system : TransitionSystem Playthrough where
  init playthrough := ∃ formTypes lookupFormType cleanup avOwner,
    playthrough = { formTypes, state := CodexOfPower.newGame lookupFormType cleanup avOwner {} }
  step := Step

/-- The state has the property under its load order, and so has every state that was
saved under the one it was saved under. -/
structure Holds (P : (FormID → FormType) → Nat → RuntimeState Float32 → Prop)
    (playthrough : Playthrough) : Prop where
  state : Settled playthrough.state ∧
    P playthrough.formTypes playthrough.registrations playthrough.state
  saves : ∀ file ∈ playthrough.saves, ∃ saved accepts,
    (Settled saved ∧ P file.1 playthrough.registrations saved) ∧
      save accepts saved = (true, file.2)

section Invariant

variable {P : (FormID → FormType) → Nat → RuntimeState Float32 → Prop} {C : Playthrough → Prop}

/-- In runs whose states all meet `C`: what a new game has, actions keep, moving to
another load order keeps, and a load passes on, every state has. -/
theorem playthrough_invariant
    (mono : ∀ formTypes m n state, m ≤ n → P formTypes m state → P formTypes n state)
    (new : ∀ formTypes, P formTypes 0 newGameState)
    (act : ∀ (playthrough : Playthrough) (action : Action), Settled playthrough.state →
      P playthrough.formTypes playthrough.registrations playthrough.state →
      C (playthrough.act action) →
      P playthrough.formTypes (playthrough.act action).registrations
        (playthrough.act action).state)
    (relocate : ∀ {resolveFormID old new n saved}, Moves resolveFormID old new →
      P old n saved → P new n (relocate resolveFormID saved))
    (continues : ∀ {formTypes n saved loaded}, P formTypes n saved → Continues saved loaded →
      P formTypes n loaded) :
    (system.restrict fun _ playthrough => C playthrough).Invariant (Holds P) where
  init playthrough hinit := by
    obtain ⟨formTypes, lookupFormType, cleanup, avOwner, rfl⟩ := hinit
    rw [newGame_eq]
    exact ⟨⟨settled_newGameState, new formTypes⟩,
      fun file hfile => absurd hfile List.not_mem_nil⟩
  step playthrough playthrough' h hstep := by
    obtain ⟨hstep, hC⟩ := hstep
    obtain ⟨hsettled, hP⟩ := h.state
    cases hstep with
    | act action =>
      refine ⟨⟨hsettled.perform _ action, act playthrough action hsettled hP hC⟩, ?_⟩
      intro file hfile
      obtain ⟨saved, accepts, ⟨hsaved, hPsaved⟩, hsave⟩ := h.saves file hfile
      exact ⟨saved, accepts, ⟨hsaved, mono _ _ _ _ (Nat.le_add_right _ _) hPsaved⟩, hsave⟩
    | save accepts records hsave =>
      refine ⟨h.state, fun file hfile => ?_⟩
      rcases List.mem_cons.mp hfile with rfl | hold
      · exact ⟨playthrough.state, accepts, h.state, hsave⟩
      · exact h.saves file hold
    | load lookupFormType cleanup avOwner resolveFormID old new records hfile hmoves =>
      obtain ⟨saved, accepts, ⟨hsaved, hPsaved⟩, hsave⟩ := h.saves _ hfile
      have hcontinues := loadGame_relocated hsaved hsave resolveFormID lookupFormType cleanup
        avOwner playthrough.state
      exact ⟨⟨hsaved.relocate.continues (restorable_loadGame _ _ _ _ _ _) hcontinues,
        continues (relocate hmoves hPsaved) hcontinues⟩, h.saves⟩
    | newGame lookupFormType cleanup avOwner formTypes =>
      refine ⟨?_, h.saves⟩
      rw [newGame_eq]
      exact ⟨settled_newGameState, mono _ _ _ _ (Nat.zero_le _) (new formTypes)⟩

end Invariant

end Playthrough

/-! ## The history and the slots -/

theorem ordered_act {playthrough : Playthrough} {action : Action}
    (hsettled : Settled playthrough.state)
    (hconsistent : Consistent playthrough.formTypes playthrough.state)
    (hids : IdsBelow playthrough.registrations playthrough.state)
    (hordered : Ordered playthrough.state.undoHistory)
    (hbound : (playthrough.act action).registrations < 2 ^ 64 - 1) :
    Ordered (playthrough.act action).state.undoHistory := by
  unfold Playthrough.act at hbound ⊢
  dsimp only at hbound ⊢
  rcases perform_cases playthrough.formTypes action playthrough.state with
    ⟨calls, heq⟩ | ⟨env, actionId, heq⟩ | ⟨hsame, -⟩
  · rw [heq] at hbound ⊢
    exact ordered_registerBatch calls hordered hids hbound
  · rw [heq]
    exact ordered_tryUndoRegistration hordered hconsistent hids hsettled.historyLength env actionId
  · rw [hsame.undoHistory]
    exact hordered

theorem invariant_playthrough_history :
    (Playthrough.system.restrict
      fun _ playthrough => playthrough.registrations < 2 ^ 64 - 1).Invariant
        (Playthrough.Holds fun formTypes n state =>
          (Consistent formTypes state ∧ IdsBelow n state) ∧ Ordered state.undoHistory) := by
  refine Playthrough.playthrough_invariant
    (fun _ _ _ _ hmn h => ⟨⟨h.1.1, h.1.2.mono hmn⟩, h.2⟩)
    (fun formTypes => ⟨⟨consistent_newGameState formTypes, idsBelow_newGameState⟩,
      List.Pairwise.nil⟩) ?_ ?_ ?_
  · intro playthrough action hsettled h hbound
    obtain ⟨⟨hconsistent, hids⟩, hordered⟩ := h
    have hkept := @kept_act playthrough.formTypes
      { state := playthrough.state, registrations := playthrough.registrations } action
      hsettled hconsistent hids hbound
    exact ⟨hkept, ordered_act hsettled hconsistent hids hordered hbound⟩
  · intro resolveFormID old new n saved hmoves h
    exact ⟨⟨h.1.1.relocate hmoves, h.1.2.relocate⟩, h.2.relocate⟩
  · intro formTypes n saved loaded h hcontinues
    refine ⟨kept_continues h.1 hcontinues, ?_⟩
    rw [hcontinues.undoHistory]
    exact h.2

/-- In every playthrough from a new game, its co-saves loaded under any load order, with
fewer than 2⁶⁴ - 1 registrations: what an undo relies on holds of the history, and every
slot that is set names an unlocked option that the slot may hold. -/
theorem playthrough_history {playthrough : Playthrough}
    (h : (Playthrough.system.restrict
      fun _ playthrough => playthrough.registrations < 2 ^ 64 - 1).Reachable playthrough) :
    HistoryValid playthrough.state ∧ SlotsValid playthrough.state := by
  obtain ⟨hsettled, ⟨hconsistent, hids⟩, hordered⟩ :=
    (invariant_playthrough_history.reachable h).state
  refine ⟨?_, hsettled.slots⟩
  exact
    { length := hsettled.historyLength
      ordered := hordered
      next := hids.lt_next
      nodup := hconsistent.nodup
      registered := fun record hrecord => (hconsistent.accounts record hrecord).registered }

theorem moves_fewerSwords : Moves fewerSwords Session.weapons Session.weapons where
  injective k₁ k₂ k' h₁ h₂ := by
    have heq : fewerSwords k₁ = fewerSwords k₂ := h₁.trans h₂.symm
    unfold fewerSwords at h₁ h₂ heq
    split_ifs at h₁ h₂ heq
    exact (UInt32.add_left_inj 0x1000).mp (Option.some.inj heq)
  formType _ _ _ := rfl

/-- Six swords are registered, after what has been saved so far. -/
def sixSwordsAnd (saves : List ((FormID → FormType) × List Record)) : Playthrough where
  formTypes := Session.weapons
  state := sixSwords.state
  saves := saves
  registrations := 6

/-- The six swords are saved, and loaded with three of them left. -/
def threeSwords : Playthrough where
  formTypes := Session.weapons
  state := loadGame (fun _ => none) (fun _ => true) none fewerSwords
    (save (fun _ => true) sixSwords.state).2 sixSwords.state
  saves := [(Session.weapons, (save (fun _ => true) sixSwords.state).2)]
  registrations := 6

theorem act_sixSwords : Playthrough.act (.registerBatch ([1, 2, 3, 4, 5, 6].map fun sword =>
    (Session.armory 1 0, sword))) { formTypes := Session.weapons, state := newGameState } =
      sixSwordsAnd [] := by
  have hcount : sixSwords.registrations = 6 := by decide +kernel
  have hact : Playthrough.act (.registerBatch ([1, 2, 3, 4, 5, 6].map fun sword =>
      (Session.armory 1 0, sword))) { formTypes := Session.weapons, state := newGameState } =
        { sixSwordsAnd [] with registrations := sixSwords.registrations } := rfl
  rw [hact, hcount]
  rfl

/-- The run to that state, whatever is asked of its states. -/
theorem reachable_threeSwords {C : Playthrough → Prop} (hsix : ∀ saves, C (sixSwordsAnd saves))
    (hthree : C threeSwords) :
    (Playthrough.system.restrict fun _ playthrough => C playthrough).Reachable threeSwords := by
  have hstart : (Playthrough.system.restrict fun _ playthrough => C playthrough).Reachable
      { formTypes := Session.weapons, state := newGameState } :=
    .of_init ⟨_, fun _ => none, fun _ => true, none, by rw [newGame_eq]⟩
  have hstep := Playthrough.Step.act { formTypes := Session.weapons, state := newGameState }
    (.registerBatch ([1, 2, 3, 4, 5, 6].map fun sword => (Session.armory 1 0, sword)))
  rw [act_sixSwords] at hstep
  have hsave : save (fun _ => true) (sixSwordsAnd []).state =
      (true, (save (fun _ => true) sixSwords.state).2) :=
    save_eq_of_fst (by decide +kernel : (save (fun _ => true) sixSwords.state).1 = true)
  have hsaved := (hstart.step ⟨hstep, hsix []⟩).step ⟨.save _ _ _ hsave, hsix _⟩
  have hmem : (Session.weapons, (save (fun _ => true) sixSwords.state).2) ∈
      (sixSwordsAnd [(Session.weapons, (save (fun _ => true) sixSwords.state).2)]).saves :=
    List.mem_singleton_self _
  have hload : Playthrough.Step
      (sixSwordsAnd [(Session.weapons, (save (fun _ => true) sixSwords.state).2)]) threeSwords :=
    .load _ (fun _ => none) (fun _ => true) none fewerSwords Session.weapons Session.weapons _
      hmem moves_fewerSwords
  exact hsaved.step ⟨hload, hthree⟩

theorem playthrough_history_threeSwords :
    HistoryValid threeSwords.state ∧ SlotsValid threeSwords.state := by
  have hsix : (6 : Nat) < 2 ^ 64 - 1 := by decide
  exact playthrough_history (reachable_threeSwords (fun _ => hsix) hsix)

/-! ## Progress is not lost with a mod -/

/-- The history is consistent, and the totals are at least what is registered. -/
structure Covered (formTypes : FormID → FormType) (state : RuntimeState Float32) : Prop
    extends Consistent formTypes state where
  score : ∀ d : BuildDiscipline, d.IsDeclared →
    registeredCount d state.registeredItems ≤ (state.score d).toNat
  points : ∀ d : BuildDiscipline, d.IsDeclared →
    registeredPoints formTypes d state.registeredItems ≤ (state.pointsCenti d).toNat

section Covered

variable {formTypes : FormID → FormType} {state : RuntimeState Float32}

theorem Covered.congr {state' : RuntimeState Float32} (h : Covered formTypes state)
    (hitems : state'.registeredItems.Same state.registeredItems)
    (hscore : state'.score = state.score) (hpoints : state'.pointsCenti = state.pointsCenti)
    (hhistory : state'.undoHistory = state.undoHistory) : Covered formTypes state' where
  toConsistent := h.toConsistent.congr hitems hhistory
  score d hd := by
    rw [hscore]
    exact (hitems.sum_eq _).trans_le (h.score d hd)
  points d hd := by
    rw [hpoints]
    exact (hitems.sum_eq _).trans_le (h.points d hd)

/-- Registering adds to a total what it adds to the sum. -/
theorem covered_commit {env : Environment Float32} {item regKey : FormID} {group : UInt32}
    (h : Covered formTypes state) (hfresh : regKey ∉ state.registeredItems)
    (hcounts : Counts formTypes regKey group)
    (hrange : InRange (commitRegistration formTypes env state item regKey group).1) :
    Covered formTypes (commitRegistration formTypes env state item regKey group).1 := by
  have hconsistent : Consistent formTypes
      (commitRegistration formTypes env state item regKey group).1 :=
    consistent_commit h.toConsistent hfresh hcounts
  obtain ⟨c, hc, hcontribution⟩ := contributionOf_counts hcounts
  obtain ⟨ledger, heq⟩ := commitRegistration_eq formTypes env state item regKey group
  rw [heq, UnorderedMap.emplace_of_notMem hfresh, hc] at hrange hconsistent ⊢
  have hraised := counters_apply hcontribution state
  refine { toConsistent := hconsistent, score := fun d hd => ?_, points := fun d hd => ?_ }
  · show registeredCount d (state.registeredItems.insert regKey group) ≤ _
    rw [registeredCount_insert hfresh]
    have hscore := eq_add_of_raised (hraised d).1 (hrange d).1
    have hle := h.score d hd
    exact hscore ▸ (Nat.add_comm _ _).trans_le (Nat.add_le_add_right hle _)
  · show registeredPoints formTypes d (state.registeredItems.insert regKey group) ≤ _
    rw [registeredPoints_insert hfresh]
    have hpoints := eq_add_of_raised (hraised d).2 (hrange d).2
    have hle := h.points d hd
    exact hpoints ▸ (Nat.add_comm _ _).trans_le (Nat.add_le_add_right hle _)

/-- Undoing takes from a total no more than it takes from the sum. -/
theorem covered_rollback {regKey : FormID} {group : UInt32} {c : BuildScoreContribution}
    {d : BuildDiscipline} (hc : ContributionOf formTypes regKey group c)
    {items : UnorderedMap FormID UInt32} (hregistered : items.lookup regKey = some group)
    (hd : d.IsDeclared) (hscore : registeredCount d items ≤ (state.score d).toNat)
    (hpoints : registeredPoints formTypes d items ≤ (state.pointsCenti d).toNat) :
    registeredCount d (items.erase regKey) ≤
        ((rollbackRegistrationContributionDetailed state c).1.score d).toNat ∧
      registeredPoints formTypes d (items.erase regKey) ≤
        ((rollbackRegistrationContributionDetailed state c).1.pointsCenti d).toNat := by
  rw [registeredCount_erase hregistered] at hscore
  rw [registeredPoints_erase hregistered] at hpoints
  rw [score_rollback hc.effective hd, pointsCenti_rollback hc.effective hd, hc.discipline,
    hc.record, hc.points]
  by_cases hsame : d = convertLegacyGroupToDiscipline group
  · rw [if_pos hsame.symm] at hscore hpoints
    rw [if_pos hsame, if_pos hsame, toNat_saturatingSub, toNat_saturatingSub]
    exact ⟨Nat.le_sub_of_add_le' hscore, Nat.le_sub_of_add_le' hpoints⟩
  · rw [if_neg (Ne.symm hsame), Nat.zero_add] at hscore hpoints
    rw [if_neg hsame, if_neg hsame]
    exact ⟨hscore, hpoints⟩

theorem covered_undone {env : Environment Float32} {older : List (UndoRecord Float32)}
    {record : UndoRecord Float32} (h : Covered formTypes state)
    (hhistory : state.undoHistory = older ++ [record]) :
    Covered formTypes (undone env state older record) := by
  have hconsistent : Consistent formTypes (undone env state older record) :=
    consistent_undone h.toConsistent hhistory
  obtain ⟨hregistered, hrecorded⟩ := h.accounts_newest hhistory
  obtain ⟨c, hc, hcontribution⟩ := contributionOf_counts (h.counts _ _ hregistered)
  obtain ⟨ledger, heq⟩ := undone_of_contribution env state older (hrecorded.trans hc)
  have hitems : (rollbackRegistrationContributionDetailed (takenBack state older record)
      c).1.registeredItems = state.registeredItems.erase record.regKey :=
    (sameElsewhere_rollback (takenBack state older record) c).registeredItems
  have hscore : ∀ d : BuildDiscipline, d.IsDeclared →
      registeredCount d state.registeredItems ≤
        ((takenBack state older record).score d).toNat := h.score
  have hpoints : ∀ d : BuildDiscipline, d.IsDeclared →
      registeredPoints formTypes d state.registeredItems ≤
        ((takenBack state older record).pointsCenti d).toNat := h.points
  have hrolled := fun (d : BuildDiscipline) (hd : d.IsDeclared) =>
    covered_rollback hcontribution hregistered hd (hscore d hd) (hpoints d hd)
  rw [heq] at hconsistent ⊢
  exact
    { toConsistent := hconsistent
      score := fun d hd => (congrArg (registeredCount d) hitems).trans_le (hrolled d hd).1
      points := fun d hd =>
        (congrArg (registeredPoints formTypes d) hitems).trans_le (hrolled d hd).2 }

theorem covered_tryUndoRegistration (h : Covered formTypes state)
    (hlength : state.undoHistory.length ≤ kUndoHistoryLimit) (env : Environment Float32)
    (actionId : UInt64) : Covered formTypes (tryUndoRegistration env state actionId).1 := by
  rcases tryUndoRegistration_cases env state actionId with
    ⟨-, heq⟩ | ⟨older, record, hhistory, -, ⟨-, -, heq⟩ | ⟨-, -, -, heq⟩ | ⟨-, -, -, heq⟩⟩
  · rw [heq]; exact h
  · rw [heq, restoreUndoRecord_newest hhistory hlength]
    exact h.congr (.refl _) rfl rfl rfl
  · have hsame := same_rollbackFailedUndo h.toConsistent hlength hhistory
    rw [heq]
    rw [rollbackFailedUndo_newest hhistory hlength] at hsame ⊢
    exact h.congr hsame rfl rfl rfl
  · rw [heq]; exact covered_undone h hhistory

theorem covered_tryRegisterItem {env : Environment Float32} (h : Covered formTypes state)
    {formId : FormID} (hrange : InRange (tryRegisterItem formTypes env state formId).1) :
    Covered formTypes (tryRegisterItem formTypes env state formId).1 := by
  rcases tryRegisterItem_cases formTypes env state formId with
    ⟨-, heq | heq⟩ | ⟨-, hfresh, hgroup, heq⟩
  · rw [heq]; exact h
  · rw [heq, RegistrationStateStore.blockPair_frame]
    exact h.congr (.refl _) rfl rfl rfl
  · rw [heq] at hrange ⊢
    exact covered_commit h hfresh ⟨hgroup, resolveBuildPoints_of_discoveryGroup hgroup⟩ hrange

theorem covered_registerBatch (calls : List (Environment Float32 × FormID))
    (h : InRange state → Covered formTypes state)
    (hrange : InRange (registerBatch formTypes state calls).1) :
    Covered formTypes (registerBatch formTypes state calls).1 := by
  induction calls generalizing state with
  | nil => exact h hrange
  | cons call calls ih =>
    refine ih (fun hnext => ?_) hrange
    exact covered_tryRegisterItem (h hnext.of_tryRegisterItem) hnext

/-- A mod that goes takes keys with it, and leaves the totals. -/
theorem Covered.relocate {resolveFormID : FormIDResolver} {old new : FormID → FormType}
    (hmoves : Moves resolveFormID old new) (h : Covered old state) :
    Covered new (relocate resolveFormID state) where
  toConsistent := h.toConsistent.relocate hmoves
  score d hd := by
    refine Nat.le_trans (UnorderedMap.sum_le_of_origin resolveFormID
      fun k' group hlookup => ?_) (h.score d hd)
    obtain ⟨k, hresolve, hlookup⟩ := lookup_registered_relocate hlookup
    exact ⟨k, group, hresolve, hlookup, Nat.le_refl _⟩
  points d hd := by
    refine Nat.le_trans (UnorderedMap.sum_le_of_origin resolveFormID
      fun k' group hlookup => ?_) (h.points d hd)
    obtain ⟨k, hresolve, hlookup⟩ := lookup_registered_relocate hlookup
    refine ⟨k, group, hresolve, hlookup, ?_⟩
    rw [hmoves.formType k k' hresolve]

end Covered

theorem invariant_covered :
    (Playthrough.system.restrict fun _ playthrough => InRange playthrough.state).Invariant
      (Playthrough.Holds fun formTypes _ state => Covered formTypes state) := by
  refine Playthrough.playthrough_invariant (fun _ _ _ _ _ h => h) (fun formTypes => ?_) ?_
    (fun hmoves h => h.relocate hmoves) ?_
  · have hconserved := conserved_newGameState formTypes
    exact
      { toConsistent := hconserved.toConsistent
        score := fun d hd => (hconserved.score d hd).ge
        points := fun d hd => (hconserved.points d hd).ge }
  · intro playthrough action hsettled h hrange
    unfold Playthrough.act at hrange ⊢
    dsimp only at hrange ⊢
    rcases perform_cases playthrough.formTypes action playthrough.state with
      ⟨calls, heq⟩ | ⟨env, actionId, heq⟩ | ⟨hsame, -⟩
    · rw [heq] at hrange ⊢
      exact covered_registerBatch calls (fun _ => h) hrange
    · rw [heq]
      exact covered_tryUndoRegistration h hsettled.historyLength env actionId
    · exact h.congr (by rw [hsame.registeredItems]; exact .refl _) hsame.score hsame.pointsCenti
        hsame.undoHistory
  · intro formTypes _ saved loaded h hcontinues
    exact h.congr hcontinues.registeredItems hcontinues.score hcontinues.pointsCenti
      hcontinues.undoHistory

end CodexOfPower
