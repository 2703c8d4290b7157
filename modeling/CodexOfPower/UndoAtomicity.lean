/-
# `CodexOfPower.UndoAtomicity` — an undo that fails leaves no trace

On its failure exits an undo puts back the record and the registration it has taken.
Putting the record back also raises the next action id above the record's, which
changes nothing as long as the ids of the history are below the counter (`IdsBelow`).
They are in every session until the 64-bit counter has gone around, that is for fewer
than 2⁶⁴ - 1 registrations (`failed_undo_unchanged`); after that a failed undo does
leave a trace (`not_failed_undo_unchanged`).

## What is not said

An undo that succeeds is the subject of `CodexOfPower.UndoIdentity`.  The item itself is not
here: that it is not given when the undo fails is part of `CodexOfPower.ItemTrade`.
-/
import CodexOfPower.UndoHistory

namespace CodexOfPower

open RE Builds BuildProgression Registration Serialization

variable {formTypes : FormID → FormType} {state : RuntimeState Float32} {n : Nat}

/-! ## Action ids below the counter -/

/-- After `n` registrations: the counter has gone up by one for each at most, and every
id of the history is below it. -/
structure IdsBelow (n : Nat) (state : RuntimeState Float32) : Prop where
  next : state.undoNextActionId.toNat ≤ n + 1
  pos : 0 < state.undoNextActionId.toNat
  below : ∀ record ∈ state.undoHistory,
    record.actionId.toNat < state.undoNextActionId.toNat

theorem IdsBelow.mono {m : Nat} (h : IdsBelow m state) (hmn : m ≤ n) : IdsBelow n state where
  next := h.next.trans (Nat.succ_le_succ hmn)
  pos := h.pos
  below := h.below

theorem IdsBelow.congr {state' : RuntimeState Float32} (h : IdsBelow n state)
    (hnext : state'.undoNextActionId = state.undoNextActionId)
    (hhistory : state'.undoHistory = state.undoHistory) : IdsBelow n state' where
  next := hnext ▸ h.next
  pos := hnext ▸ h.pos
  below := by rw [hnext, hhistory]; exact h.below

theorem max_eq_left {a b : UInt64} (h : b.toNat ≤ a.toNat) : max a b = a := by
  show (if a ≤ b then b else a) = a
  split_ifs with hle
  · exact UInt64.toNat_inj.mp (Nat.le_antisymm h (UInt64.le_iff_toNat_le.mp hle))
  · rfl

/-- An id below the counter does not raise it. -/
theorem max_succ_eq_left {next id : UInt64} (h : id.toNat < next.toNat) :
    max next (id + 1) = next := by
  have hlt := next.toNat_lt
  refine max_eq_left ?_
  rw [UInt64.toNat_add]
  show (id.toNat + 1) % 2 ^ 64 ≤ next.toNat
  omega

/-- A load does not raise the counter above ids that are below it. -/
theorem IdsBelow.nextActionIdOf_eq (h : IdsBelow n state) :
    nextActionIdOf state.undoHistory state.undoNextActionId = state.undoNextActionId := by
  unfold nextActionIdOf
  cases hlast : state.undoHistory.getLast? with
  | none => exact max_eq_left h.pos
  | some newest => exact max_succ_eq_left (h.below newest (List.mem_of_getLast? hlast))

/-! ## Each operation keeps them below -/

section Operations

variable {env : Environment Float32} {older : List (UndoRecord Float32)}
  {record : UndoRecord Float32}

theorem idsBelow_commit (h : IdsBelow n state) (hn : n + 1 < 2 ^ 64 - 1) (env : Environment Float32)
    (item regKey : FormID) (group : UInt32) :
    IdsBelow (n + 1) (commitRegistration formTypes env state item regKey group).1 := by
  obtain ⟨ledger, heq⟩ := commitRegistration_eq formTypes env state item regKey group
  have hbound := h.next
  have hsucc : (state.undoNextActionId + 1).toNat = state.undoNextActionId.toNat + 1 := by
    rw [UInt64.toNat_add]
    show (state.undoNextActionId.toNat + 1) % 2 ^ 64 = _
    omega
  rw [heq]
  refine ⟨?_, ?_, fun record hrecord => ?_⟩
  · show (state.undoNextActionId + 1).toNat ≤ _
    omega
  · show 0 < (state.undoNextActionId + 1).toNat
    omega
  · show record.actionId.toNat < (state.undoNextActionId + 1).toNat
    rcases List.mem_append.mp ((trimHistory_suffix _).mem hrecord) with hold | hnew
    · have := h.below record hold
      omega
    · rw [List.mem_singleton.mp hnew]
      show state.undoNextActionId.toNat < _
      omega

theorem idsBelow_tryRegisterItem (h : IdsBelow n state) (env : Environment Float32)
    (formId : FormID)
    (hn : n + (if (tryRegisterItem formTypes env state formId).2.success then 1 else 0) <
      2 ^ 64 - 1) :
    IdsBelow (n + if (tryRegisterItem formTypes env state formId).2.success then 1 else 0)
      (tryRegisterItem formTypes env state formId).1 := by
  rcases tryRegisterItem_cases formTypes env state formId with
    ⟨hfails, heq | heq⟩ | ⟨hsuccess, -, -, heq⟩
  · rw [hfails, heq]; exact h
  · rw [hfails, heq, RegistrationStateStore.blockPair_frame]; exact h.congr rfl rfl
  · rw [hsuccess] at hn ⊢
    rw [heq]
    exact idsBelow_commit h hn env _ _ _

theorem idsBelow_registerBatch (calls : List (Environment Float32 × FormID))
    (h : IdsBelow n state) (hn : n + (registerBatch formTypes state calls).2 < 2 ^ 64 - 1) :
    IdsBelow (n + (registerBatch formTypes state calls).2)
      (registerBatch formTypes state calls).1 := by
  induction calls generalizing n state with
  | nil => exact h
  | cons call calls ih =>
    rw [successCount_registerBatch_cons, ← Nat.add_assoc] at hn ⊢
    exact ih (idsBelow_tryRegisterItem h call.1 call.2
      (Nat.lt_of_le_of_lt (Nat.le_add_right _ _) hn)) hn

theorem undoHistory_undone (env : Environment Float32) (state : RuntimeState Float32)
    (older : List (UndoRecord Float32)) (record : UndoRecord Float32) :
    (undone env state older record).undoHistory = older ∧
      (undone env state older record).undoNextActionId = state.undoNextActionId := by
  cases hc : record.buildContribution with
  | some c =>
    obtain ⟨ledger, heq⟩ := undone_of_contribution env state older hc
    have helse := sameElsewhere_rollback (takenBack state older record) c
    rw [heq]
    exact ⟨helse.undoHistory, helse.undoNextActionId⟩
  | none =>
    rw [undone_of_no_contribution env state older hc, Rewards.rollbackRewardDeltas_frame]
    exact ⟨rfl, rfl⟩

theorem registeredItems_undone (env : Environment Float32) (state : RuntimeState Float32)
    (older : List (UndoRecord Float32)) (record : UndoRecord Float32) :
    (undone env state older record).registeredItems =
      state.registeredItems.erase record.regKey := by
  cases hc : record.buildContribution with
  | some c =>
    obtain ⟨ledger, heq⟩ := undone_of_contribution env state older hc
    rw [heq]
    exact (sameElsewhere_rollback (takenBack state older record) c).registeredItems
  | none =>
    rw [undone_of_no_contribution env state older hc, Rewards.rollbackRewardDeltas_frame]
    rfl

theorem idsBelow_undone (h : IdsBelow n state) (hhistory : state.undoHistory = older ++ [record]) :
    IdsBelow n (undone env state older record) := by
  obtain ⟨holder, hnext⟩ := undoHistory_undone env state older record
  refine ⟨hnext ▸ h.next, hnext ▸ h.pos, fun record' hrecord => ?_⟩
  rw [hnext]
  rw [holder] at hrecord
  exact h.below record' (by rw [hhistory]; exact List.mem_append_left _ hrecord)

end Operations

/-! ## What a failed undo leaves -/

/-- Nothing the plugin remembers about registrations and builds has changed; the table
of registered items is compared by content. -/
structure Unchanged (before after : RuntimeState Float32) : Prop where
  registeredItems : after.registeredItems.Same before.registeredItems
  undoHistory : after.undoHistory = before.undoHistory
  undoNextActionId : after.undoNextActionId = before.undoNextActionId
  score : after.score = before.score
  pointsCenti : after.pointsCenti = before.pointsCenti
  activeBuildSlots : after.activeBuildSlots = before.activeBuildSlots
  blockedItems : after.blockedItems = before.blockedItems
  notifiedItems : after.notifiedItems = before.notifiedItems

theorem Unchanged.refl (state : RuntimeState Float32) : Unchanged state state :=
  ⟨.refl _, rfl, rfl, rfl, rfl, rfl, rfl, rfl⟩

section Failed

variable {env : Environment Float32} {actionId : UInt64}

/-- Whichever way an undo fails, with the ids below the counter it leaves no trace. -/
theorem unchanged_of_failed (hconsistent : Consistent formTypes state) (hids : IdsBelow n state)
    (hlength : state.undoHistory.length ≤ kUndoHistoryLimit)
    (hfails : (tryUndoRegistration env state actionId).2.success = false) :
    Unchanged state (tryUndoRegistration env state actionId).1 := by
  rcases tryUndoRegistration_cases env state actionId with
    ⟨-, heq⟩ | ⟨older, record, hhistory, -, ⟨-, -, heq⟩ | ⟨-, -, -, heq⟩ | ⟨hsuccess, -, -, -⟩⟩
  · rw [heq]
    exact .refl state
  · have hnext := max_succ_eq_left (hids.below record (by rw [hhistory]; simp))
    rw [heq, restoreUndoRecord_newest hhistory hlength, hnext]
    exact .refl state
  · have hnext := max_succ_eq_left (hids.below record (by rw [hhistory]; simp))
    have hsame := same_rollbackFailedUndo hconsistent hlength hhistory
    rw [heq]
    rw [rollbackFailedUndo_newest hhistory hlength, hnext] at hsame ⊢
    exact ⟨hsame, rfl, rfl, rfl, rfl, rfl, rfl, rfl⟩
  · rw [hsuccess] at hfails
    cases hfails

theorem idsBelow_tryUndoRegistration (hconsistent : Consistent formTypes state)
    (hids : IdsBelow n state) (hlength : state.undoHistory.length ≤ kUndoHistoryLimit)
    (env : Environment Float32) (actionId : UInt64) :
    IdsBelow n (tryUndoRegistration env state actionId).1 := by
  cases hsuccess : (tryUndoRegistration env state actionId).2.success with
  | false =>
    have hunchanged := unchanged_of_failed hconsistent hids hlength hsuccess
    exact hids.congr hunchanged.undoNextActionId hunchanged.undoHistory
  | true =>
    obtain ⟨older, record, hhistory, -, heq⟩ := tryUndoRegistration_succeeds hsuccess
    rw [heq]
    exact idsBelow_undone hids hhistory

end Failed

/-! ## Every state of a session -/

theorem idsBelow_newGameState : IdsBelow 0 newGameState where
  next := by decide
  pos := by decide
  below record hrecord := absurd hrecord List.not_mem_nil

/-- Every action keeps the history consistent and its ids below the counter. -/
theorem kept_act {session : Session} {action : Action} (hsettled : Settled session.state)
    (hconsistent : Consistent formTypes session.state)
    (hids : IdsBelow session.registrations session.state)
    (hbound : (session.act formTypes action).registrations < 2 ^ 64 - 1) :
    Consistent formTypes (session.act formTypes action).state ∧
      IdsBelow (session.act formTypes action).registrations
        (session.act formTypes action).state := by
  refine ⟨consistent_perform hconsistent hsettled.historyLength action, ?_⟩
  unfold Session.act at hbound ⊢
  dsimp only at hbound ⊢
  rcases perform_cases formTypes action session.state with
    ⟨calls, heq⟩ | ⟨env, actionId, heq⟩ | ⟨hsame, hcount⟩
  · rw [heq] at hbound ⊢
    exact idsBelow_registerBatch calls hids hbound
  · rw [heq]
    exact idsBelow_tryUndoRegistration hconsistent hids hsettled.historyLength env actionId
  · rw [hcount]
    exact hids.congr hsame.undoNextActionId hsame.undoHistory

/-- A load keeps the history consistent and its ids below the counter. -/
theorem kept_continues {saved loaded : RuntimeState Float32}
    (h : Consistent formTypes saved ∧ IdsBelow n saved) (hcontinues : Continues saved loaded) :
    Consistent formTypes loaded ∧ IdsBelow n loaded := by
  have hnext := hcontinues.undoNextActionId.trans h.2.nextActionIdOf_eq
  exact ⟨h.1.continues hcontinues, h.2.congr hnext hcontinues.undoHistory⟩

/-- In every reachable state and every save the history is consistent, and its ids are below
the counter. -/
theorem invariant_idsBelow (formTypes : FormID → FormType) :
    ((Session.system formTypes ownFiles).restrict
      fun _ session => session.registrations < 2 ^ 64 - 1).Invariant
        (Holds fun n state => Consistent formTypes state ∧ IdsBelow n state) := by
  refine ownSession_invariant (fun _ _ _ hmn h => ⟨h.1, h.2.mono hmn⟩)
    ⟨consistent_newGameState formTypes, idsBelow_newGameState⟩ ?_ ?_
  · intro session action hsettled h hbound
    exact kept_act hsettled h.1 h.2 hbound
  · intro n saved loaded _ h hcontinues
    exact kept_continues h hcontinues

/-- In every run of a session from a new game, loading its own co-saves, with fewer than
2⁶⁴ - 1 registrations, an undo that fails at any stage changes nothing. -/
theorem failed_undo_unchanged {session : Session}
    (h : ((Session.system formTypes ownFiles).restrict
      fun _ session => session.registrations < 2 ^ 64 - 1).Reachable session)
    (env : Environment Float32) (actionId : UInt64)
    (hfails : (tryUndoRegistration env session.state actionId).2.success = false) :
    Unchanged session.state (tryUndoRegistration env session.state actionId).1 := by
  obtain ⟨hsettled, hconsistent, hids⟩ := ((invariant_idsBelow formTypes).reachable h).state
  exact unchanged_of_failed hconsistent hids hsettled.historyLength hfails

/-- No player: the undo fails after it has taken the record and the registration. -/
def nobody : Environment Float32 := { Session.armory 0 1 with player := false }

theorem reachable_sixSwords_bounded : ((Session.system Session.weapons ownFiles).restrict
    fun _ session => session.registrations < 2 ^ 64 - 1).Reachable sixSwords := by
  have hstart : ((Session.system Session.weapons ownFiles).restrict
      fun _ session => session.registrations < 2 ^ 64 - 1).Reachable { state := newGameState } :=
    .of_init ⟨fun _ => none, fun _ => true, none, by rw [newGame_eq]⟩
  have hsix : sixSwords.registrations = 6 := by decide +kernel
  have hbound : sixSwords.registrations < 2 ^ 64 - 1 := by rw [hsix]; decide
  exact hstart.step ⟨.act _ _, hbound⟩

theorem failed_undo_unchanged_sixSwords :
    Unchanged sixSwords.state (tryUndoRegistration nobody sixSwords.state 6).1 :=
  failed_undo_unchanged reachable_sixSwords_bounded nobody 6 (by decide +kernel)

/-- Once the ids have run out, a failed undo raises the next action id. -/
theorem not_failed_undo_unchanged :
    ¬ ∀ (formTypes : FormID → FormType) (session : Session),
      (Session.system formTypes ownFiles).Reachable session →
      ∀ (env : Environment Float32) (actionId : UInt64),
      (tryUndoRegistration env session.state actionId).2.success = false →
      Unchanged session.state (tryUndoRegistration env session.state actionId).1 := by
  intro h
  obtain ⟨registrations, hreachable⟩ := Session.reachable_wrapped ownFiles
  have hfails : (tryUndoRegistration nobody (Session.oneSword 0) 1).2.success = false := by
    decide +kernel
  have hunchanged := h _ _ hreachable nobody 1 hfails
  have hraised : (tryUndoRegistration nobody (Session.oneSword 0) 1).1.undoNextActionId = 2 := by
    decide +kernel
  have hwrong : (2 : UInt64) = 0 := hraised.symm.trans hunchanged.undoNextActionId
  exact absurd hwrong (by decide)

end CodexOfPower
