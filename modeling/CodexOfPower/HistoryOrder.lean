/-
# `CodexOfPower.HistoryOrder` — the undo history is in order

The ids of the history rise from the oldest record to the newest, and the next id is
above them all: a new record goes to the end with an id above the others, trimming
and undoing only take records off, and an undo that fails leaves the history as it
was.  With what `Consistent` says of the keys this is all that an undo relies on
(`undoHistory_valid`).

## What is not said

Co-saves from elsewhere are left out: a file may hold records in any order.  So are sessions
in which the 64-bit counter of the ids comes round (`CodexOfPower.WrappedIds`).
-/
import CodexOfPower.UndoAtomicity

namespace CodexOfPower

open RE Builds BuildProgression Registration Serialization

variable {formTypes : FormID → FormType} {state : RuntimeState Float32} {n : Nat}
  {older : List (UndoRecord Float32)} {record : UndoRecord Float32}

/-! ## Ids in order -/

/-- The ids rise from the oldest record to the newest. -/
def Ordered (history : List (UndoRecord Float32)) : Prop :=
  (history.map UndoRecord.actionId).Pairwise (· < ·)

theorem Ordered.sublist {history history' : List (UndoRecord Float32)} (h : Ordered history)
    (hsub : List.Sublist history' history) : Ordered history' :=
  List.Pairwise.sublist (hsub.map _) h

theorem Ordered.concat (h : Ordered older)
    (hbelow : ∀ old ∈ older, old.actionId < record.actionId) : Ordered (older ++ [record]) := by
  unfold Ordered
  rw [List.map_append, List.map_singleton]
  refine List.pairwise_append.mpr ⟨h, List.pairwise_singleton _ _, ?_⟩
  intro id hid id' hid'
  obtain ⟨old, hold, rfl⟩ := List.mem_map.mp hid
  rw [List.mem_singleton.mp hid']
  exact hbelow old hold

theorem IdsBelow.lt_next (h : IdsBelow n state) :
    ∀ record ∈ state.undoHistory, record.actionId < state.undoNextActionId :=
  fun record hrecord => UInt64.lt_iff_toNat_lt.mpr (h.below record hrecord)

/-! ## Each operation keeps the order -/

theorem ordered_commit (h : Ordered state.undoHistory) (hids : IdsBelow n state)
    (env : Environment Float32) (item regKey : FormID) (group : UInt32) :
    Ordered (commitRegistration formTypes env state item regKey group).1.undoHistory := by
  obtain ⟨ledger, heq⟩ := commitRegistration_eq formTypes env state item regKey group
  rw [heq]
  exact (h.concat hids.lt_next).sublist (trimHistory_suffix _).sublist

theorem ordered_tryRegisterItem (h : Ordered state.undoHistory) (hids : IdsBelow n state)
    (env : Environment Float32) (formId : FormID) :
    Ordered (tryRegisterItem formTypes env state formId).1.undoHistory := by
  rcases tryRegisterItem_cases formTypes env state formId with
    ⟨-, heq | heq⟩ | ⟨-, -, -, heq⟩
  · rw [heq]; exact h
  · rw [heq, RegistrationStateStore.blockPair_frame]; exact h
  · rw [heq]; exact ordered_commit h hids env _ _ _

/-- A batch keeps the ids in order: each is above those before it. -/
theorem ordered_registerBatch (calls : List (Environment Float32 × FormID))
    (h : Ordered state.undoHistory) (hids : IdsBelow n state)
    (hn : n + (registerBatch formTypes state calls).2 < 2 ^ 64 - 1) :
    Ordered (registerBatch formTypes state calls).1.undoHistory := by
  induction calls generalizing n state with
  | nil => exact h
  | cons call calls ih =>
    rw [successCount_registerBatch_cons, ← Nat.add_assoc] at hn
    have hfirst := idsBelow_tryRegisterItem hids call.1 call.2
      (Nat.lt_of_le_of_lt (Nat.le_add_right _ _) hn)
    exact ih (ordered_tryRegisterItem h hids call.1 call.2) hfirst hn

theorem ordered_tryUndoRegistration (h : Ordered state.undoHistory)
    (hconsistent : Consistent formTypes state) (hids : IdsBelow n state)
    (hlength : state.undoHistory.length ≤ kUndoHistoryLimit) (env : Environment Float32)
    (actionId : UInt64) : Ordered (tryUndoRegistration env state actionId).1.undoHistory := by
  cases hsuccess : (tryUndoRegistration env state actionId).2.success with
  | false =>
    rw [(unchanged_of_failed hconsistent hids hlength hsuccess).undoHistory]
    exact h
  | true =>
    obtain ⟨older, record, hhistory, -, heq⟩ := tryUndoRegistration_succeeds hsuccess
    rw [heq, (undoHistory_undone env state older record).1]
    rw [hhistory] at h
    exact h.sublist (List.sublist_append_left older [record])

/-! ## Every state of a session -/

theorem invariant_ordered (formTypes : FormID → FormType) :
    ((Session.system formTypes ownFiles).restrict
      fun _ session => session.registrations < 2 ^ 64 - 1).Invariant
        (Holds fun n state =>
          (Consistent formTypes state ∧ IdsBelow n state) ∧ Ordered state.undoHistory) := by
  refine ownSession_invariant (fun _ _ _ hmn h => ⟨⟨h.1.1, h.1.2.mono hmn⟩, h.2⟩)
    ⟨⟨consistent_newGameState formTypes, idsBelow_newGameState⟩, List.Pairwise.nil⟩ ?_ ?_
  · intro session action hsettled h hbound
    obtain ⟨⟨hconsistent, hids⟩, hordered⟩ := h
    refine ⟨kept_act hsettled hconsistent hids hbound, ?_⟩
    unfold Session.act at hbound ⊢
    dsimp only at hbound ⊢
    rcases perform_cases formTypes action session.state with
      ⟨calls, heq⟩ | ⟨env, actionId, heq⟩ | ⟨hsame, -⟩
    · rw [heq] at hbound ⊢
      exact ordered_registerBatch calls hordered hids hbound
    · rw [heq]
      exact ordered_tryUndoRegistration hordered hconsistent hids hsettled.historyLength env
        actionId
    · rw [hsame.undoHistory]
      exact hordered
  · intro n saved loaded _ h hcontinues
    refine ⟨kept_continues h.1 hcontinues, ?_⟩
    rw [hcontinues.undoHistory]
    exact h.2

/-- What an undo relies on. -/
structure HistoryValid (state : RuntimeState Float32) : Prop where
  length : state.undoHistory.length ≤ kUndoHistoryLimit
  ordered : Ordered state.undoHistory
  next : ∀ record ∈ state.undoHistory, record.actionId < state.undoNextActionId
  nodup : (state.undoHistory.map UndoRecord.regKey).Nodup
  registered : ∀ record ∈ state.undoHistory,
    state.registeredItems.lookup record.regKey = some record.group

/-- In every run of a session from a new game, loading its own co-saves, with fewer than
2⁶⁴ - 1 registrations: the history has ten records at most, its ids rise and are below
the next one, and its records have different keys, each registered with the record's
group. -/
theorem undoHistory_valid {session : Session}
    (h : ((Session.system formTypes ownFiles).restrict
      fun _ session => session.registrations < 2 ^ 64 - 1).Reachable session) :
    HistoryValid session.state := by
  obtain ⟨hsettled, ⟨hconsistent, hids⟩, hordered⟩ :=
    ((invariant_ordered formTypes).reachable h).state
  exact
    { length := hsettled.historyLength
      ordered := hordered
      next := hids.lt_next
      nodup := hconsistent.nodup
      registered := fun record hrecord => (hconsistent.accounts record hrecord).registered }

theorem undoHistory_valid_sixSwords : HistoryValid sixSwords.state :=
  undoHistory_valid reachable_sixSwords_bounded

end CodexOfPower
