/-
# `CodexOfPower.UndoHistory` — what the history says about the registered items

Registering puts a key into the table and a record into the history; undoing takes
both away.  Between these, every record belongs to a registered key, carries that
key's group and that key's contribution, and no two records share a key
(`Consistent`).  An undo relies on it twice: what it takes back is what was added,
and what it puts back on failure is what it took.
-/
import CodexOfPower.OwnSessions

namespace CodexOfPower

open RE Builds BuildProgression Registration Serialization

/-! ## The invariant -/

section Invariant

variable (formTypes : FormID → FormType)

/-- A key that counts: its group is one of the six, and its form type is worth points. -/
def Counts (regKey : FormID) (group : UInt32) : Prop :=
  group ≤ 5 ∧ resolveBuildPointsForFormType (formTypes regKey) ≠ 0

/-- A record of the history says what its registration added. -/
structure Accounts (registeredItems : UnorderedMap FormID UInt32) (record : UndoRecord Float32) :
    Prop where
  registered : registeredItems.lookup record.regKey = some record.group
  contribution :
    record.buildContribution = makeRegistrationContribution record.group (formTypes record.regKey)

structure Consistent (state : RuntimeState Float32) : Prop where
  counts : ∀ regKey group, state.registeredItems.lookup regKey = some group →
    Counts formTypes regKey group
  accounts : ∀ record ∈ state.undoHistory, Accounts formTypes state.registeredItems record
  nodup : (state.undoHistory.map UndoRecord.regKey).Nodup

end Invariant

variable {formTypes : FormID → FormType} {state : RuntimeState Float32}
  {env : Environment Float32} {item regKey : FormID} {group : UInt32}
  {older : List (UndoRecord Float32)} {record : UndoRecord Float32}

/-! ## Each operation keeps it -/

/-- What the consistency of a history depends on. -/
theorem Consistent.congr {state' : RuntimeState Float32} (h : Consistent formTypes state)
    (hitems : state'.registeredItems.Same state.registeredItems)
    (hhistory : state'.undoHistory = state.undoHistory) : Consistent formTypes state' where
  counts regKey group hlookup := h.counts regKey group ((hitems regKey).symm.trans hlookup)
  accounts record hrecord := by
    rw [hhistory] at hrecord
    obtain ⟨hregistered, hcontribution⟩ := h.accounts record hrecord
    exact ⟨(hitems record.regKey).trans hregistered, hcontribution⟩
  nodup := hhistory ▸ h.nodup

/-- A new key is not one of the history. -/
theorem Consistent.ne_of_fresh (h : Consistent formTypes state)
    (hfresh : regKey ∉ state.registeredItems) :
    ∀ record ∈ state.undoHistory, record.regKey ≠ regKey :=
  fun record hrecord hkey =>
    hfresh (hkey ▸ UnorderedMap.mem_of_lookup (h.accounts record hrecord).registered)

/-- The newest record shares its key with no older one. -/
theorem Consistent.ne_of_older (h : Consistent formTypes state)
    (hhistory : state.undoHistory = older ++ [record]) :
    ∀ record' ∈ older, record'.regKey ≠ record.regKey := by
  have hnodup := h.nodup
  rw [hhistory, List.map_append, List.map_singleton] at hnodup
  exact fun record' hold hkey => (List.nodup_append.mp hnodup).2.2 _ (List.mem_map_of_mem hold) _
    (List.mem_singleton_self _) hkey

theorem Consistent.accounts_newest (h : Consistent formTypes state)
    (hhistory : state.undoHistory = older ++ [record]) :
    Accounts formTypes state.registeredItems record :=
  h.accounts record (by rw [hhistory]; exact List.mem_append_right _ (List.mem_singleton_self _))

theorem consistent_commit (h : Consistent formTypes state)
    (hfresh : regKey ∉ state.registeredItems) (hcounts : Counts formTypes regKey group) :
    Consistent formTypes (commitRegistration formTypes env state item regKey group).1 := by
  obtain ⟨ledger, heq⟩ := commitRegistration_eq formTypes env state item regKey group
  rw [heq, UnorderedMap.emplace_of_notMem hfresh]
  have hne := h.ne_of_fresh hfresh
  refine ⟨fun regKey' group' hlookup => ?_, fun record hmem => ?_, ?_⟩
  · rw [UnorderedMap.lookup_insert_eq] at hlookup
    split_ifs at hlookup with hkey
    · cases hlookup
      exact hkey ▸ hcounts
    · exact h.counts regKey' group' hlookup
  · rcases List.mem_append.mp ((trimHistory_suffix _).mem hmem) with hold | hnew
    · obtain ⟨hregistered, hcontribution⟩ := h.accounts record hold
      refine ⟨?_, hcontribution⟩
      rw [UnorderedMap.lookup_insert_eq, if_neg (hne record hold)]
      exact hregistered
    · rw [List.mem_singleton.mp hnew]
      exact ⟨AList.lookup_insert _, rfl⟩
  · -- trimming only forgets the oldest
    have hnodup : ((state.undoHistory ++ [registrationRecord formTypes state item regKey
        group]).map UndoRecord.regKey).Nodup := by
      rw [List.map_append, List.map_singleton]
      refine h.nodup.append (List.nodup_singleton _) ?_
      rw [List.disjoint_singleton]
      intro hmem
      obtain ⟨record, hold, hkey⟩ := List.mem_map.mp hmem
      exact hne record hold hkey
    exact hnodup.sublist (((trimHistory_suffix _).sublist).map _)

theorem consistent_takenBack (h : Consistent formTypes state)
    (hhistory : state.undoHistory = older ++ [record]) :
    Consistent formTypes (takenBack state older record) where
  counts regKey group hlookup := by
    change (state.registeredItems.erase record.regKey).lookup regKey = some group at hlookup
    rw [UnorderedMap.lookup_erase_eq] at hlookup
    split_ifs at hlookup
    exact h.counts regKey group hlookup
  accounts record' hold := by
    obtain ⟨hregistered, hcontribution⟩ := h.accounts record' (by
      rw [hhistory]; exact List.mem_append_left _ hold)
    refine ⟨?_, hcontribution⟩
    show (state.registeredItems.erase record.regKey).lookup record'.regKey = _
    rw [UnorderedMap.lookup_erase_eq, if_neg (h.ne_of_older hhistory record' hold)]
    exact hregistered
  nodup := by
    have hnodup := h.nodup
    rw [hhistory, List.map_append] at hnodup
    exact (List.nodup_append.mp hnodup).1

theorem consistent_undone (h : Consistent formTypes state)
    (hhistory : state.undoHistory = older ++ [record]) :
    Consistent formTypes (undone env state older record) := by
  have htaken := consistent_takenBack h hhistory
  cases hc : record.buildContribution with
  | some c =>
    obtain ⟨ledger, heq⟩ := undone_of_contribution env state older hc
    have helse := sameElsewhere_rollback (takenBack state older record) c
    have hrolled := htaken.congr (by rw [helse.registeredItems]; exact .refl _) helse.undoHistory
    rw [heq]
    exact hrolled.congr (.refl _) rfl
  | none =>
    rw [undone_of_no_contribution env state older hc, Rewards.rollbackRewardDeltas_frame]
    exact htaken.congr (.refl _) rfl

/-- An undo that fails puts back what it took, up to the layout of the table. -/
theorem same_rollbackFailedUndo (h : Consistent formTypes state)
    (hlength : state.undoHistory.length ≤ kUndoHistoryLimit)
    (hhistory : state.undoHistory = older ++ [record]) :
    (rollbackFailedUndo (takenBack state older record) record).registeredItems.Same
      state.registeredItems := by
  rw [rollbackFailedUndo_newest hhistory hlength]
  exact UnorderedMap.same_insert_erase (h.accounts_newest hhistory).registered

theorem consistent_tryUndoRegistration (h : Consistent formTypes state)
    (hlength : state.undoHistory.length ≤ kUndoHistoryLimit) (env : Environment Float32)
    (actionId : UInt64) : Consistent formTypes (tryUndoRegistration env state actionId).1 := by
  rcases tryUndoRegistration_cases env state actionId with
    ⟨-, heq⟩ | ⟨older, record, hhistory, -, ⟨-, -, heq⟩ | ⟨-, -, -, heq⟩ | ⟨-, -, -, heq⟩⟩
  · rw [heq]; exact h
  · rw [heq, restoreUndoRecord_newest hhistory hlength]
    exact h.congr (.refl _) rfl
  · rw [heq]
    refine h.congr (same_rollbackFailedUndo h hlength hhistory) ?_
    rw [rollbackFailedUndo_newest hhistory hlength]
  · rw [heq]; exact consistent_undone h hhistory

theorem consistent_tryRegisterItem (h : Consistent formTypes state) (env : Environment Float32)
    (formId : FormID) : Consistent formTypes (tryRegisterItem formTypes env state formId).1 := by
  rcases tryRegisterItem_cases formTypes env state formId with
    ⟨-, heq | heq⟩ | ⟨-, hfresh, hgroup, heq⟩
  · rw [heq]; exact h
  · rw [heq, RegistrationStateStore.blockPair_frame]
    exact h.congr (.refl _) rfl
  · rw [heq]
    exact consistent_commit h hfresh ⟨hgroup, resolveBuildPoints_of_discoveryGroup hgroup⟩

theorem consistent_perform (h : Consistent formTypes state)
    (hlength : state.undoHistory.length ≤ kUndoHistoryLimit) (action : Action) :
    Consistent formTypes (perform formTypes action state).1 := by
  rcases perform_cases formTypes action state with
    ⟨calls, heq⟩ | ⟨env, actionId, heq⟩ | ⟨hsame, -⟩
  · rw [heq]
    exact registerBatch_preserves (Consistent formTypes)
      (fun env _ formId h => consistent_tryRegisterItem h env formId) h calls
  · rw [heq]; exact consistent_tryUndoRegistration h hlength env actionId
  · exact h.congr (by rw [hsame.registeredItems]; exact .refl _) hsame.undoHistory

theorem consistent_newGameState (formTypes : FormID → FormType) :
    Consistent formTypes newGameState where
  counts regKey group hlookup := by
    change (∅ : UnorderedMap FormID UInt32).lookup regKey = some group at hlookup
    rw [UnorderedMap.lookup_empty] at hlookup
    cases hlookup
  accounts record hrecord := absurd hrecord List.not_mem_nil
  nodup := List.nodup_nil

theorem Consistent.continues {loaded : RuntimeState Float32} (h : Consistent formTypes state)
    (hcontinues : Continues state loaded) : Consistent formTypes loaded :=
  h.congr hcontinues.registeredItems hcontinues.undoHistory

end CodexOfPower
