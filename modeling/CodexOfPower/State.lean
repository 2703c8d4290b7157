/-
# `CodexOfPower.State` — the runtime state and its snapshot

Everything the plugin remembers between calls, with the defaults of its headers.
The snapshot that saving and loading exchange has the same seventeen fields and no
mutex; both are one structure here, and `snapshotState`, `replaceState` and
`clear` list the fields one by one, as the source does, so that a field forgotten
there would be forgotten here.
-/
import CodexOfPower.BuildTypes
import CodexOfPower.Lib.UnorderedMap
import CodexOfPower.Lib.FloatType

namespace CodexOfPower

open RE Builds

/-! ## Undo records -/

namespace Registration

def kUndoHistoryLimit : Nat := 10

structure RewardDelta (F : Type) where
  av : ActorValue
  delta : F
deriving DecidableEq

structure BuildScoreContribution where
  discipline : BuildDiscipline := .Attack
  recordDelta : Int32 := 0
  pointsDeltaCenti : Int32 := 0
deriving DecidableEq

structure UndoRecord (F : Type) where
  actionId : UInt64 := 0
  formId : FormID := 0
  regKey : FormID := 0
  group : UInt32 := 255
  buildContribution : Option BuildScoreContribution := none
  rewardDeltas : List (RewardDelta F) := []
deriving DecidableEq

/-- `while (history.size() > kUndoHistoryLimit) history.pop_front()` -/
def trimHistory {F : Type} (history : List (UndoRecord F)) : List (UndoRecord F) :=
  history.drop (history.length - kUndoHistoryLimit)

theorem trimHistory_of_le {F : Type} {history : List (UndoRecord F)}
    (h : history.length ≤ kUndoHistoryLimit) : trimHistory history = history := by
  rw [trimHistory, Nat.sub_eq_zero_of_le h, List.drop_zero]

theorem length_trimHistory_le {F : Type} (history : List (UndoRecord F)) :
    (trimHistory history).length ≤ kUndoHistoryLimit := by
  rw [trimHistory, List.length_drop]
  omega

theorem trimHistory_suffix {F : Type} (history : List (UndoRecord F)) :
    trimHistory history <:+ history :=
  List.drop_suffix _ _

/-- Trimming before an append changes nothing that trimming after it does not. -/
theorem trimHistory_append {F : Type} (history : List (UndoRecord F)) (record : UndoRecord F) :
    trimHistory (trimHistory history ++ [record]) = trimHistory (history ++ [record]) := by
  unfold trimHistory
  rw [← List.drop_append_of_le_length (Nat.sub_le _ _), List.drop_drop, List.length_drop,
    List.length_append]
  congr 1
  simp only [List.length_singleton]
  omega

end Registration

/-! ## The state -/

/-- `RuntimeState`, less its mutex. -/
structure RuntimeState (F : Type) where
  /-- regKey → discovery group; 255 stands for "unknown" in older data. -/
  registeredItems : UnorderedMap FormID UInt32 := ∅
  blockedItems : UnorderedSet FormID := ∅
  notifiedItems : UnorderedSet FormID := ∅
  rewardTotals : UnorderedMap ActorValue F := ∅
  buildAppliedEffectTotals : UnorderedMap ActorValue F := ∅
  attackScore : UInt32 := 0
  defenseScore : UInt32 := 0
  utilityScore : UInt32 := 0
  attackBuildPointsCenti : BuildPointCenti := 0
  defenseBuildPointsCenti : BuildPointCenti := 0
  utilityBuildPointsCenti : BuildPointCenti := 0
  activeBuildSlots : ActiveBuildSlots := fun _ => []
  buildMigrationVersion : UInt32 := 0
  buildMigrationState : BuildMigrationState := .kNotStarted
  buildMigrationNotice : BuildMigrationNoticeSnapshot := {}
  /-- Oldest record first. -/
  undoHistory : List (Registration.UndoRecord F) := []
  undoNextActionId : UInt64 := 1

namespace SerializationStateStore

variable {F : Type}

/-- The snapshot that saving and loading exchange: the same fields. -/
abbrev Snapshot (F : Type) := RuntimeState F

def snapshotState (state : RuntimeState F) : Snapshot F :=
  { registeredItems := state.registeredItems
    blockedItems := state.blockedItems
    notifiedItems := state.notifiedItems
    rewardTotals := state.rewardTotals
    buildAppliedEffectTotals := state.buildAppliedEffectTotals
    attackScore := state.attackScore
    defenseScore := state.defenseScore
    utilityScore := state.utilityScore
    attackBuildPointsCenti := state.attackBuildPointsCenti
    defenseBuildPointsCenti := state.defenseBuildPointsCenti
    utilityBuildPointsCenti := state.utilityBuildPointsCenti
    activeBuildSlots := state.activeBuildSlots
    buildMigrationVersion := state.buildMigrationVersion
    buildMigrationState := state.buildMigrationState
    buildMigrationNotice := state.buildMigrationNotice
    undoHistory := state.undoHistory
    undoNextActionId := state.undoNextActionId }

def replaceState (state : RuntimeState F) (snapshot : Snapshot F) : RuntimeState F :=
  { state with
    registeredItems := snapshot.registeredItems
    blockedItems := snapshot.blockedItems
    notifiedItems := snapshot.notifiedItems
    rewardTotals := snapshot.rewardTotals
    buildAppliedEffectTotals := snapshot.buildAppliedEffectTotals
    attackScore := snapshot.attackScore
    defenseScore := snapshot.defenseScore
    utilityScore := snapshot.utilityScore
    attackBuildPointsCenti := snapshot.attackBuildPointsCenti
    defenseBuildPointsCenti := snapshot.defenseBuildPointsCenti
    utilityBuildPointsCenti := snapshot.utilityBuildPointsCenti
    activeBuildSlots := snapshot.activeBuildSlots
    buildMigrationVersion := snapshot.buildMigrationVersion
    buildMigrationState := snapshot.buildMigrationState
    buildMigrationNotice := snapshot.buildMigrationNotice
    undoHistory := snapshot.undoHistory
    undoNextActionId := snapshot.undoNextActionId }

def clear (state : RuntimeState F) : RuntimeState F :=
  { state with
    registeredItems := ∅
    blockedItems := ∅
    notifiedItems := ∅
    rewardTotals := ∅
    buildAppliedEffectTotals := ∅
    attackScore := 0
    defenseScore := 0
    utilityScore := 0
    attackBuildPointsCenti := 0
    defenseBuildPointsCenti := 0
    utilityBuildPointsCenti := 0
    activeBuildSlots := fun _ => []
    buildMigrationVersion := 0
    buildMigrationState := .kNotStarted
    buildMigrationNotice := {}
    undoHistory := []
    undoNextActionId := 1 }

/-- A snapshot is the whole state. -/
@[simp] theorem snapshotState_eq (state : RuntimeState F) : snapshotState state = state := rfl

@[simp] theorem replaceState_eq (state : RuntimeState F) (snapshot : Snapshot F) :
    replaceState state snapshot = snapshot := rfl

/-- Clearing leaves the state of a new game. -/
@[simp] theorem clear_eq (state : RuntimeState F) : clear state = {} := rfl

end SerializationStateStore

/-! ## Scores and points by discipline -/

namespace RuntimeState

variable {F : Type}

/-- The score of a discipline; 0 outside the three. -/
def score (state : RuntimeState F) : BuildDiscipline → UInt32
  | .Attack => state.attackScore
  | .Defense => state.defenseScore
  | .Utility => state.utilityScore
  | .unnamed _ => 0

/-- The build points of a discipline; 0 outside the three. -/
def pointsCenti (state : RuntimeState F) : BuildDiscipline → BuildPointCenti
  | .Attack => state.attackBuildPointsCenti
  | .Defense => state.defenseBuildPointsCenti
  | .Utility => state.utilityBuildPointsCenti
  | .unnamed _ => 0

end RuntimeState

end CodexOfPower
