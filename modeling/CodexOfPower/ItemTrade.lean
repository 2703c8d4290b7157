/-
# `CodexOfPower.ItemTrade` — an item registered is an item handed in

A registration takes one item from the player and an undo gives one back.  In between
the plugin has no item, only a key and, for the ten newest, a record that says which
item it was.  So that nobody gains or loses by it, an undo must give back an item of the
kind that was taken, and a game that is loaded must have an inventory that goes with the
registrations it has.

Here the inventory is part of the state, the game may refuse to move an item, and looting
changes the inventory from outside.  Registered keys are things handed in (`Lib.Escrow`);
what was handed in under a key is not known to the plugin.  In every run, for every kind
of item, what the player holds and what is registered adds up to what he was ever given
(`items_conserved`).

## What is not said

Items are counted by form.  What makes one of them different from another of its form (an
enchantment, its temper, its owner) is not counted, and an undo does not give it back.  That
a form is an object in one call and in the next is a premise: where it is not, an undo falls
back on the key, and may give another item than was taken.
-/
import CodexOfPower.Accounting
import CodexOfPower.UndoAtomicity
import CodexOfPower.Lib.Escrow

namespace CodexOfPower

open RE Builds BuildProgression Registration Serialization SerializationStateStore

/-! ## Undoing, with the inventory -/

section Model

/-- A call of `TryUndoRegistration`: what the game answers, and whether
`AddObjectToContainer`, once it is called, adds the item. -/
structure UndoAttempt where
  env : Environment Float32
  actionId : UInt64
  adds : Bool

/-- The item that `AddObjectToContainer` is called for, if nothing before it fails. -/
def addedItem (env : Environment Float32) (state : RuntimeState Float32) (actionId : UInt64) :
    Option FormID :=
  match RegistrationStateStore.popLatestUndoRecord state actionId with
  | (_, none) => none
  | (state, some record) =>
    match RegistrationStateStore.removeRegistered state record.regKey with
    | (_, false) => none
    | (_, true) => if env.player then resolveUndoItemObject env record else none

/-- `TryUndoRegistration`, with the inventory before and after. -/
def undoItem (attempt : UndoAttempt) (holdings : Holdings) : Holdings × UndoResult :=
  let added := if attempt.adds then addedItem attempt.env holdings.state attempt.actionId else none
  let itemCount := fun id =>
    if added = some id then holdings.itemCount id + 1 else holdings.itemCount id
  let env := { attempt.env with itemCount := holdings.itemCount, itemCountAfter := itemCount }
  let (state, result) := tryUndoRegistration env holdings.state attempt.actionId
  ({ state, itemCount }, result)

end Model

/-! ## A game, with what was handed in -/

/-- A saved game: the co-save, and what was true of the inventory then. -/
structure SavedTrade where
  records : List Record
  escrow : Escrow FormID FormID
  received : FormID → Int

/-- The session, the inventory with the items that were handed in for the registered
keys, and what the player was given from outside; the last two are not known to the
plugin. -/
structure Trade where
  session : Session
  escrow : Escrow FormID FormID
  received : FormID → Int
  games : List SavedTrade := []

namespace Trade

variable (formTypes : FormID → FormType)

def holdings (trade : Trade) : Holdings := ⟨trade.session.state, trade.escrow.held⟩

/-- One registration; its key now stands for the item. -/
def register (attempt : Attempt) (trade : Trade) : Trade :=
  let (holdings, result) := registerItem formTypes attempt trade.holdings
  { trade with
    session := { trade.session with
      state := holdings.state
      registrations := trade.session.registrations + successes result }
    escrow :=
      if result.success then
        ⟨holdings.itemCount, trade.escrow.deposited.insert result.regKey attempt.formId⟩
      else ⟨holdings.itemCount, trade.escrow.deposited⟩ }

def registerAll (attempts : List Attempt) (trade : Trade) : Trade :=
  attempts.foldl (fun trade attempt => trade.register formTypes attempt) trade

def undo (attempt : UndoAttempt) (trade : Trade) : Trade :=
  let (holdings, result) := undoItem attempt trade.holdings
  { trade with
    session := { trade.session with state := holdings.state }
    escrow :=
      if result.success then ⟨holdings.itemCount, trade.escrow.deposited.erase result.regKey⟩
      else ⟨holdings.itemCount, trade.escrow.deposited⟩ }

/-- `bound` says of each form whether it is a `TESBoundObject`, the same for all calls. -/
inductive Step (bound : FormID → Bool) : Trade → Trade → Prop
  | registerAll (trade : Trade) (attempts : List Attempt)
      (h : ∀ attempt ∈ attempts, attempt.env.lookupBoundObject = bound) :
      Step bound trade (trade.registerAll formTypes attempts)
  | undo (trade : Trade) (attempt : UndoAttempt) (h : attempt.env.lookupBoundObject = bound) :
      Step bound trade (trade.undo attempt)
  | act (trade : Trade) (action : Action) (h : action.MovesNoItem) :
      Step bound trade { trade with session := trade.session.act formTypes action }
  /-- The player loots, drops, buys, sells or consumes. -/
  | world (trade : Trade) (delta : FormID → Int) :
      Step bound trade { trade with
        escrow := ⟨fun id => trade.escrow.held id + delta id, trade.escrow.deposited⟩
        received := fun id => trade.received id + delta id }
  | save (trade : Trade) (accepts : Nat → Bool) (records : List Record)
      (h : Serialization.save accepts trade.session.state = (true, records)) :
      Step bound trade { trade with
        session := { trade.session with saves := records :: trade.session.saves }
        games := ⟨records, trade.escrow, trade.received⟩ :: trade.games }
  /-- The game restores the inventory, the plugin its state. -/
  | load (trade : Trade) (lookupFormType : FormTypeLookup) (cleanup : Snapshot Float32 → Bool)
      (avOwner : Option (ActorValue → Float32)) (game : SavedTrade) (h : game ∈ trade.games) :
      Step bound trade { trade with
        session := { trade.session with
          state := loadGame lookupFormType cleanup avOwner some game.records trade.session.state }
        escrow := game.escrow
        received := game.received }
  | newGame (trade : Trade) (lookupFormType : FormTypeLookup)
      (cleanup : Snapshot Float32 → Bool) (avOwner : Option (ActorValue → Float32))
      (held : FormID → Int) :
      Step bound trade { trade with
        session := { trade.session with
          state := CodexOfPower.newGame lookupFormType cleanup avOwner trade.session.state }
        escrow := ⟨held, ∅⟩
        received := held }

def system (bound : FormID → Bool) : TransitionSystem Trade where
  init trade := ∃ lookupFormType cleanup avOwner held,
    trade =
      { session := { state := CodexOfPower.newGame lookupFormType cleanup avOwner {} }
        escrow := ⟨held, ∅⟩
        received := held }
  step := Step formTypes bound

end Trade

/-! ## One undo -/

section Undo

variable {env : Environment Float32} {state : RuntimeState Float32} {actionId : UInt64}
  {record : UndoRecord Float32} {attempt : UndoAttempt} {holdings : Holdings}

theorem undoFailure_eq_none_iff :
    undoFailure env record = none ↔ env.player = true ∧ ∃ item,
      resolveUndoItemObject env record = some item ∧
        env.itemCount item < env.itemCountAfter item := by
  unfold undoFailure
  cases env.player with
  | false => simp
  | true =>
    cases hitem : resolveUndoItemObject env record with
    | none => simp
    | some item =>
      by_cases hcount : env.itemCountAfter item ≤ env.itemCount item
      · simp [hcount]
      · simp [hcount]
        exact Int.not_le.mp hcount

/-- An undo succeeds if the item it asks for is there afterwards. -/
theorem tryUndoRegistration_success_iff :
    (tryUndoRegistration env state actionId).2.success = true ↔ ∃ item,
      addedItem env state actionId = some item ∧ env.itemCount item < env.itemCountAfter item := by
  unfold tryUndoRegistration addedItem
  rcases RegistrationStateStore.popLatestUndoRecord_cases state actionId with
    hnone | ⟨older, record, -, -, hsome⟩
  · rw [hnone]
    simp
  · rw [hsome]
    dsimp only
    cases hremove : RegistrationStateStore.removeRegistered { state with undoHistory := older }
      record.regKey with
    | mk removed found =>
      cases found with
      | false => simp
      | true =>
        have hiff : undoFailure env record = none ↔ env.player = true ∧ ∃ item,
            resolveUndoItemObject env record = some item ∧
              env.itemCount item < env.itemCountAfter item := undoFailure_eq_none_iff
        cases hfailure : undoFailure env record with
        | none =>
          obtain ⟨hplayer, item, hitem, hcount⟩ := hiff.mp hfailure
          simp [hplayer, hitem, hcount]
        | some message =>
          refine iff_of_false Bool.false_ne_true ?_
          rintro ⟨item, hadded, hcount⟩
          dsimp only at hadded
          split_ifs at hadded with hplayer
          rw [hiff.mpr ⟨hplayer, item, hadded, hcount⟩] at hfailure
          cases hfailure

theorem addedItem_eq_some {item : FormID} (h : addedItem env state actionId = some item) :
    ∃ older record, state.undoHistory = older ++ [record] ∧ record.actionId = actionId ∧
      resolveUndoItemObject env record = some item := by
  unfold addedItem at h
  rcases RegistrationStateStore.popLatestUndoRecord_cases state actionId with
    hnone | ⟨older, record, hhistory, hid, hsome⟩
  · rw [hnone] at h
    cases h
  · rw [hsome] at h
    dsimp only at h
    split at h
    · cases h
    · split_ifs at h
      exact ⟨older, record, hhistory, hid, h⟩

theorem regKey_of_undo {older : List (UndoRecord Float32)}
    (hhistory : state.undoHistory = older ++ [record])
    (hsuccess : (tryUndoRegistration env state actionId).2.success = true) :
    (tryUndoRegistration env state actionId).2.regKey = record.regKey := by
  unfold tryUndoRegistration at hsuccess ⊢
  rcases RegistrationStateStore.popLatestUndoRecord_cases state actionId with
    hnone | ⟨older', record', hhistory', -, hsome⟩
  · rw [hnone] at hsuccess
    cases hsuccess
  · obtain ⟨-, hrecord⟩ := List.append_inj' (hhistory.symm.trans hhistory') rfl
    cases hrecord
    rw [hsome] at hsuccess ⊢
    dsimp only at hsuccess ⊢
    split at hsuccess
    · cases hsuccess
    · split at hsuccess
      · cases hsuccess
      · rfl

/-- What the game answers to an undo, once it has moved the item. -/
def UndoAttempt.answered (attempt : UndoAttempt) (holdings : Holdings) : Environment Float32 :=
  { attempt.env with
    itemCount := holdings.itemCount
    itemCountAfter := (undoItem attempt holdings).1.itemCount }

theorem undoItem_eq (attempt : UndoAttempt) (holdings : Holdings) :
    (undoItem attempt holdings).1.state =
        (tryUndoRegistration (attempt.answered holdings) holdings.state attempt.actionId).1 ∧
      (undoItem attempt holdings).2 =
        (tryUndoRegistration (attempt.answered holdings) holdings.state attempt.actionId).2 :=
  ⟨rfl, rfl⟩

/-- An undo either gives back the item of the newest record and takes its registration
back, or fails and gives nothing. -/
theorem undoItem_cases (attempt : UndoAttempt) (holdings : Holdings) :
    ((undoItem attempt holdings).2.success = false ∧
      (undoItem attempt holdings).1.itemCount = holdings.itemCount) ∨
    ((undoItem attempt holdings).2.success = true ∧ ∃ older record item,
      holdings.state.undoHistory = older ++ [record] ∧
      resolveUndoItemObject attempt.env record = some item ∧
      (∀ id, (undoItem attempt holdings).1.itemCount id =
        if id = item then holdings.itemCount id + 1 else holdings.itemCount id) ∧
      (undoItem attempt holdings).2.regKey = record.regKey ∧
      (undoItem attempt holdings).1.state =
        undone (attempt.answered holdings) holdings.state older record) := by
  obtain ⟨hstate, hresult⟩ := undoItem_eq attempt holdings
  have hanswered : addedItem (attempt.answered holdings) holdings.state attempt.actionId =
      addedItem attempt.env holdings.state attempt.actionId := rfl
  have hcounts : ∀ id, (undoItem attempt holdings).1.itemCount id =
      if (if attempt.adds then addedItem attempt.env holdings.state attempt.actionId
        else none) = some id then holdings.itemCount id + 1 else holdings.itemCount id :=
    fun _ => rfl
  cases hsuccess : (undoItem attempt holdings).2.success with
  | true =>
    rw [hresult] at hsuccess
    obtain ⟨item, hadded, hmore⟩ := tryUndoRegistration_success_iff.mp hsuccess
    change holdings.itemCount item < (undoItem attempt holdings).1.itemCount item at hmore
    rw [hcounts, ← hanswered, hadded] at hmore
    have hadds : attempt.adds = true := by
      cases hadds : attempt.adds with
      | true => rfl
      | false => simp [hadds] at hmore
    obtain ⟨older, record, hhistory, -, hitem⟩ := addedItem_eq_some hadded
    refine .inr ⟨rfl, older, record, item, hhistory, hitem, fun id => ?_, ?_, ?_⟩
    · rw [hcounts, if_pos hadds, ← hanswered, hadded]
      simp [eq_comm]
    · rw [hresult]
      exact regKey_of_undo hhistory hsuccess
    · rw [hstate]
      exact undone_of_success hhistory hsuccess
  | false =>
    refine .inl ⟨rfl, funext fun id => ?_⟩
    rw [hcounts]
    refine if_neg fun hadded => ?_
    split_ifs at hadded with hadds
    -- had the item been added, the undo would have succeeded
    have hmore : holdings.itemCount id < (undoItem attempt holdings).1.itemCount id := by
      rw [hcounts, if_pos hadds, if_pos hadded]
      exact Int.lt_succ _
    have htrue := tryUndoRegistration_success_iff.mpr ⟨id, hanswered.trans hadded, hmore⟩
    rw [← hresult, hsuccess] at htrue
    cases htrue

end Undo

/-! ## The balance -/

section Balance

variable {bound : FormID → Bool} {formTypes : FormID → FormType} {state : RuntimeState Float32}
  {escrow : Escrow FormID FormID} {received : FormID → Int} {n : Nat}

/-- The registered keys are those something was handed in for, the records of the history
say what, and what is held and handed in adds up to what was received. -/
structure Balanced (bound : FormID → Bool) (state : RuntimeState Float32)
    (escrow : Escrow FormID FormID) (received : FormID → Int) : Prop where
  keys : ∀ regKey, regKey ∈ escrow.deposited ↔ regKey ∈ state.registeredItems
  records : ∀ record ∈ state.undoHistory,
    escrow.deposited.lookup record.regKey = some record.formId
  bound : ∀ regKey item, escrow.deposited.lookup regKey = some item → bound item = true
  total : ∀ item, escrow.total item = received item

theorem Balanced.congr {state' : RuntimeState Float32} (h : Balanced bound state escrow received)
    (hitems : state'.registeredItems.Same state.registeredItems)
    (hhistory : state'.undoHistory = state.undoHistory) :
    Balanced bound state' escrow received where
  keys regKey := (h.keys regKey).trans (hitems.mem_iff regKey).symm
  records := by rw [hhistory]; exact h.records
  bound := h.bound
  total := h.total

theorem Balanced.deposit {env : Environment Float32} {item regKey : FormID} {group : UInt32}
    (h : Balanced bound state escrow received) (hconsistent : Consistent formTypes state)
    (hfresh : regKey ∉ state.registeredItems) (hitem : bound item = true) :
    Balanced bound (commitRegistration formTypes env state item regKey group).1
      (escrow.deposit regKey item) received := by
  obtain ⟨ledger, heq⟩ := commitRegistration_eq formTypes env state item regKey group
  have hnew : regKey ∉ escrow.deposited := fun hmem => hfresh ((h.keys regKey).mp hmem)
  have hlookup : ∀ k, (escrow.deposit regKey item).deposited.lookup k =
      if k = regKey then some item else escrow.deposited.lookup k :=
    fun k => UnorderedMap.lookup_insert_eq escrow.deposited regKey k item
  rw [heq]
  refine ⟨fun k => ?_, fun record hrecord => ?_, fun k item' hk => ?_, fun item' => ?_⟩
  · show k ∈ escrow.deposited.insert regKey item ↔ k ∈ state.registeredItems.emplace regKey group
    rw [AList.mem_insert, UnorderedMap.mem_emplace, h.keys]
  · rcases List.mem_append.mp ((trimHistory_suffix _).mem hrecord) with hold | hlast
    · rw [hlookup, if_neg (hconsistent.ne_of_fresh hfresh record hold)]
      exact h.records record hold
    · rw [List.mem_singleton.mp hlast, hlookup]
      exact if_pos rfl
  · rw [hlookup] at hk
    split_ifs at hk
    · cases hk
      exact hitem
    · exact h.bound k item' hk
  · rw [Escrow.total_deposit hnew]
    exact h.total item'

/-- An undo takes the item of its record back. -/
theorem Balanced.withdraw {env : Environment Float32} {older : List (UndoRecord Float32)}
    {record : UndoRecord Float32} (h : Balanced bound state escrow received)
    (hconsistent : Consistent formTypes state)
    (hhistory : state.undoHistory = older ++ [record]) :
    Balanced bound (undone env state older record)
      (escrow.withdraw record.regKey record.formId) received := by
  have hlookup : ∀ k, (escrow.withdraw record.regKey record.formId).deposited.lookup k =
      if k = record.regKey then none else escrow.deposited.lookup k :=
    fun k => UnorderedMap.lookup_erase_eq escrow.deposited record.regKey k
  have hnewest := h.records record (by rw [hhistory]; simp)
  refine ⟨fun k => ?_, fun record' hold => ?_, fun k item hk => ?_, fun item => ?_⟩
  · rw [registeredItems_undone]
    show k ∈ escrow.deposited.erase record.regKey ↔ _
    rw [AList.mem_erase, AList.mem_erase, h.keys]
  · rw [(undoHistory_undone env state older record).1] at hold
    rw [hlookup, if_neg (hconsistent.ne_of_older hhistory record' hold)]
    exact h.records record' (by rw [hhistory]; exact List.mem_append_left _ hold)
  · rw [hlookup] at hk
    split_ifs at hk
    exact h.bound k item hk
  · rw [Escrow.total_withdraw hnewest]
    exact h.total item

/-- The item an undo gives back is the one that was taken. -/
theorem Balanced.item_of_record {env : Environment Float32} {record : UndoRecord Float32}
    {item : FormID} (h : Balanced bound state escrow received)
    (hbound : env.lookupBoundObject = bound) (hrecord : record ∈ state.undoHistory)
    (hitem : resolveUndoItemObject env record = some item) : item = record.formId := by
  have hthere := h.bound record.regKey record.formId (h.records record hrecord)
  unfold resolveUndoItemObject at hitem
  rw [hbound, if_pos hthere] at hitem
  exact (Option.some.inj hitem).symm

end Balance

/-! ## Every step -/

namespace Trade

variable {bound : FormID → Bool} {formTypes : FormID → FormType} {trade trade' : Trade} {n : Nat}

/-- What is known of a state and its inventory, after `n` registrations. -/
structure Sound (formTypes : FormID → FormType) (bound : FormID → Bool) (n : Nat)
    (state : RuntimeState Float32) (escrow : Escrow FormID FormID) (received : FormID → Int) :
    Prop where
  settled : Settled state
  consistent : Consistent formTypes state
  idsBelow : IdsBelow n state
  balanced : Balanced bound state escrow received

theorem Sound.mono {m : Nat} {state : RuntimeState Float32} {escrow : Escrow FormID FormID}
    {received : FormID → Int} (h : Sound formTypes bound m state escrow received) (hmn : m ≤ n) :
    Sound formTypes bound n state escrow received :=
  ⟨h.settled, h.consistent, h.idsBelow.mono hmn, h.balanced⟩

/-- The state is sound, and so is every game that was saved. -/
structure Holds (formTypes : FormID → FormType) (bound : FormID → Bool) (trade : Trade) :
    Prop where
  now : Sound formTypes bound trade.session.registrations trade.session.state trade.escrow
    trade.received
  games : ∀ game ∈ trade.games, ∃ saved accepts,
    Sound formTypes bound trade.session.registrations saved game.escrow game.received ∧
      Serialization.save accepts saved = (true, game.records)

section Register

variable {attempt : Attempt}

def answered (formTypes : FormID → FormType) (attempt : Attempt) (holdings : Holdings) :
    Environment Float32 :=
  { attempt.env with
    itemCount := holdings.itemCount
    itemCountAfter := (registerItem formTypes attempt holdings).1.itemCount }

/-- The attempt is a call of `TryRegisterItem` with these answers. -/
theorem registerItem_eq (formTypes : FormID → FormType) (attempt : Attempt) (holdings : Holdings) :
    (registerItem formTypes attempt holdings).1.state =
        (tryRegisterItem formTypes (answered formTypes attempt holdings) holdings.state
          attempt.formId).1 ∧
      (registerItem formTypes attempt holdings).2 =
        (tryRegisterItem formTypes (answered formTypes attempt holdings) holdings.state
          attempt.formId).2 :=
  ⟨rfl, rfl⟩

/-- A registration that goes through hands the item in, under a new key. -/
theorem balanced_register (hconsistent : Consistent formTypes trade.session.state)
    (h : Balanced bound trade.session.state trade.escrow trade.received)
    (hattempt : attempt.env.lookupBoundObject = bound) :
    Balanced bound (trade.register formTypes attempt).session.state
      (trade.register formTypes attempt).escrow trade.received := by
  obtain ⟨hstate, hresult⟩ := registerItem_eq formTypes attempt trade.holdings
  have hescrow : (trade.register formTypes attempt).escrow =
      if (registerItem formTypes attempt trade.holdings).2.success then
        ⟨(registerItem formTypes attempt trade.holdings).1.itemCount,
          trade.escrow.deposited.insert
            (registerItem formTypes attempt trade.holdings).2.regKey attempt.formId⟩
      else ⟨(registerItem formTypes attempt trade.holdings).1.itemCount,
        trade.escrow.deposited⟩ := rfl
  have hafter : (trade.register formTypes attempt).session.state =
      (registerItem formTypes attempt trade.holdings).1.state := rfl
  rw [hescrow, hafter]
  rcases registerItem_cases formTypes attempt trade.holdings with
    ⟨hfails, honly⟩ | ⟨hsuccess, hcount, -⟩
  · rw [hfails, if_neg Bool.false_ne_true, honly.itemCount, honly.state]
    exact h.congr (.refl _) rfl
  · rw [hsuccess, if_pos rfl]
    rw [hresult] at hsuccess
    obtain ⟨hregKey, -, hcommit⟩ := registered_of_success hsuccess
    obtain ⟨⟨entry, hadmissible⟩, -⟩ := tryRegisterItem_success_iff.mp hsuccess
    have hitem : bound attempt.formId = true := hattempt ▸ hadmissible.found
    have hheld : (registerItem formTypes attempt trade.holdings).1.itemCount =
        (trade.escrow.deposit (getRegisterKey (answered formTypes attempt trade.holdings)
          attempt.formId) attempt.formId).held := by
      funext id
      rw [hcount]
      show trade.escrow.held id - _ = if id = attempt.formId then _ else _
      split_ifs
      · rfl
      · exact Int.sub_zero _
    rw [hresult, hregKey, hheld, hstate, hcommit]
    exact h.deposit hconsistent hadmissible.fresh hitem

theorem sound_register (h : Sound formTypes bound trade.session.registrations
      trade.session.state trade.escrow trade.received)
    (hattempt : attempt.env.lookupBoundObject = bound)
    (hlt : (trade.register formTypes attempt).session.registrations < 2 ^ 64 - 1) :
    Sound formTypes bound (trade.register formTypes attempt).session.registrations
      (trade.register formTypes attempt).session.state
      (trade.register formTypes attempt).escrow trade.received where
  settled := h.settled.perform formTypes
    (.register (answered formTypes attempt trade.holdings) attempt.formId)
  consistent := consistent_tryRegisterItem h.consistent _ attempt.formId
  idsBelow := idsBelow_tryRegisterItem h.idsBelow _ attempt.formId hlt
  balanced := balanced_register h.consistent h.balanced hattempt

theorem le_registrations_registerAll (attempts : List Attempt) (trade : Trade) :
    trade.session.registrations ≤ (trade.registerAll formTypes attempts).session.registrations := by
  induction attempts generalizing trade with
  | nil => exact Nat.le_refl _
  | cons attempt rest ih =>
    have hfirst : trade.session.registrations ≤
        (trade.register formTypes attempt).session.registrations := Nat.le_add_right _ _
    exact hfirst.trans (ih (trade.register formTypes attempt))

theorem sound_registerAll {attempts : List Attempt}
    (h : Sound formTypes bound trade.session.registrations
      trade.session.state trade.escrow trade.received)
    (hattempts : ∀ attempt ∈ attempts, attempt.env.lookupBoundObject = bound)
    (hlt : (trade.registerAll formTypes attempts).session.registrations < 2 ^ 64 - 1) :
    Sound formTypes bound (trade.registerAll formTypes attempts).session.registrations
      (trade.registerAll formTypes attempts).session.state
      (trade.registerAll formTypes attempts).escrow trade.received := by
  induction attempts generalizing trade with
  | nil => exact h
  | cons attempt rest ih =>
    have hfirst :=
      (le_registrations_registerAll rest (trade.register formTypes attempt)).trans_lt hlt
    exact ih (sound_register h (hattempts attempt (List.mem_cons_self ..)) hfirst)
      (fun attempt' hmem => hattempts attempt' (List.mem_cons_of_mem _ hmem)) hlt

theorem registerAll_frame (attempts : List Attempt) (trade : Trade) :
    (trade.registerAll formTypes attempts).games = trade.games ∧
      (trade.registerAll formTypes attempts).received = trade.received := by
  induction attempts generalizing trade with
  | nil => exact ⟨rfl, rfl⟩
  | cons attempt rest ih => exact ih (trade.register formTypes attempt)

end Register

/-- An undo that goes through takes the item back, and the trade stays sound. -/
theorem sound_undo (h : Sound formTypes bound n trade.session.state trade.escrow trade.received)
    {attempt : UndoAttempt} (hattempt : attempt.env.lookupBoundObject = bound) :
    Sound formTypes bound n (trade.undo attempt).session.state (trade.undo attempt).escrow
      trade.received := by
  obtain ⟨hstate, hresult⟩ := undoItem_eq attempt trade.holdings
  have hescrow : (trade.undo attempt).escrow =
      if (undoItem attempt trade.holdings).2.success then
        ⟨(undoItem attempt trade.holdings).1.itemCount,
          trade.escrow.deposited.erase (undoItem attempt trade.holdings).2.regKey⟩
      else ⟨(undoItem attempt trade.holdings).1.itemCount, trade.escrow.deposited⟩ := rfl
  have hafter : (trade.undo attempt).session.state =
      (undoItem attempt trade.holdings).1.state := rfl
  refine ⟨h.settled.perform formTypes (.undo (attempt.answered trade.holdings) attempt.actionId),
    consistent_tryUndoRegistration h.consistent h.settled.historyLength _ attempt.actionId,
    idsBelow_tryUndoRegistration h.consistent h.idsBelow h.settled.historyLength _
      attempt.actionId, ?_⟩
  rw [hescrow, hafter]
  rcases undoItem_cases attempt trade.holdings with
    ⟨hfails, hcount⟩ | ⟨hsuccess, older, record, item, hhistory, hitem, hcount, hregKey, hundone⟩
  · rw [hfails, if_neg Bool.false_ne_true, hcount]
    rw [hresult] at hfails
    have hunchanged := unchanged_of_failed h.consistent h.idsBelow h.settled.historyLength hfails
    exact h.balanced.congr hunchanged.registeredItems hunchanged.undoHistory
  · rw [hsuccess, if_pos rfl, hregKey, hundone]
    have hmem : record ∈ trade.session.state.undoHistory := by
      rw [show trade.session.state.undoHistory = older ++ [record] from hhistory]
      simp
    have hsame : item = record.formId := h.balanced.item_of_record hattempt hmem hitem
    have hheld : (undoItem attempt trade.holdings).1.itemCount =
        (trade.escrow.withdraw record.regKey record.formId).held := by
      funext id
      rw [hcount, hsame]
      rfl
    rw [hheld]
    exact h.balanced.withdraw h.consistent hhistory

/-! ## Every run -/

theorem holds_init {lookupFormType : FormTypeLookup} {cleanup : Snapshot Float32 → Bool}
    {avOwner : Option (ActorValue → Float32)} {held : FormID → Int}
    {state : RuntimeState Float32} :
    Sound formTypes bound n (CodexOfPower.newGame lookupFormType cleanup avOwner state)
      ⟨held, ∅⟩ held := by
  rw [newGame_eq]
  refine ⟨settled_newGameState, consistent_newGameState formTypes,
    idsBelow_newGameState.mono (Nat.zero_le n), ?_⟩
  refine ⟨fun regKey => ?_, nofun, fun regKey item h => ?_, fun item => ?_⟩
  · exact iff_of_false (AList.notMem_empty _) (AList.notMem_empty _)
  · rw [UnorderedMap.lookup_empty] at h
    cases h
  · exact Escrow.total_of_empty held item

theorem Sound.continues {saved loaded : RuntimeState Float32} {escrow : Escrow FormID FormID}
    {received : FormID → Int} (h : Sound formTypes bound n saved escrow received)
    (hloaded : Restorable loaded) (hcontinues : Continues saved loaded) :
    Sound formTypes bound n loaded escrow received := by
  have hkept := kept_continues ⟨h.consistent, h.idsBelow⟩ hcontinues
  exact ⟨h.settled.continues hloaded hcontinues, hkept.1, hkept.2,
    h.balanced.congr hcontinues.registeredItems hcontinues.undoHistory⟩

/-- Games stay as they were saved, however many registrations follow. -/
theorem Holds.games_mono (h : trade.Holds formTypes bound)
    (hn : trade.session.registrations ≤ n) :
    ∀ game ∈ trade.games, ∃ saved accepts,
      Sound formTypes bound n saved game.escrow game.received ∧
        Serialization.save accepts saved = (true, game.records) := by
  intro game hgame
  obtain ⟨saved, accepts, hsound, hsave⟩ := h.games game hgame
  exact ⟨saved, accepts, hsound.mono hn, hsave⟩

theorem invariant_holds (formTypes : FormID → FormType) (bound : FormID → Bool) :
    ((system formTypes bound).restrict
      fun _ trade => trade.session.registrations < 2 ^ 64 - 1).Invariant
        (Holds formTypes bound) where
  init trade hinit := by
    obtain ⟨lookupFormType, cleanup, avOwner, held, rfl⟩ := hinit
    exact ⟨holds_init, nofun⟩
  step trade trade' h hstep := by
    obtain ⟨hstep, hlt⟩ := hstep
    cases hstep with
    | registerAll attempts hattempts =>
      obtain ⟨hgames, hreceived⟩ :
          (trade.registerAll formTypes attempts).games = trade.games ∧
            (trade.registerAll formTypes attempts).received = trade.received :=
        registerAll_frame attempts trade
      refine ⟨?_, ?_⟩
      · rw [hreceived]
        exact sound_registerAll h.now hattempts hlt
      · rw [hgames]
        exact h.games_mono (le_registrations_registerAll attempts trade)
    | undo attempt hattempt => exact ⟨sound_undo h.now hattempt, h.games⟩
    | act action hmoves =>
      obtain ⟨hsame, hcount⟩ := sameProgress_perform formTypes hmoves trade.session.state
      have hregistrations : (trade.session.act formTypes action).registrations =
          trade.session.registrations := by
        unfold Session.act
        rw [hcount]
        rfl
      refine ⟨?_, h.games_mono hregistrations.ge⟩
      have hitems : (trade.session.act formTypes action).state.registeredItems.Same
          trade.session.state.registeredItems := by
        show (perform formTypes action trade.session.state).1.registeredItems.Same _
        rw [hsame.registeredItems]
        exact .refl _
      show Sound formTypes bound (trade.session.act formTypes action).registrations _ _ _
      rw [hregistrations]
      exact ⟨h.now.settled.perform formTypes action,
        h.now.consistent.congr hitems hsame.undoHistory,
        h.now.idsBelow.congr hsame.undoNextActionId hsame.undoHistory,
        h.now.balanced.congr hitems hsame.undoHistory⟩
    | world delta =>
      refine ⟨⟨h.now.settled, h.now.consistent, h.now.idsBelow, h.now.balanced.keys,
        h.now.balanced.records, h.now.balanced.bound, fun item => ?_⟩, h.games⟩
      have htotal := h.now.balanced.total item
      unfold Escrow.total at htotal ⊢
      dsimp only
      omega
    | save accepts records hsave =>
      refine ⟨h.now, fun game hgame => ?_⟩
      rcases List.mem_cons.mp hgame with rfl | hold
      · exact ⟨trade.session.state, accepts, h.now, hsave⟩
      · exact h.games game hold
    | load lookupFormType cleanup avOwner game hgame =>
      obtain ⟨saved, accepts, hsound, hsave⟩ := h.games game hgame
      have hcontinues := loadGame_saved hsound.settled hsave lookupFormType cleanup avOwner
        trade.session.state
      exact ⟨hsound.continues (restorable_loadGame _ _ _ _ _ _) hcontinues, h.games⟩
    | newGame lookupFormType cleanup avOwner held => exact ⟨holds_init, h.games⟩

end Trade

/-- In every run of the game, with its saves and loads and whatever the player does with
his items besides, in which forms stay objects and there are fewer than 2⁶⁴ - 1
registrations: there is one thing handed in for each registered key, and for every kind of
item, those the player has and those handed in are together what he was given.  No order
of registering, undoing, saving and loading makes an item or loses one. -/
theorem items_conserved {formTypes : FormID → FormType} {bound : FormID → Bool} {trade : Trade}
    (h : ((Trade.system formTypes bound).restrict
      fun _ trade => trade.session.registrations < 2 ^ 64 - 1).Reachable trade) :
    (∀ regKey, regKey ∈ trade.escrow.deposited ↔
      regKey ∈ trade.session.state.registeredItems) ∧
    ∀ item, trade.escrow.held item + Escrow.count trade.escrow.deposited item =
      trade.received item :=
  have hbalanced := ((Trade.invariant_holds formTypes bound).reachable h).now.balanced
  ⟨hbalanced.keys, hbalanced.total⟩

/-- A new game with one of each item. -/
def oneOfEach : Trade where
  session := { state := newGameState }
  escrow := ⟨fun _ => 1, ∅⟩
  received := fun _ => 1

/-- Two swords are handed in, and the second is taken back. -/
def swordTrade : Trade :=
  (oneOfEach.registerAll Session.weapons
    ([1, 2].map fun sword => ⟨Session.armory 1 0, sword, true⟩)).undo ⟨Session.armory 0 1, 2, true⟩

theorem items_conserved_swordTrade :
    (swordTrade.escrow.held 1 = 0 ∧ swordTrade.escrow.held 2 = 1) ∧
    (∀ regKey, regKey ∈ swordTrade.escrow.deposited ↔
      regKey ∈ swordTrade.session.state.registeredItems) ∧
    ∀ item, swordTrade.escrow.held item + Escrow.count swordTrade.escrow.deposited item =
      swordTrade.received item := by
  have hstart : ((Trade.system Session.weapons fun _ => true).restrict
      fun _ trade => trade.session.registrations < 2 ^ 64 - 1).Reachable oneOfEach :=
    .of_init ⟨fun _ => none, fun _ => true, none, fun _ => 1, by rw [newGame_eq]; rfl⟩
  have htwo := hstart.step ⟨.registerAll oneOfEach
    ([1, 2].map fun sword => ⟨Session.armory 1 0, sword, true⟩)
    (List.forall_mem_map.mpr fun _ _ => rfl), by decide +kernel⟩
  have htaken := htwo.step ⟨.undo _ ⟨Session.armory 0 1, 2, true⟩ rfl, by decide +kernel⟩
  exact ⟨by decide +kernel, items_conserved htaken⟩

end CodexOfPower
