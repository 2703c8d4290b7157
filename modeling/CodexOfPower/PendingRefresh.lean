/-
# `CodexOfPower.PendingRefresh` — how the page keeps up with the state

The page shows six things, each set by a call of its own.  A request that changes the
state runs as a main task; a UI task then says how it went, and queues the main tasks
that build what has changed, each of which queues a UI task with the call.  The main
thread and the UI thread take turns in any order, and every one of these steps may fail:
the main queue may refuse a task, the UI queue may, and a call may not reach the page.

The plugin remembers only the first of these failures, in `g_refreshPending`, and the
next request of the page makes good for it.  What the other two lose stays lost until
the same part is built again: `owed` says which parts these are, and is not known to the
plugin.  What follows from that is in `CodexOfPower.ShownAtRest`.

The page calls the plugin on the UI thread, one call at a time; a payload stands for the
part of the state that its builder reads, and for the page of the inventory.

The list of the inventory is the one part that need not be built anew: for 750 ms
`BuildQuickRegisterList` gives the one it has.  A registration or an undo that succeeds
drops it, and so does a save of the settings; a refusal that blocks the item does not, so
that the page sent after it can still have the item's row.  `blockedSince` says that this
may be so, and is not known to the plugin either.  How old the list is, and under which
settings it was built, is left open: any request may find it or build a new one.

Not modelled are what the rows of the inventory say of the game, the settings, the toasts
and the texts; that the view is there and ready, which is part of whether a call is
delivered; and the loading of a game while the page is open, since a page starts here in
any state and with every part owed.
-/
import CodexOfPower.OwnSessions
import CodexOfPower.InventoryPages
import CodexOfPower.QuickListCache

namespace CodexOfPower.PrismaUIManager

open RE Builds BuildProgression Registration Serialization

/-! ## Requests for the inventory -/

/-- What `RememberInventoryRequest` keeps. -/
def clampInventoryRequest (req : InventoryRequest) : InventoryRequest :=
  { req with pageSize := if req.pageSize < 1 then 1 else if 500 < req.pageSize then 500
      else req.pageSize }

theorem clampInventoryRequest_of_le {req : InventoryRequest} (hlow : 1 ≤ req.pageSize.toNat)
    (hhigh : req.pageSize.toNat ≤ 500) : clampInventoryRequest req = req := by
  have hone : ¬ req.pageSize < 1 := fun h => by
    have : req.pageSize.toNat < 1 := UInt32.lt_iff_toNat_lt.mp h
    omega
  have hmax : ¬ 500 < req.pageSize := fun h => by
    have : 500 < req.pageSize.toNat := UInt32.lt_iff_toNat_lt.mp h
    omega
  unfold clampInventoryRequest
  rw [if_neg hone, if_neg hmax]

theorem requestedPageSize_bounds (v : Int64) :
    1 ≤ (requestedPageSize v).toNat ∧ (requestedPageSize v).toNat ≤ 500 := by
  unfold requestedPageSize
  split_ifs with hlow hhigh
  · decide
  · decide
  · have hone : (1 : Int64).toInt = 1 := by decide
    have hmax : (500 : Int64).toInt = 500 := by decide
    have hzero : (0 : Int64).toInt = 0 := by decide
    rw [Int64.lt_iff_toInt_lt, hone] at hlow
    rw [Int64.lt_iff_toInt_lt, hmax] at hhigh
    have hnonneg : 0 ≤ v := by
      rw [Int64.le_iff_toInt_le, hzero]
      omega
    have hvalue : v.toUInt64.toUInt32.toNat = v.toInt.toNat % 2 ^ 32 := by
      rw [UInt64.toNat_toUInt32, Int64.toNat_toUInt64_of_le hnonneg, Int64.toNat_toInt]
    rw [hvalue]
    omega

/-- A request that was parsed is remembered as it is. -/
theorem clamp_parseInventoryRequest (payload : Option Json) :
    clampInventoryRequest (parseInventoryRequest payload) = parseInventoryRequest payload := by
  have hdefault : 1 ≤ (200 : UInt32).toNat ∧ (200 : UInt32).toNat ≤ 500 := by decide
  cases payload with
  | none => exact clampInventoryRequest_of_le hdefault.1 hdefault.2
  | some payload =>
    unfold parseInventoryRequest
    dsimp only
    cases (payload.find "pageSize").bind Json.getInt64 with
    | none => exact clampInventoryRequest_of_le hdefault.1 hdefault.2
    | some v =>
      obtain ⟨hlow, hhigh⟩ := requestedPageSize_bounds v
      exact clampInventoryRequest_of_le hlow hhigh

/-! ## The parts of the page -/

/-- The calls that set a part of the page. -/
inductive JsCall
  | setState | setInventory | setRegistered | setBuild | setRewards | setUndoList
deriving DecidableEq

/-- What of the state the builder of a payload reads. -/
def JsCall.reads (state : RuntimeState Float32) : JsCall → RuntimeState Float32
  | .setState =>
    { registeredItems := state.registeredItems
      rewardTotals := state.rewardTotals
      attackScore := state.attackScore
      defenseScore := state.defenseScore
      utilityScore := state.utilityScore
      attackBuildPointsCenti := state.attackBuildPointsCenti
      defenseBuildPointsCenti := state.defenseBuildPointsCenti
      utilityBuildPointsCenti := state.utilityBuildPointsCenti
      buildMigrationVersion := state.buildMigrationVersion
      buildMigrationState := state.buildMigrationState
      buildMigrationNotice := state.buildMigrationNotice }
  | .setInventory =>
    { registeredItems := state.registeredItems, blockedItems := state.blockedItems }
  | .setRegistered => { registeredItems := state.registeredItems }
  | .setBuild =>
    { attackScore := state.attackScore
      defenseScore := state.defenseScore
      utilityScore := state.utilityScore
      attackBuildPointsCenti := state.attackBuildPointsCenti
      defenseBuildPointsCenti := state.defenseBuildPointsCenti
      utilityBuildPointsCenti := state.utilityBuildPointsCenti
      activeBuildSlots := state.activeBuildSlots
      buildMigrationNotice := state.buildMigrationNotice }
  | .setRewards =>
    { registeredItems := state.registeredItems, rewardTotals := state.rewardTotals }
  | .setUndoList => { undoHistory := state.undoHistory }

/-- A payload: which page of the inventory, and what was read. -/
structure Payload where
  request : Option InventoryRequest
  reads : RuntimeState Float32

/-- What the UI task of a request refreshes once the request has run. -/
def refreshedBy : Action → List JsCall
  | .register .. | .registerBatch .. | .undo .. =>
    [.setState, .setInventory, .setRegistered, .setBuild, .setRewards, .setUndoList]
  | .activate .. | .deactivate .. | .swap .. => [.setState, .setBuild]
  | .refund .. => [.setState, .setRewards]
  | .notify .. => []

/-! ## Tasks -/

inductive MainTask
  /-- Build the payload of a call, and queue the call. -/
  | send (call : JsCall) (req : Option InventoryRequest)
  | handle (action : Action)

inductive UITask
  | set (call : JsCall) (payload : Payload)
  /-- Say how a request went, and refresh. -/
  | present (action : Action)

/-- What is left to do of a callback on the UI thread. -/
inductive Op
  | flushPendingUIRefresh
  | sendStateToUI
  /-- `QueueSendInventory` with the request that is remembered -/
  | queueSendLastInventory
  | queueSendInventory (req : InventoryRequest)
  /-- `QueueSendRegistered`, `QueueSendBuild`, `QueueSendRewards`, `QueueSendUndoList` -/
  | queueSend (call : JsCall)
  | queueHandle (action : Action)

/-- The operation that refreshes a part of the page. -/
def Op.refresh : JsCall → Op
  | .setState => .sendStateToUI
  | .setInventory => .queueSendLastInventory
  | call => .queueSend call

def Op.Refreshes (call : JsCall) : Op → Prop
  | .sendStateToUI => call = .setState
  | .queueSendLastInventory | .queueSendInventory _ => call = .setInventory
  | .queueSend c => call = c
  | .flushPendingUIRefresh | .queueHandle _ => False

/-- The requests queue parts that are built on the main thread, and pages of a size that
is remembered as it is. -/
def Op.Sound : Op → Prop
  | .queueSend call => call ≠ .setState ∧ call ≠ .setInventory
  | .queueSendInventory req => clampInventoryRequest req = req
  | _ => True

theorem Op.refreshes_refresh (call : JsCall) : (Op.refresh call).Refreshes call := by
  cases call <;> rfl

theorem Op.sound_refresh (call : JsCall) : (Op.refresh call).Sound := by
  cases call <;> simp [Op.refresh, Op.Sound]

/-- `RefreshUIAfterMutation`, and what `FlushPendingUIRefresh` replays. -/
def refreshAll : List Op :=
  [.sendStateToUI, .queueSendLastInventory, .queueSend .setRegistered, .queueSend .setBuild,
    .queueSend .setRewards, .queueSend .setUndoList]

/-- The callbacks of the page; `change` is one of the requests that change the state, once
its payload is parsed and its guards passed. -/
inductive Request
  | state | registered | rewards | build | undoList | settings
  | inventory (payload : Option Json)
  | change (action : Action)

theorem refreshes_refreshAll (call : JsCall) : ∃ op ∈ refreshAll, op.Refreshes call := by
  cases call <;> simp [refreshAll, Op.Refreshes]

theorem sound_refreshAll : ∀ op ∈ refreshAll, op.Sound := by
  simp [refreshAll, Op.Sound]

def Request.ops : Request → List Op
  | .state => [.flushPendingUIRefresh, .sendStateToUI]
  | .registered => [.flushPendingUIRefresh, .queueSend .setRegistered]
  | .rewards => [.flushPendingUIRefresh, .queueSend .setRewards]
  | .build => [.flushPendingUIRefresh, .queueSend .setBuild]
  | .undoList => [.flushPendingUIRefresh, .queueSend .setUndoList]
  | .settings => [.flushPendingUIRefresh]
  | .inventory payload =>
    [.flushPendingUIRefresh, .queueSendInventory (parseInventoryRequest payload)]
  | .change action => [.queueHandle action]

/-- Where `BuildQuickRegisterList` has its list from. -/
inductive QuickListSource
  /-- the list it has, if it has one -/
  | cache
  | inventory
  /-- no player: an empty list, which is not kept -/
  | noPlayer

/-- The plugin, its queues, and the page; `blockedSince` and `owed` are not known to the
plugin. -/
structure Panel where
  state : RuntimeState Float32
  /-- What was read for the cached list of the inventory. -/
  quickList : Option (RuntimeState Float32) := none
  /-- An item was blocked since a list was built. -/
  blockedSince : Bool := false
  lastInventoryRequest : InventoryRequest := {}
  refreshPending : Bool := false
  mainTasks : List MainTask := []
  uiTasks : List UITask := []
  /-- The rest of the callback that runs on the UI thread. -/
  running : List Op := []
  shown : JsCall → Option Payload := fun _ => none
  /-- Nothing built for this part has reached the page since something for it was lost. -/
  owed : JsCall → Bool := fun _ => true

namespace Panel

/-- The page of the inventory that was asked for last, for the call that needs one. -/
def wanted (panel : Panel) : JsCall → Option InventoryRequest
  | .setInventory => some panel.lastInventoryRequest
  | _ => none

/-- What would be built for a part now, where no list is cached. -/
def current (panel : Panel) (call : JsCall) : Payload :=
  { request := panel.wanted call, reads := call.reads panel.state }

section Model

variable (formTypes : FormID → FormType)

/-- `QueueMainTask`, and `ReportMainTaskQueueUnavailable` where it is refused. -/
def queueMainTask (panel : Panel) (accepts : Bool) (task : MainTask) : Panel :=
  if accepts then { panel with mainTasks := panel.mainTasks ++ [task] }
  else { panel with refreshPending := true }

def queueSendInventory (panel : Panel) (accepts : Bool) (req : InventoryRequest) : Panel :=
  { panel with lastInventoryRequest := clampInventoryRequest req }.queueMainTask accepts
    (.send .setInventory (some req))

/-- A call reaches the page, or does not. -/
def sendJS (panel : Panel) (delivers : Bool) (call : JsCall) (payload : Payload) : Panel :=
  if delivers then
    { panel with shown := fun c => if c = call then some payload else panel.shown c }
  else panel

def owe (panel : Panel) (calls : List JsCall) : Panel :=
  { panel with owed := fun c => decide (c ∈ calls) || panel.owed c }

/-- One operation of a callback; `accepts` answers `QueueMainTask`. -/
def runOp (panel : Panel) (accepts delivers : Bool) : Op → Panel
  | .flushPendingUIRefresh =>
    if panel.refreshPending then
      { panel with refreshPending := false, running := refreshAll ++ panel.running }
    else panel
  | .sendStateToUI =>
    let sent := panel.sendJS delivers .setState (panel.current .setState)
    { sent with owed := fun c => if c = .setState then !delivers else panel.owed c }
  | .queueSendLastInventory => panel.queueSendInventory accepts panel.lastInventoryRequest
  | .queueSendInventory req => panel.queueSendInventory accepts req
  | .queueSend call => panel.queueMainTask accepts (.send call none)
  | .queueHandle action => panel.queueMainTask accepts (.handle action)

/-- `BuildQuickRegisterList`: what was read for the list, and the panel with the list. -/
def buildQuickRegisterList (panel : Panel) (source : QuickListSource) :
    RuntimeState Float32 × Panel :=
  let read := JsCall.reads panel.state .setInventory
  match source, panel.quickList with
  | .cache, some cached => (cached, panel)
  | .noPlayer, _ => (read, panel)
  | _, _ => (read, { panel with quickList := some read, blockedSince := false })

/-- What the builder of a payload reads. -/
def build (panel : Panel) (source : QuickListSource) : JsCall → RuntimeState Float32 × Panel
  | .setInventory => panel.buildQuickRegisterList source
  | call => (call.reads panel.state, panel)

/-- `TryRegisterItem` invalidates the list when it succeeds, not when it blocks the item. -/
def register (env : Environment Float32) (formId : FormID) (panel : Panel) : Panel :=
  let (state, result) := tryRegisterItem formTypes env panel.state formId
  { panel with
    state
    quickList := if result.success then none else panel.quickList
    blockedSince := panel.blockedSince || Blocks formTypes env panel.state formId }

/-- `TryUndoRegistration` invalidates the list when it succeeds. -/
def undo (env : Environment Float32) (actionId : UInt64) (panel : Panel) : Panel :=
  let (state, result) := tryUndoRegistration env panel.state actionId
  { panel with state, quickList := if result.success then none else panel.quickList }

/-- What a request does on the main thread, `perform` and what it does to the list. -/
def perform (panel : Panel) : Action → Panel
  | .register env formId => panel.register formTypes env formId
  | .registerBatch calls =>
    calls.foldl (fun panel call => panel.register formTypes call.1 call.2) panel
  | .undo env actionId => panel.undo env actionId
  | action => { panel with state := (CodexOfPower.perform formTypes action panel.state).1 }

/-- One main task; `accepts` answers `QueueUITask`, which nobody looks at. -/
def runMainTask (panel : Panel) (source : QuickListSource) (accepts : Bool) : MainTask → Panel
  | .send call req =>
    let (read, panel) := panel.build source call
    if accepts then
      { panel with
        uiTasks := panel.uiTasks ++ [.set call { request := req, reads := read }]
        owed := fun c => if c = call then false else panel.owed c }
    else panel.owe [call]
  | .handle action =>
    let changed := panel.perform formTypes action
    if accepts then { changed with uiTasks := changed.uiTasks ++ [.present action] }
    else changed.owe (refreshedBy action)

def setsOf (call : JsCall) (tasks : List UITask) : List Payload :=
  tasks.filterMap fun task => match task with
    | .set c payload => if c = call then some payload else none
    | .present _ => none

def runUITask (panel : Panel) (delivers : Bool) : UITask → Panel
  | .set call payload =>
    let sent := panel.sendJS delivers call payload
    -- a call that is lost is no loss when a later one is on its way
    if delivers || setsOf call panel.uiTasks ≠ [] then sent else sent.owe [call]
  | .present action => { panel with running := (refreshedBy action).map Op.refresh }

/-- What the two threads do when nobody asks; `accepts` answers the queue that is asked. -/
inductive Work (accepts delivers : Bool) : Panel → Panel → Prop
  | op (panel : Panel) (op : Op) (rest : List Op) (h : panel.running = op :: rest) :
      Work accepts delivers panel ({ panel with running := rest }.runOp accepts delivers op)
  | main (panel : Panel) (source : QuickListSource) (task : MainTask) (rest : List MainTask)
      (h : panel.mainTasks = task :: rest) :
      Work accepts delivers panel
        ({ panel with mainTasks := rest }.runMainTask formTypes source accepts task)
  | ui (panel : Panel) (task : UITask) (rest : List UITask) (hidle : panel.running = [])
      (h : panel.uiTasks = task :: rest) :
      Work accepts delivers panel ({ panel with uiTasks := rest }.runUITask delivers task)

inductive Step : Panel → Panel → Prop
  | work (panel panel' : Panel) (accepts delivers : Bool)
      (h : Work formTypes accepts delivers panel panel') : Step panel panel'
  | request (panel : Panel) (request : Request) (hidle : panel.running = []) :
      Step panel { panel with running := request.ops }
  /-- A UI task of the view's life that ends in `SendStateToUI`. -/
  | sendState (panel : Panel) (hidle : panel.running = []) :
      Step panel { panel with running := [.sendStateToUI] }
  /-- A pickup is noticed. -/
  | notify (panel : Panel) (primaryId secondaryId : FormID) :
      Step panel { panel with
        state := (CodexOfPower.perform formTypes (.notify primaryId secondaryId)
          panel.state).1 }
  /-- The view is destroyed, and with it what the page showed. -/
  | destroyed (panel : Panel) :
      Step panel { panel with shown := fun _ => none, owed := fun _ => true }

/-- The page starts empty, in any state of the game. -/
def system : TransitionSystem Panel where
  init panel := ∃ state, panel = { state }
  step := Step formTypes

end Model

end Panel

end CodexOfPower.PrismaUIManager
