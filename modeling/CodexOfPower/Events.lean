/-
# `CodexOfPower.Events` — the notices about loot

`ProcessEvent` is called for everything that moves between containers.  An item that the
player picks up and that can be registered is named in a notice, once, and no notice
follows another within 750 ms.

The checks come first, then the decision, and only a notice marks the item and sets the
time of the last one.  So an id is marked exactly if it was marked before or has been in
a notice, over any run (`loot_notices`): an event that was suppressed leaves the item to
a later one.

The clock counts nanoseconds in a signed 64-bit number, so its milliseconds are far from
where the sum of a time and the throttle would wrap.

## What is not said

The text of a notice is kept, what the game does with it is not.  A run lies between two
loads, since a load replaces the marks; what else the plugin does in a run is there.
-/
import CodexOfPower.QuickListAgreement
import CodexOfPower.Session

namespace CodexOfPower

open RE Builds Registration

/-! ## What the registration says of a form -/

namespace Registration

variable {F : Type} [FloatType F] (formTypes : FormID → FormType) (env : Environment F)
  (state : RuntimeState F)

def getRegisterKeyId (formId : FormID) : FormID :=
  if env.lookupByID formId then getRegisterKey env formId else 0

def isRegistered (formId : FormID) : Bool :=
  if env.lookupByID formId then
    RegistrationStateStore.isRegisteredEither state (getRegisterKey env formId) formId
  else false

def isDiscoverable (formId : FormID) : Bool :=
  if !env.lookupByID formId then false
  else
    let regKey := getRegisterKey env formId
    if isExcludedOrBlocked env state formId regKey then false
    else getDiscoveryGroup formTypes env state regKey ≤ 5

end Registration

namespace Events

/-! ## The event -/

def kDebounceMs : UInt64 := 5000

def kNotifyThrottleMs : UInt64 := 750

inductive LootNotifyDecision
  | kSkipAlreadyNotified
  | kSkipThrottle
  | kNotify
deriving DecidableEq

def decideLootNotify (alreadyNotified : Bool) (nowMs lastNotifyMs throttleMs : UInt64) :
    LootNotifyDecision :=
  if alreadyNotified then .kSkipAlreadyNotified
  else if 0 < lastNotifyMs && nowMs < lastNotifyMs + throttleMs then .kSkipThrottle
  else .kNotify

structure TESContainerChangedEvent where
  itemCount : Int
  newContainer : FormID
  baseObj : FormID

/-- One call of the sink: the event, and what the game, the settings and the clock say. -/
structure Call where
  event : Option TESContainerChangedEvent
  env : Environment Float32
  enableLootNotify : Bool
  /-- `steady_clock`, in nanoseconds. -/
  clock : Int64
  /-- `RE::Main`, where it exists: whether the game runs. -/
  main : Option Bool
  playerId : FormID

/-- The count of milliseconds, before the cast. -/
def Call.countMs (call : Call) : Int64 := call.clock / 1000000

def Call.nowMs (call : Call) : UInt64 := call.countMs.toUInt64

/-- The state of the plugin, and what the sink keeps for itself. -/
structure Sink where
  state : RuntimeState Float32
  gameReady : Bool := false
  ignoreUntilMs : UInt64 := 0
  lastNotifyMs : UInt64 := 0

structure Notice where
  regKeyId : FormID
  baseId : FormID
  nowMs : UInt64
  msg : Text

def Notice.ids (notice : Notice) : List FormID := [notice.regKeyId, notice.baseId]

section Process

variable (formTypes : FormID → FormType)

/-- The checks of `ProcessEvent` before the decision: the key and the base form of the
item, if all of them pass.  While the game does not run they set the time to ignore. -/
def checkEvent (sink : Sink) (call : Call) : Sink × Option (FormID × FormID) :=
  match call.event with
  | none => (sink, none)
  | some event =>
    if !call.enableLootNotify then (sink, none)
    else if !sink.gameReady then (sink, none)
    else if call.main ≠ some true then
      ({ sink with ignoreUntilMs := call.nowMs + kDebounceMs }, none)
    else if 0 < sink.ignoreUntilMs && call.nowMs < sink.ignoreUntilMs then (sink, none)
    else if event.itemCount ≤ 0 then (sink, none)
    else if !call.env.player then (sink, none)
    else if event.newContainer ≠ call.playerId then (sink, none)
    else
      let baseId := event.baseObj
      if !isDiscoverable formTypes call.env sink.state baseId then (sink, none)
      else if isRegistered call.env sink.state baseId then (sink, none)
      else
        let regKeyId := getRegisterKeyId call.env baseId
        if regKeyId = 0 then (sink, none) else (sink, some (regKeyId, baseId))

def lootMessage (env : Environment Float32) (regKeyId : FormID) : Text :=
  let name := if env.lookupByID regKeyId then (env.form regKeyId).name else []
  env.text "msg.lootUnregisteredPrefix" "Unregistered: " ++
    (if name ≠ [] then name else env.text "ui.unnamed" "(unnamed)") ++
    env.text "msg.lootUnregisteredSuffix" " (press hotkey to register)"

def processEvent (sink : Sink) (call : Call) : Sink × Option Notice :=
  match checkEvent formTypes sink call with
  | (sink, none) => (sink, none)
  | (sink, some (regKeyId, baseId)) =>
    let alreadyNotified := NotifiedStateStore.containsAny sink.state regKeyId baseId
    if decideLootNotify alreadyNotified call.nowMs sink.lastNotifyMs kNotifyThrottleMs ≠
        .kNotify then (sink, none)
    else
      ({ sink with
          state := NotifiedStateStore.markPair sink.state regKeyId baseId
          lastNotifyMs := call.nowMs },
        some { regKeyId, baseId, nowMs := call.nowMs, msg := lootMessage call.env regKeyId })

end Process

/-! ## Runs -/

/-- The sink at the start and now, and the notices shown in between, the oldest first. -/
structure Run where
  start : Sink
  sink : Sink
  log : List Notice

section Runs

variable (formTypes : FormID → FormType)

/-- Events, and what else the plugin does between two loads. -/
inductive Step : Run → Run → Prop
  | event (run : Run) (call : Call) (hclock : 0 < call.countMs)
      (hnone : call.env.lookupByID 0 = false) :
      Step run { run with
        sink := (processEvent formTypes run.sink call).1
        log := run.log ++ (processEvent formTypes run.sink call).2.toList }
  | act (run : Run) (action : Action)
      (hother : ∀ primaryId secondaryId, action ≠ .notify primaryId secondaryId) :
      Step run { run with
        sink := { run.sink with state := (perform formTypes action run.sink.state).1 } }

def system : TransitionSystem Run where
  init run := run.sink = run.start ∧ run.log = []
  step := Step formTypes

end Runs

/-- What holds of the notices: no id is in two of them, they are 750 ms apart, they alone
mark, and an event that passes the checks leads to one unless its item was marked or it
comes too early. -/
structure Orderly (formTypes : FormID → FormType) (run : Run) : Prop where
  once : run.log.Pairwise fun earlier later => ∀ id ∈ earlier.ids, id ∉ later.ids
  apart : run.log.Pairwise fun earlier later => earlier.nowMs.toNat + 750 ≤ later.nowMs.toNat
  marked : ∀ id, id ∈ run.sink.state.notifiedItems ↔
    id ∈ run.start.state.notifiedItems ∨ ∃ notice ∈ run.log, id ∈ notice.ids
  suppressed : ∀ call, (processEvent formTypes run.sink call).2 = none →
    (processEvent formTypes run.sink call).1.state = run.sink.state ∧
      (processEvent formTypes run.sink call).1.lastNotifyMs = run.sink.lastNotifyMs
  notifies : ∀ call regKeyId baseId,
    checkEvent formTypes run.sink call = (run.sink, some (regKeyId, baseId)) →
    (∀ id ∈ [regKeyId, baseId], id ∉ run.start.state.notifiedItems ∧
      ∀ notice ∈ run.log, id ∉ notice.ids) →
    run.start.lastNotifyMs.toNat + 750 ≤ call.nowMs.toNat →
    (∀ notice ∈ run.log, notice.nowMs.toNat + 750 ≤ call.nowMs.toNat) →
    (processEvent formTypes run.sink call).2.isSome

/-! ## One event -/

section OneEvent

variable {formTypes : FormID → FormType} {sink : Sink} {call : Call}

/-- The checks stop the event, and change the time to ignore at most, or they let it
through with a key and a form that exists. -/
def Checked (sink : Sink) (call : Call) (result : Sink × Option (FormID × FormID)) : Prop :=
  (∃ ignoreUntilMs, result = ({ sink with ignoreUntilMs }, none)) ∨
    ∃ regKeyId baseId, result = (sink, some (regKeyId, baseId)) ∧ regKeyId ≠ 0 ∧
      call.env.lookupByID baseId = true

theorem Checked.ite {check : Prop} [Decidable check] {stop rest : Sink × Option (FormID × FormID)}
    (hstop : Checked sink call stop) (hrest : Checked sink call rest) :
    Checked sink call (if check then stop else rest) := by
  split_ifs
  · exact hstop
  · exact hrest

theorem checked_checkEvent (formTypes : FormID → FormType) (sink : Sink) (call : Call) :
    Checked sink call (checkEvent formTypes sink call) := by
  have hstop : Checked sink call (sink, none) := .inl ⟨_, rfl⟩
  unfold checkEvent
  cases call.event with
  | none => exact hstop
  | some event =>
    refine hstop.ite (hstop.ite (Checked.ite (.inl ⟨_, rfl⟩) (hstop.ite (hstop.ite
      (hstop.ite (hstop.ite (hstop.ite (hstop.ite ?_))))))))
    dsimp only
    split_ifs with hkey
    · exact hstop
    · refine .inr ⟨_, _, rfl, hkey, ?_⟩
      -- an id without a form has no key
      by_contra hnone
      exact hkey (if_neg hnone)

def Throttled (sink : Sink) (call : Call) : Prop :=
  0 < sink.lastNotifyMs ∧ call.nowMs < sink.lastNotifyMs + kNotifyThrottleMs

theorem decideLootNotify_eq_kNotify_iff {alreadyNotified : Bool} {nowMs lastNotifyMs : UInt64} :
    decideLootNotify alreadyNotified nowMs lastNotifyMs kNotifyThrottleMs = .kNotify ↔
      alreadyNotified = false ∧
        ¬ (0 < lastNotifyMs ∧ nowMs < lastNotifyMs + kNotifyThrottleMs) := by
  unfold decideLootNotify
  cases alreadyNotified <;> simp

/-- An event leaves everything but the time to ignore as it is, or it shows a notice. -/
theorem processEvent_cases (formTypes : FormID → FormType) (sink : Sink) (call : Call) :
    (∃ ignoreUntilMs, processEvent formTypes sink call = ({ sink with ignoreUntilMs }, none)) ∨
      ∃ regKeyId baseId, regKeyId ≠ 0 ∧ call.env.lookupByID baseId = true ∧
        NotifiedStateStore.containsAny sink.state regKeyId baseId = false ∧
        ¬ Throttled sink call ∧
        processEvent formTypes sink call =
          ({ sink with
              state := NotifiedStateStore.markPair sink.state regKeyId baseId
              lastNotifyMs := call.nowMs },
            some ⟨regKeyId, baseId, call.nowMs, lootMessage call.env regKeyId⟩) := by
  unfold processEvent
  rcases checked_checkEvent formTypes sink call with
    ⟨ignoreUntilMs, heq⟩ | ⟨regKeyId, baseId, heq, hkey, hform⟩
  · rw [heq]
    exact .inl ⟨ignoreUntilMs, rfl⟩
  · rw [heq]
    dsimp only
    split_ifs with hdecision
    · exact .inl ⟨sink.ignoreUntilMs, rfl⟩
    · rw [not_not, decideLootNotify_eq_kNotify_iff] at hdecision
      exact .inr ⟨regKeyId, baseId, hkey, hform, hdecision.1, hdecision.2, rfl⟩

end OneEvent

/-! ## The rest of the plugin -/

section Elsewhere

variable {state : RuntimeState Float32}

/-- Between two loads nothing else marks, and nothing forgets a mark. -/
theorem notifiedItems_perform (formTypes : FormID → FormType) {action : Action}
    (hother : ∀ primaryId secondaryId, action ≠ .notify primaryId secondaryId)
    (state : RuntimeState Float32) :
    (perform formTypes action state).1.notifiedItems = state.notifiedItems := by
  cases action with
  | register env formId =>
    exact (sameAside_tryRegisterItem formTypes env state formId).notifiedItems
  | registerBatch calls => exact (sameAside_registerBatch formTypes state calls).notifiedItems
  | undo env actionId => exact (sameAside_tryUndoRegistration env state actionId).notifiedItems
  | activate avOwner slotId optionId =>
    obtain ⟨slots, ledger, heq⟩ := PrismaUIManager.activate_frame avOwner state slotId optionId
    show (PrismaUIManager.activateBuildOption avOwner state slotId optionId).1.notifiedItems = _
    rw [heq]
  | deactivate avOwner slotId =>
    obtain ⟨slots, ledger, heq⟩ := PrismaUIManager.deactivate_frame avOwner state slotId
    show (PrismaUIManager.deactivateBuildOption avOwner state slotId).notifiedItems = _
    rw [heq]
  | swap avOwner fromSlotId toSlotId optionId =>
    obtain ⟨slots, ledger, heq⟩ :=
      PrismaUIManager.swap_frame avOwner state fromSlotId toSlotId optionId
    show (PrismaUIManager.swapBuildOption avOwner state fromSlotId toSlotId
      optionId).1.notifiedItems = _
    rw [heq]
  | notify primaryId secondaryId => exact absurd rfl (hother primaryId secondaryId)
  | refund avOwner =>
    show (Rewards.refundRewards avOwner state).1.notifiedItems = _
    rw [Rewards.refundRewards_frame]

end Elsewhere

/-! ## The log and the marks -/

section Invariant

variable {formTypes : FormID → FormType} {run run' : Run} {call : Call}

/-- A positive count of milliseconds stays below half of the range. -/
theorem nowMs_of_countMs_pos (h : 0 < call.countMs) :
    0 < call.nowMs.toNat ∧ call.nowMs.toNat < 2 ^ 63 := by
  have hzero : (0 : Int64).toInt = 0 := by decide
  rw [Int64.lt_iff_toInt_lt, hzero] at h
  have hnonneg : 0 ≤ call.countMs := by
    rw [Int64.le_iff_toInt_le, hzero]
    exact h.le
  have hbelow := call.countMs.toInt_lt
  have hnow : call.nowMs.toNat = call.countMs.toInt.toNat := by
    rw [Int64.toNat_toInt]
    exact Int64.toNat_toUInt64_of_le hnonneg
  omega

/-- What the marks and the time of the last notice say about the log. -/
structure Logged (run : Run) : Prop where
  once : run.log.Pairwise fun earlier later => ∀ id ∈ earlier.ids, id ∉ later.ids
  apart : run.log.Pairwise fun earlier later => earlier.nowMs.toNat + 750 ≤ later.nowMs.toNat
  marked : ∀ id, id ∈ run.sink.state.notifiedItems ↔
    id ∈ run.start.state.notifiedItems ∨ ∃ notice ∈ run.log, id ∈ notice.ids
  last : (run.log = [] ∧ run.sink.lastNotifyMs = run.start.lastNotifyMs) ∨
    ∃ notice ∈ run.log, run.sink.lastNotifyMs = notice.nowMs ∧
      ∀ earlier ∈ run.log, earlier.nowMs ≤ notice.nowMs
  clock : ∀ notice ∈ run.log, 0 < notice.nowMs.toNat ∧ notice.nowMs.toNat < 2 ^ 63

theorem logged_init (h : (system formTypes).init run) : Logged run := by
  obtain ⟨hsink, hlog⟩ := h
  have hnone : ∀ notice, notice ∉ run.log := fun notice => by
    rw [hlog]
    exact List.not_mem_nil
  refine ⟨?_, ?_, fun id => ?_, .inl ⟨hlog, by rw [hsink]⟩, fun notice hmem =>
    absurd hmem (hnone notice)⟩
  · rw [hlog]
    exact .nil
  · rw [hlog]
    exact .nil
  · rw [hsink]
    constructor
    · exact .inl
    · rintro (h | ⟨notice, hmem, -⟩)
      · exact h
      · exact absurd hmem (hnone notice)

/-- Where no time wraps, the throttle is a distance. -/
theorem le_of_not_throttled {sink : Sink} (h : ¬ Throttled sink call)
    (hpos : 0 < sink.lastNotifyMs.toNat) (hlt : sink.lastNotifyMs.toNat < 2 ^ 63) :
    sink.lastNotifyMs.toNat + 750 ≤ call.nowMs.toNat := by
  have hsum : (sink.lastNotifyMs + kNotifyThrottleMs).toNat = sink.lastNotifyMs.toNat + 750 := by
    rw [UInt64.toNat_add]
    exact Nat.mod_eq_of_lt (show sink.lastNotifyMs.toNat + 750 < 2 ^ 64 by omega)
  have hnot : ¬ call.nowMs < sink.lastNotifyMs + kNotifyThrottleMs :=
    fun hlate => h ⟨UInt64.lt_iff_toNat_lt.mpr hpos, hlate⟩
  rw [UInt64.lt_iff_toNat_lt, hsum] at hnot
  exact not_lt.mp hnot

/-- A notice that is shown is late enough after all others. -/
theorem Logged.late (h : Logged run) (hthrottle : ¬ Throttled run.sink call) :
    ∀ earlier ∈ run.log, earlier.nowMs.toNat + 750 ≤ call.nowMs.toNat := by
  intro earlier hearlier
  rcases h.last with ⟨hnil, -⟩ | ⟨notice, hnotice, hlast, hlatest⟩
  · rw [hnil] at hearlier
    exact absurd hearlier List.not_mem_nil
  · have hclock := h.clock notice hnotice
    rw [← hlast] at hclock
    have hdistance := le_of_not_throttled hthrottle hclock.1 hclock.2
    have hle := UInt64.le_iff_toNat_le.mp (hlatest earlier hearlier)
    rw [← hlast] at hle
    omega

/-- A notice that is shown names no id of an earlier one. -/
theorem Logged.fresh (h : Logged run) {regKeyId baseId : FormID}
    (hnew : NotifiedStateStore.containsAny run.sink.state regKeyId baseId = false) :
    ∀ earlier ∈ run.log, ∀ id ∈ earlier.ids, id ∉ [regKeyId, baseId] := by
  intro earlier hearlier id hid hmem
  have hmarked := (h.marked id).mpr (.inr ⟨earlier, hearlier, hid⟩)
  unfold NotifiedStateStore.containsAny at hnew
  rw [Bool.or_eq_false_iff, decide_eq_false_iff_not, decide_eq_false_iff_not] at hnew
  rcases List.mem_pair.mp hmem with rfl | rfl
  · exact hnew.1 hmarked
  · exact hnew.2 hmarked

theorem Logged.notify (h : Logged run) (notice : Notice) (hclock : 0 < call.countMs)
    (hnow : notice.nowMs = call.nowMs) (hkey : notice.regKeyId ≠ 0) (hbase : notice.baseId ≠ 0)
    (hnew : NotifiedStateStore.containsAny run.sink.state notice.regKeyId notice.baseId = false)
    (hthrottle : ¬ Throttled run.sink call) :
    Logged { run with
      sink := { run.sink with
        state := NotifiedStateStore.markPair run.sink.state notice.regKeyId notice.baseId
        lastNotifyMs := call.nowMs }
      log := run.log ++ [notice] } where
  once := by
    rw [List.pairwise_append]
    refine ⟨h.once, List.pairwise_singleton _ _, fun earlier hearlier later hlater => ?_⟩
    rw [List.mem_singleton.mp hlater]
    exact h.fresh hnew earlier hearlier
  apart := by
    rw [List.pairwise_append]
    refine ⟨h.apart, List.pairwise_singleton _ _, fun earlier hearlier later hlater => ?_⟩
    rw [List.mem_singleton.mp hlater, hnow]
    exact h.late hthrottle earlier hearlier
  marked id := by
    show id ∈ (NotifiedStateStore.markPair run.sink.state notice.regKeyId
      notice.baseId).notifiedItems ↔ _
    have hids : notice.ids = [notice.regKeyId, notice.baseId] := rfl
    rw [NotifiedStateStore.mem_notifiedItems_markPair hkey hbase, h.marked id, ← hids]
    simp only [List.mem_append, List.mem_singleton, or_and_right, exists_or, exists_eq_left]
    exact or_comm.trans or_assoc
  last := by
    refine .inr ⟨notice, List.mem_append_right _ (List.mem_singleton_self _), hnow.symm, ?_⟩
    intro earlier hearlier
    rcases List.mem_append.mp hearlier with hearlier | hearlier
    · have hle := h.late hthrottle earlier hearlier
      rw [hnow, UInt64.le_iff_toNat_le]
      omega
    · rw [List.mem_singleton.mp hearlier]
      exact UInt64.le_refl _
  clock := by
    intro earlier hearlier
    rcases List.mem_append.mp hearlier with hearlier | hearlier
    · exact h.clock earlier hearlier
    · rw [List.mem_singleton.mp hearlier, hnow]
      exact nowMs_of_countMs_pos hclock

theorem Logged.step (h : Logged run) (hstep : (system formTypes).step run run') :
    Logged run' := by
  cases hstep with
  | event call hclock hnone =>
    rcases processEvent_cases formTypes run.sink call with
      ⟨ignoreUntilMs, heq⟩ | ⟨regKeyId, baseId, hkey, hform, hnew, hthrottle, heq⟩
    · rw [heq]
      simp only [Option.toList_none, List.append_nil]
      exact ⟨h.once, h.apart, h.marked, h.last, h.clock⟩
    · have hbase : baseId ≠ 0 := by
        rintro rfl
        rw [hnone] at hform
        cases hform
      rw [heq]
      exact h.notify ⟨regKeyId, baseId, call.nowMs, lootMessage call.env regKeyId⟩ hclock rfl hkey
        hbase hnew hthrottle
  | act action hother =>
    refine ⟨h.once, h.apart, fun id => ?_, h.last, h.clock⟩
    show id ∈ (perform formTypes action run.sink.state).1.notifiedItems ↔ _
    rw [notifiedItems_perform formTypes hother]
    exact h.marked id

theorem logged_of_reachable (h : (system formTypes).Reachable run) : Logged run :=
  TransitionSystem.Invariant.reachable
    ⟨fun _ hinit => logged_init hinit, fun _ _ hlogged hstep => hlogged.step hstep⟩ h

/-- An item that is in no notice and was not marked at the start gets its notice once no
other is too near. -/
theorem Logged.notifies (h : Logged run) {regKeyId baseId : FormID}
    (hcheck : checkEvent formTypes run.sink call = (run.sink, some (regKeyId, baseId)))
    (hnew : ∀ id ∈ [regKeyId, baseId], id ∉ run.start.state.notifiedItems ∧
      ∀ notice ∈ run.log, id ∉ notice.ids)
    (hstart : run.start.lastNotifyMs.toNat + 750 ≤ call.nowMs.toNat)
    (hlog : ∀ notice ∈ run.log, notice.nowMs.toNat + 750 ≤ call.nowMs.toNat) :
    (processEvent formTypes run.sink call).2.isSome := by
  have hunmarked : ∀ id ∈ [regKeyId, baseId], id ∉ run.sink.state.notifiedItems := by
    intro id hid hmarked
    rcases (h.marked id).mp hmarked with hbefore | ⟨notice, hnotice, hmem⟩
    · exact (hnew id hid).1 hbefore
    · exact (hnew id hid).2 notice hnotice hmem
  have hlast : run.sink.lastNotifyMs.toNat + 750 ≤ call.nowMs.toNat := by
    rcases h.last with ⟨-, heq⟩ | ⟨notice, hnotice, heq, -⟩
    · rw [heq]
      exact hstart
    · rw [heq]
      exact hlog notice hnotice
  have hsum : (run.sink.lastNotifyMs + kNotifyThrottleMs).toNat =
      run.sink.lastNotifyMs.toNat + 750 := by
    have hnow := call.nowMs.toNat_lt
    rw [UInt64.toNat_add]
    exact Nat.mod_eq_of_lt (show run.sink.lastNotifyMs.toNat + 750 < 2 ^ 64 by omega)
  have hdecision : decideLootNotify
      (NotifiedStateStore.containsAny run.sink.state regKeyId baseId) call.nowMs
      run.sink.lastNotifyMs kNotifyThrottleMs = .kNotify := by
    rw [decideLootNotify_eq_kNotify_iff, UInt64.lt_iff_toNat_lt (b := _ + _), hsum]
    refine ⟨?_, fun hthrottled => by omega⟩
    unfold NotifiedStateStore.containsAny
    rw [Bool.or_eq_false_iff, decide_eq_false_iff_not, decide_eq_false_iff_not]
    exact ⟨hunmarked _ (List.mem_cons_self ..), hunmarked _ (by simp)⟩
  unfold processEvent
  rw [hcheck]
  dsimp only
  rw [if_neg (not_not.mpr hdecision)]
  rfl

/-- In every run of events between two loads, whatever else the plugin does, the notices are
in order. -/
theorem loot_notices (h : (system formTypes).Reachable run) : Orderly formTypes run := by
  have hlogged := logged_of_reachable h
  refine ⟨hlogged.once, hlogged.apart, hlogged.marked, fun call hnone => ?_,
    fun _ _ _ hcheck hnew hstart hlog => hlogged.notifies hcheck hnew hstart hlog⟩
  rcases processEvent_cases formTypes run.sink call with
    ⟨ignoreUntilMs, heq⟩ | ⟨_, _, -, -, -, -, heq⟩
  · rw [heq]
    exact ⟨rfl, rfl⟩
  · rw [heq] at hnone
    cases hnone

def pickup : Call where
  event := some { itemCount := 1, newContainer := 0x14, baseObj := 4 }
  env := stall (utf8 "Sword") []
  enableLootNotify := true
  clock := 1000000000
  main := some true
  playerId := 0x14

def ready : Sink where
  state := {}
  gameReady := true

def pickupLater (clock : Int64) : Call :=
  { pickup with event := some { itemCount := 1, newContainer := 0x14, baseObj := 5 }, clock }

def Run.after (run : Run) (call : Call) : Run :=
  { run with
    sink := (processEvent (fun _ => .Weapon) run.sink call).1
    log := run.log ++ (processEvent (fun _ => .Weapon) run.sink call).2.toList }

/-- The second item is picked up 300 ms after the first, too early for a notice, and again
after 800 ms. -/
def threePickups : Run :=
  ((Run.after { start := ready, sink := ready, log := [] } pickup).after
    (pickupLater 1300000000)).after (pickupLater 1800000000)

theorem loot_notices_pickup :
    threePickups.log.map (fun notice => (notice.baseId, notice.nowMs)) = [(4, 1000), (5, 1800)] ∧
      Orderly (fun _ => .Weapon) threePickups := by
  have hstart : (system fun _ => .Weapon).Reachable
      { start := ready, sink := ready, log := [] } := .of_init ⟨rfl, rfl⟩
  have hfirst := hstart.step (.event _ pickup (by decide) rfl)
  have hearly := hfirst.step (.event _ (pickupLater 1300000000) (by decide) rfl)
  have hthree : (system fun _ => .Weapon).Reachable threePickups :=
    hearly.step (.event _ (pickupLater 1800000000) (by decide) rfl)
  exact ⟨by decide +kernel, loot_notices hthree⟩

end Invariant

end Events

end CodexOfPower
