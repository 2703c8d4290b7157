/-
# `CodexOfPower.ShownAtRest` — what the page shows when nothing is left to do

Every part of the page is accounted for (`Covered`): a refresh is pending, or the part
is still to be built or to be set, or something was lost and nothing built since, or what
is shown, or on its way, is what would be built now.  Each step keeps this, and at rest
a pending refresh, a loss and an up-to-date part are all that is left
(`shown_at_rest`).

## What is not said

A part that is owed may be anything, and nothing says that it will be built again: that takes
a request, or a new view.  A panel with a refresh pending is left out here, and is the
subject of `CodexOfPower.RefreshRecovery`.

What an up-to-date part shows is told by `UpToDate`.  For five of the six it is what would be
built now.  For the inventory it may be a list from the cache, and then an item that was
blocked since the list was built may still have its row (`shown_at_rest_listedAgain`).
-/
import CodexOfPower.CachedInventory

namespace CodexOfPower.PrismaUIManager

open RE Builds BuildProgression Registration Serialization

namespace Panel

variable {formTypes : FormID → FormType} {panel panel' : Panel} {call : JsCall}

/-! ## Where the newest of a part is -/

section Covered

/-- The builds of a part that are queued, by the page they are for. -/
def sendsOf (call : JsCall) (tasks : List MainTask) : List (Option InventoryRequest) :=
  tasks.filterMap fun task => match task with
    | .send c req => if c = call then some req else none
    | .handle _ => none

/-- The payload of a part that will be on the page when the UI tasks have run. -/
def latest (panel : Panel) (call : JsCall) : Option Payload :=
  (setsOf call panel.uiTasks).getLast?.or (panel.shown call)

/-- Why a part that is not up to date will be, or may not be. -/
inductive Covered (panel : Panel) (call : JsCall) : Prop
  | pending (h : panel.refreshPending = true)
  | running (op : Op) (hmem : op ∈ panel.running) (h : op.Refreshes call)
  | present (action : Action) (hmem : .present action ∈ panel.uiTasks)
      (h : call ∈ refreshedBy action)
  | queued (h : (sendsOf call panel.mainTasks).getLast? = some (panel.wanted call))
  | owed (hnone : sendsOf call panel.mainTasks = []) (h : panel.owed call = true)
  | built (hnone : sendsOf call panel.mainTasks = []) (payload : Payload)
      (hlatest : panel.latest call = some payload) (h : panel.UpToDate call payload)

end Covered

/-! ## What a step leaves alone -/

theorem sendsOf_append (call : JsCall) (tasks tasks' : List MainTask) :
    sendsOf call (tasks ++ tasks') = sendsOf call tasks ++ sendsOf call tasks' :=
  List.filterMap_append ..

theorem setsOf_append (call : JsCall) (tasks tasks' : List UITask) :
    setsOf call (tasks ++ tasks') = setsOf call tasks ++ setsOf call tasks' :=
  List.filterMap_append ..

theorem sendsOf_send (c : JsCall) (req : Option InventoryRequest) (rest : List MainTask) :
    sendsOf call (.send c req :: rest) =
      (if c = call then [req] else []) ++ sendsOf call rest := by
  by_cases h : c = call
  · simp [sendsOf, h]
  · simp [sendsOf, h]

theorem setsOf_set (c : JsCall) (payload : Payload) (rest : List UITask) :
    setsOf call (.set c payload :: rest) =
      (if c = call then [payload] else []) ++ setsOf call rest := by
  by_cases h : c = call
  · simp [setsOf, h]
  · simp [setsOf, h]

/-- A step that has no part in a call. -/
structure Leaves (call : JsCall) (panel panel' : Panel) : Prop where
  pending : panel.refreshPending = true → panel'.refreshPending = true
  running : ∀ op ∈ panel.running, op.Refreshes call → op ∈ panel'.running
  present : ∀ action, .present action ∈ panel.uiTasks → call ∈ refreshedBy action →
    .present action ∈ panel'.uiTasks
  sends : sendsOf call panel'.mainTasks = sendsOf call panel.mainTasks
  owed : panel.owed call = true → panel'.owed call = true
  latest : panel'.latest call = panel.latest call
  wanted : panel'.wanted call = panel.wanted call
  upToDate : ∀ payload, panel.UpToDate call payload → panel'.UpToDate call payload

theorem Covered.leaves (h : Covered panel call) (hleaves : Leaves call panel panel') :
    Covered panel' call := by
  cases h with
  | pending h => exact .pending (hleaves.pending h)
  | running op hmem h => exact .running op (hleaves.running op hmem h) h
  | present action hmem h => exact .present action (hleaves.present action hmem h) h
  | queued h => exact .queued (by rw [hleaves.sends, hleaves.wanted]; exact h)
  | owed hnone h => exact .owed (hleaves.sends.trans hnone) (hleaves.owed h)
  | built hnone payload hlatest h =>
    exact .built (hleaves.sends.trans hnone) payload (hleaves.latest.trans hlatest)
      (hleaves.upToDate payload h)

/-! ## One operation of a callback -/

/-- What every reachable panel meets besides. -/
structure Kept (panel : Panel) : Prop where
  listed : panel.CacheListed
  clamped : clampInventoryRequest panel.lastInventoryRequest = panel.lastInventoryRequest
  sends : sendsOf .setState panel.mainTasks = []
  sets : setsOf .setState panel.uiTasks = []
  sound : ∀ op ∈ panel.running, op.Sound

section Op

variable {op : Op} {rest : List Op} {accepts delivers : Bool}

/-- Dropping the operation from the callback loses only what it refreshes. -/
theorem leaves_rest (hrunning : panel.running = op :: rest) (hnot : ¬ op.Refreshes call) :
    Leaves call panel { panel with running := rest } where
  pending := id
  running op' hmem hrefreshes := by
    rw [hrunning] at hmem
    rcases List.mem_cons.mp hmem with rfl | hmem
    · exact absurd hrefreshes hnot
    · exact hmem
  present _ h _ := h
  sends := rfl
  owed := id
  latest := rfl
  wanted := rfl
  upToDate _ := id

theorem covered_queueMainTask_handle (action : Action) (h : Covered panel call) :
    Covered (panel.queueMainTask accepts (.handle action)) call := by
  unfold queueMainTask
  split_ifs
  · refine h.leaves ⟨id, fun _ h _ => h, fun _ h _ => h, ?_, id, rfl, rfl, fun _ => id⟩
    rw [sendsOf_append]
    exact List.append_nil _
  · exact .pending rfl

/-- A build that is queued, and is for the page that is wanted, covers its part. -/
theorem covered_queueMainTask_send {c : JsCall} {req : Option InventoryRequest}
    (hwanted : panel.wanted c = req) (h : call ≠ c → Covered panel call) :
    Covered (panel.queueMainTask accepts (.send c req)) call := by
  unfold queueMainTask
  split_ifs
  · by_cases hcall : call = c
    · subst hcall
      refine .queued ?_
      rw [sendsOf_append, sendsOf_send, if_pos rfl]
      exact List.getLast?_concat.trans (congrArg some hwanted.symm)
    · refine (h hcall).leaves ⟨id, fun _ h _ => h, fun _ h _ => h, ?_, id, rfl, rfl, fun _ => id⟩
      rw [sendsOf_append, sendsOf_send, if_neg (Ne.symm hcall)]
      exact List.append_nil _
  · exact .pending rfl

theorem covered_queueSendInventory {req : InventoryRequest} (hreq : clampInventoryRequest req = req)
    (h : call ≠ .setInventory → Covered panel call) :
    Covered (panel.queueSendInventory accepts req) call := by
  unfold queueSendInventory
  refine covered_queueMainTask_send (congrArg some hreq) fun hcall => ?_
  have hwanted : ∀ last, { panel with lastInventoryRequest := last }.wanted call =
      panel.wanted call := by
    intro last
    cases call with
    | setInventory => exact absurd rfl hcall
    | _ => rfl
  exact (h hcall).leaves ⟨id, fun _ h _ => h, fun _ h _ => h, rfl, id, rfl, hwanted _,
    fun _ h => ⟨h.1.trans (hwanted _).symm, h.2⟩⟩

theorem covered_runOp (hkept : Kept panel) (hrunning : panel.running = op :: rest)
    (h : Covered panel call) :
    Covered ({ panel with running := rest }.runOp accepts delivers op) call := by
  have hrest : ¬ op.Refreshes call → Covered { panel with running := rest } call :=
    fun hnot => h.leaves (leaves_rest hrunning hnot)
  cases op with
  | flushPendingUIRefresh =>
    unfold runOp
    split_ifs
    · obtain ⟨op', hmem, hrefreshes⟩ := refreshes_refreshAll call
      exact .running op' (List.mem_append_left _ hmem) hrefreshes
    · exact hrest id
  | sendStateToUI =>
    by_cases hcall : call = .setState
    · subst hcall
      cases delivers with
      | false => exact .owed hkept.sends rfl
      | true =>
        refine .built hkept.sends (panel.current .setState) ?_ (upToDate_current panel .setState)
        show ((setsOf .setState panel.uiTasks).getLast?.or _) = _
        rw [hkept.sets]
        rfl
    · have howed : panel.owed call = true →
          (if call = .setState then !delivers else panel.owed call) = true := by
        rw [if_neg hcall]
        exact id
      have hshown : ∀ payload : Payload,
          (if call = .setState then some payload else panel.shown call) = panel.shown call :=
        fun _ => if_neg hcall
      refine (hrest hcall).leaves ?_
      cases delivers with
      | false => exact ⟨id, fun _ h _ => h, fun _ h _ => h, rfl, howed, rfl, rfl, fun _ => id⟩
      | true =>
        exact ⟨id, fun _ h _ => h, fun _ h _ => h, rfl, howed, congrArg _ (hshown _), rfl,
          fun _ => id⟩
  | queueSendLastInventory =>
    exact covered_queueSendInventory hkept.clamped fun hcall => hrest hcall
  | queueSendInventory req =>
    have hsound : clampInventoryRequest req = req :=
      hkept.sound (.queueSendInventory req) (by rw [hrunning]; exact List.mem_cons_self)
    exact covered_queueSendInventory hsound fun hcall => hrest hcall
  | queueSend c =>
    have hsound : c ≠ .setState ∧ c ≠ .setInventory :=
      hkept.sound (.queueSend c) (by rw [hrunning]; exact List.mem_cons_self)
    refine covered_queueMainTask_send ?_ fun hcall => hrest hcall
    cases c with
    | setInventory => exact absurd rfl hsound.2
    | _ => rfl
  | queueHandle action => exact covered_queueMainTask_handle action (hrest id)

end Op

/-! ## One main task -/

section MainTask

variable {source : QuickListSource} {rest : List MainTask} {accepts : Bool}

/-- Handling a request leaves the parts that it does not refresh. -/
theorem leaves_perform (action : Action) (h : call ∉ refreshedBy action) :
    Leaves call panel
      { panel with state := (CodexOfPower.perform formTypes action panel.state).1 } where
  pending := id
  running _ h _ := h
  present _ h _ := h
  sends := rfl
  owed := id
  latest := rfl
  wanted := rfl
  upToDate payload hpayload := by
    obtain ⟨hrequest, hreads⟩ := hpayload
    refine ⟨hrequest, ?_⟩
    by_cases hcall : call = .setInventory
    · rw [if_pos hcall] at hreads ⊢
      exact hreads.sameSets (sameSets_elsewhere (elsewhere_perform action panel.state h))
    · rw [if_neg hcall] at hreads ⊢
      exact hreads.trans (reads_perform action panel.state h).symm

theorem owed_owe {calls : List JsCall} (h : call ∈ calls ∨ panel.owed call = true) :
    (panel.owe calls).owed call = true := by
  show (decide (call ∈ calls) || panel.owed call) = true
  rcases h with h | h
  · rw [decide_eq_true h]
    exact Bool.true_or _
  · rw [h]
    exact Bool.or_true _

/-- Owing more is no less covered. -/
theorem Covered.owe (h : Covered panel call) (calls : List JsCall) :
    Covered (panel.owe calls) call :=
  h.leaves ⟨id, fun _ h _ => h, fun _ h _ => h, rfl, fun h => owed_owe (.inr h), rfl, rfl,
    fun _ => id⟩

/-- Where nothing of a part is known to be up to date, it is owed, or will be refreshed. -/
theorem Covered.of_owed (h : Covered panel call) {panel' : Panel}
    (hpending : panel.refreshPending = true → panel'.refreshPending = true)
    (hrunning : panel'.running = panel.running) (huiTasks : panel'.uiTasks = panel.uiTasks)
    (hsends : sendsOf call panel'.mainTasks = sendsOf call panel.mainTasks)
    (hwanted : panel'.wanted call = panel.wanted call) (howed : panel'.owed call = true) :
    Covered panel' call := by
  cases h with
  | pending h => exact .pending (hpending h)
  | running op hmem h => exact .running op (hrunning ▸ hmem) h
  | present action hmem h => exact .present action (huiTasks ▸ hmem) h
  | queued h => exact .queued (by rw [hsends, hwanted]; exact h)
  | owed hnone _ => exact .owed (hsends.trans hnone) howed
  | built hnone _ _ _ => exact .owed (hsends.trans hnone) howed

theorem covered_handle (action : Action) (h : Covered panel call) :
    Covered (panel.runMainTask formTypes source accepts (.handle action)) call := by
  unfold runMainTask
  dsimp only
  by_cases hcall : call ∈ refreshedBy action
  · obtain ⟨quickList, blockedSince, hframe⟩ := perform_frame formTypes action panel
    rw [hframe]
    split_ifs
    · exact .present action (List.mem_append_right _ (List.mem_singleton_self _)) hcall
    · exact h.of_owed id rfl rfl rfl rfl (owed_owe (.inl hcall))
  · have hstate : Covered { panel with
        state := (CodexOfPower.perform formTypes action panel.state).1 } call :=
      h.leaves (leaves_perform action hcall)
    rw [perform_of_not_refreshed action hcall]
    split_ifs
    · refine hstate.leaves ⟨id, fun _ h _ => h,
        fun _ h _ => List.mem_append_left _ h, rfl, id, ?_, rfl, fun _ => id⟩
      unfold latest
      rw [setsOf_append]
      exact congrArg (fun sets => (List.getLast? sets).or (panel.shown call)) (List.append_nil _)
    · exact hstate.owe _

/-- Other parts are left alone by what a build does to the list. -/
theorem leaves_build {c : JsCall} (hcall : call ≠ c) :
    Leaves call panel (panel.build source c).2 := by
  by_cases hc : c = .setInventory
  · subst hc
    obtain ⟨quickList, blockedSince, hframe⟩ := build_frame panel source .setInventory
    rw [hframe]
    refine ⟨id, fun _ h _ => h, fun _ h _ => h, rfl, id, rfl, rfl, fun payload hpayload => ?_⟩
    refine ⟨hpayload.1, ?_⟩
    rw [if_neg hcall]
    exact hpayload.eq_current hcall ▸ rfl
  · have hsame : (panel.build source c).2 = panel := by
      cases c with
      | setInventory => exact absurd rfl hc
      | _ => rfl
    rw [hsame]
    exact ⟨id, fun _ h _ => h, fun _ h _ => h, rfl, id, rfl, rfl, fun _ => id⟩

/-- A build that runs turns the last one queued into what is on its way. -/
theorem covered_send {c : JsCall} {req : Option InventoryRequest} (hkept : Kept panel)
    (hmainTasks : panel.mainTasks = .send c req :: rest) (h : Covered panel call) :
    Covered ({ panel with mainTasks := rest }.runMainTask formTypes source accepts (.send c req))
      call := by
  have hlisted : CacheListed { panel with mainTasks := rest } := hkept.listed
  unfold runMainTask
  dsimp only
  by_cases hcall : call = c
  · subst hcall
    have hsends : sendsOf call panel.mainTasks = req :: sendsOf call rest := by
      rw [hmainTasks, sendsOf_send, if_pos rfl]
      rfl
    -- another build is behind it, or this is the last, and it is for what is wanted
    have hlast : (sendsOf call panel.mainTasks).getLast? = some (panel.wanted call) →
        (sendsOf call rest).getLast? = some (panel.wanted call) ∨
          sendsOf call rest = [] ∧ req = panel.wanted call := by
      intro hlast
      rw [hsends] at hlast
      cases hrest : sendsOf call rest with
      | nil =>
        rw [hrest] at hlast
        exact .inr ⟨rfl, Option.some.inj hlast⟩
      | cons req' reqs =>
        rw [hrest, List.getLast?_cons_cons] at hlast
        exact .inl hlast
    have hnot : sendsOf call panel.mainTasks ≠ [] := by rw [hsends]; exact List.cons_ne_nil _ _
    obtain ⟨hbuilt, -⟩ := build_spec source call hlisted
    obtain ⟨quickList, blockedSince, hframe⟩ :=
      build_frame { panel with mainTasks := rest } source call
    rw [hframe] at hbuilt ⊢
    split_ifs
    · cases h with
      | pending h => exact .pending h
      | running op hmem h => exact .running op hmem h
      | present action hmem h => exact .present action (List.mem_append_left _ hmem) h
      | queued h =>
        rcases hlast h with h | ⟨hnone, rfl⟩
        · exact .queued h
        · refine .built hnone _ ?_ hbuilt
          unfold latest
          rw [setsOf_append, setsOf_set, if_pos rfl]
          exact congrArg (Option.or · _) List.getLast?_concat
      | owed hnone _ => exact absurd hnone hnot
      | built hnone _ _ _ => exact absurd hnone hnot
    · cases h with
      | pending h => exact .pending h
      | running op hmem h => exact .running op hmem h
      | present action hmem h => exact .present action hmem h
      | queued h =>
        rcases hlast h with h | ⟨hnone, -⟩
        · exact .queued h
        · exact .owed hnone (owed_owe (.inl (List.mem_singleton_self _)))
      | owed hnone _ => exact absurd hnone hnot
      | built hnone _ _ _ => exact absurd hnone hnot
  · have hsends : sendsOf call rest = sendsOf call panel.mainTasks := by
      rw [hmainTasks, sendsOf_send, if_neg (Ne.symm hcall)]
      rfl
    have hrest : Covered { panel with mainTasks := rest } call :=
      h.leaves ⟨id, fun _ h _ => h, fun _ h _ => h, hsends, id, rfl, rfl, fun _ => id⟩
    have hbuilt : Covered (Panel.build { panel with mainTasks := rest } source c).2 call :=
      hrest.leaves (leaves_build hcall)
    split_ifs
    · refine hbuilt.leaves ⟨id, fun _ h _ => h, fun _ h _ => List.mem_append_left _ h, rfl, ?_,
        ?_, rfl, fun _ => id⟩
      · intro howed
        exact (if_neg hcall).trans howed
      · unfold latest
        rw [setsOf_append, setsOf_set, if_neg (Ne.symm hcall)]
        exact congrArg (fun sets => (List.getLast? sets).or _) (List.append_nil _)
    · exact hbuilt.owe _

theorem covered_runMainTask {task : MainTask} (hkept : Kept panel)
    (hmainTasks : panel.mainTasks = task :: rest) (h : Covered panel call) :
    Covered ({ panel with mainTasks := rest }.runMainTask formTypes source accepts task) call := by
  cases task with
  | send c req => exact covered_send hkept hmainTasks h
  | handle action =>
    refine covered_handle action
      (h.leaves ⟨id, fun _ h _ => h, fun _ h _ => h, ?_, id, rfl, rfl, fun _ => id⟩)
    rw [hmainTasks]
    rfl

end MainTask

/-! ## One UI task -/

section UITask

variable {rest : List UITask} {delivers : Bool}

/-- A call that arrives is what was on its way. -/
theorem latest_delivered {c : JsCall} {payload : Payload}
    (huiTasks : panel.uiTasks = .set c payload :: rest) :
    ({ panel with uiTasks := rest }.sendJS true c payload).latest call = panel.latest call := by
  show (setsOf call rest).getLast?.or (if call = c then some payload else panel.shown call) =
    (setsOf call panel.uiTasks).getLast?.or (panel.shown call)
  rw [huiTasks, setsOf_set]
  by_cases hcall : call = c
  · subst hcall
    rw [if_pos rfl, if_pos rfl, List.singleton_append, List.getLast?_cons]
    cases (setsOf call rest).getLast? with
    | none => rfl
    | some last => rfl
  · rw [if_neg hcall, if_neg (Ne.symm hcall)]
    rfl

/-- A call that is lost is no loss where a later one is on its way, or for another part. -/
theorem latest_dropped {c : JsCall} {payload : Payload}
    (huiTasks : panel.uiTasks = .set c payload :: rest)
    (h : call = c → setsOf call rest ≠ []) :
    { panel with uiTasks := rest }.latest call = panel.latest call := by
  show (setsOf call rest).getLast?.or _ = (setsOf call panel.uiTasks).getLast?.or _
  rw [huiTasks, setsOf_set]
  by_cases hcall : call = c
  · subst hcall
    rw [if_pos rfl, List.singleton_append, List.getLast?_cons]
    cases hlast : (setsOf call rest).getLast? with
    | none => exact absurd (List.getLast?_eq_none_iff.mp hlast) (h rfl)
    | some last => rfl
  · rw [if_neg (Ne.symm hcall)]
    rfl

theorem mem_of_present {c : JsCall} {payload : Payload} {action : Action}
    (huiTasks : panel.uiTasks = .set c payload :: rest)
    (h : .present action ∈ panel.uiTasks) : .present action ∈ rest := by
  rw [huiTasks] at h
  exact (List.mem_cons.mp h).resolve_left nofun

theorem covered_set {c : JsCall} {payload : Payload}
    (huiTasks : panel.uiTasks = .set c payload :: rest) (h : Covered panel call) :
    Covered ({ panel with uiTasks := rest }.runUITask delivers (.set c payload)) call := by
  have hpresent : ∀ action, .present action ∈ panel.uiTasks → call ∈ refreshedBy action →
      .present action ∈ rest := fun _ h _ => mem_of_present huiTasks h
  cases delivers with
  | true =>
    exact h.leaves ⟨id, fun _ h _ => h, hpresent, rfl, id, latest_delivered huiTasks, rfl,
      fun _ => id⟩
  | false =>
    unfold runUITask
    by_cases hlater : setsOf c rest = []
    · have hnot : ¬ ((false || setsOf c rest ≠ []) = true) := by simp [hlater]
      dsimp only
      rw [if_neg hnot]
      by_cases hcall : call = c
      · cases h with
        | pending h => exact .pending h
        | running op hmem h => exact .running op hmem h
        | present action hmem h => exact .present action (hpresent action hmem h) h
        | queued h => exact .queued h
        | owed hnone _ =>
          exact .owed hnone (owed_owe (.inl (hcall ▸ List.mem_singleton_self _)))
        | built hnone _ _ _ =>
          exact .owed hnone (owed_owe (.inl (hcall ▸ List.mem_singleton_self _)))
      · have hlatest : { panel with uiTasks := rest }.latest call = panel.latest call :=
          latest_dropped huiTasks fun h => absurd h hcall
        have hrest : Covered { panel with uiTasks := rest } call :=
          h.leaves ⟨id, fun _ h _ => h, hpresent, rfl, id, hlatest, rfl, fun _ => id⟩
        exact hrest.owe [c]
    · have hlatest : { panel with uiTasks := rest }.latest call = panel.latest call :=
        latest_dropped huiTasks fun h => h ▸ hlater
      have hsome : (false || setsOf c rest ≠ []) = true := by simp [hlater]
      dsimp only
      rw [if_pos hsome]
      exact h.leaves ⟨id, fun _ h _ => h, hpresent, rfl, id, hlatest, rfl, fun _ => id⟩

/-- What a request says at its end is that its parts are refreshed. -/
theorem covered_present {action : Action} (hidle : panel.running = [])
    (huiTasks : panel.uiTasks = .present action :: rest) (h : Covered panel call) :
    Covered ({ panel with uiTasks := rest }.runUITask delivers (.present action)) call := by
  by_cases hcall : call ∈ refreshedBy action
  · exact .running (Op.refresh call) (List.mem_map_of_mem hcall) (Op.refreshes_refresh call)
  · refine h.leaves ⟨id, fun _ hmem => ?_, fun action' hmem hrefreshed => ?_, rfl, id, ?_, rfl,
      fun _ => id⟩
    · rw [hidle] at hmem
      exact absurd hmem List.not_mem_nil
    · rw [huiTasks] at hmem
      refine (List.mem_cons.mp hmem).resolve_left fun heq => ?_
      cases heq
      exact hcall hrefreshed
    · unfold latest
      rw [huiTasks]
      rfl

theorem covered_runUITask {task : UITask} (hidle : panel.running = [])
    (huiTasks : panel.uiTasks = task :: rest) (h : Covered panel call) :
    Covered ({ panel with uiTasks := rest }.runUITask delivers task) call := by
  cases task with
  | set c payload => exact covered_set huiTasks h
  | present action => exact covered_present hidle huiTasks h

end UITask

/-! ## Every step -/

section Kept

variable {accepts delivers : Bool}

theorem clampInventoryRequest_idem (req : InventoryRequest) :
    clampInventoryRequest (clampInventoryRequest req) = clampInventoryRequest req := by
  unfold clampInventoryRequest
  dsimp only
  split_ifs <;> first | rfl | contradiction

theorem Kept.queueMainTask (h : Kept panel) {task : MainTask}
    (htask : sendsOf .setState [task] = []) : Kept (panel.queueMainTask accepts task) := by
  unfold Panel.queueMainTask
  split_ifs
  · refine ⟨h.listed, h.clamped, ?_, h.sets, h.sound⟩
    rw [sendsOf_append, htask, List.append_nil]
    exact h.sends
  · exact ⟨h.listed, h.clamped, h.sends, h.sets, h.sound⟩

theorem Kept.queueSendInventory (h : Kept panel) (req : InventoryRequest) :
    Kept (panel.queueSendInventory accepts req) := by
  have hremembered : Kept { panel with lastInventoryRequest := clampInventoryRequest req } :=
    ⟨h.listed, clampInventoryRequest_idem req, h.sends, h.sets, h.sound⟩
  exact hremembered.queueMainTask rfl

theorem Kept.sendJS (h : Kept panel) (c : JsCall) (payload : Payload) :
    Kept (panel.sendJS delivers c payload) := by
  unfold Panel.sendJS
  split_ifs
  · exact ⟨h.listed, h.clamped, h.sends, h.sets, h.sound⟩
  · exact h

theorem Kept.owe (h : Kept panel) (calls : List JsCall) : Kept (panel.owe calls) :=
  ⟨h.listed, h.clamped, h.sends, h.sets, h.sound⟩

theorem Kept.runOp (h : Kept panel) {op : Op} (hop : op.Sound) :
    Kept (panel.runOp accepts delivers op) := by
  cases op with
  | flushPendingUIRefresh =>
    unfold Panel.runOp
    split_ifs
    · refine ⟨h.listed, h.clamped, h.sends, h.sets, fun op hmem => ?_⟩
      rcases List.mem_append.mp hmem with hmem | hmem
      · exact sound_refreshAll op hmem
      · exact h.sound op hmem
    · exact h
  | sendStateToUI =>
    have hsent : Kept (panel.sendJS delivers .setState (panel.current .setState)) :=
      h.sendJS .setState _
    exact ⟨hsent.listed, hsent.clamped, hsent.sends, hsent.sets, hsent.sound⟩
  | queueSendLastInventory => exact h.queueSendInventory _
  | queueSendInventory req => exact h.queueSendInventory req
  | queueSend c =>
    refine h.queueMainTask ?_
    rw [sendsOf_send, if_neg hop.1]
    rfl
  | queueHandle action => exact h.queueMainTask rfl

theorem Kept.runMainTask (h : Kept panel) {source : QuickListSource} {task : MainTask}
    (htask : sendsOf .setState [task] = []) :
    Kept (panel.runMainTask formTypes source accepts task) := by
  unfold Panel.runMainTask
  cases task with
  | send c req =>
    dsimp only
    obtain ⟨-, hlisted⟩ := build_spec source c h.listed
    obtain ⟨quickList, blockedSince, hframe⟩ := build_frame panel source c
    rw [hframe] at hlisted ⊢
    have hbuilt : Kept { panel with quickList, blockedSince } :=
      ⟨hlisted, h.clamped, h.sends, h.sets, h.sound⟩
    split_ifs
    · refine ⟨hlisted, h.clamped, h.sends, ?_, h.sound⟩
      have hne : c ≠ .setState := by
        rintro rfl
        rw [sendsOf_send, if_pos rfl] at htask
        exact List.cons_ne_nil _ _ htask
      rw [setsOf_append, setsOf_set, if_neg hne, h.sets]
      rfl
    · exact hbuilt.owe _
  | handle action =>
    dsimp only
    have hlisted := h.listed.perform formTypes action
    obtain ⟨quickList, blockedSince, hframe⟩ := perform_frame formTypes action panel
    rw [hframe] at hlisted ⊢
    split_ifs
    · refine ⟨hlisted, h.clamped, h.sends, ?_, h.sound⟩
      rw [setsOf_append, h.sets]
      rfl
    · exact ⟨hlisted, h.clamped, h.sends, h.sets, h.sound⟩

theorem Kept.runUITask (h : Kept panel) (task : UITask) :
    Kept (panel.runUITask delivers task) := by
  cases task with
  | set c payload =>
    have hsent : Kept (panel.sendJS delivers c payload) := h.sendJS c payload
    unfold Panel.runUITask
    dsimp only
    split_ifs
    · exact hsent
    · exact hsent.owe _
  | present action =>
    refine ⟨h.listed, h.clamped, h.sends, h.sets, fun op hmem => ?_⟩
    obtain ⟨c, -, rfl⟩ := List.mem_map.mp hmem
    exact Op.sound_refresh c

theorem Kept.work (h : Kept panel) (hwork : Work formTypes accepts delivers panel panel') :
    Kept panel' := by
  cases hwork with
  | op op rest hrunning =>
    have hsound := h.sound
    rw [hrunning] at hsound
    have hrest : Kept { panel with running := rest } :=
      ⟨h.listed, h.clamped, h.sends, h.sets, fun op hmem => hsound op (List.mem_cons_of_mem _ hmem)⟩
    exact hrest.runOp (hsound op List.mem_cons_self)
  | main source task rest hmainTasks =>
    have hsends := h.sends
    rw [hmainTasks, ← List.singleton_append, sendsOf_append, List.append_eq_nil_iff] at hsends
    have hrest : Kept { panel with mainTasks := rest } :=
      ⟨h.listed, h.clamped, hsends.2, h.sets, h.sound⟩
    exact hrest.runMainTask hsends.1
  | ui task rest _ huiTasks =>
    have hsets := h.sets
    rw [huiTasks, ← List.singleton_append, setsOf_append, List.append_eq_nil_iff] at hsets
    have hrest : Kept { panel with uiTasks := rest } :=
      ⟨h.listed, h.clamped, h.sends, hsets.2, h.sound⟩
    exact hrest.runUITask task

theorem sound_ops (request : Request) : ∀ op ∈ request.ops, op.Sound := by
  cases request with
  | inventory payload => simp [Request.ops, Op.Sound, clamp_parseInventoryRequest]
  | _ => simp [Request.ops, Op.Sound]

end Kept

/-- A step of the two threads keeps every part accounted for. -/
theorem covered_work {accepts delivers : Bool} (hkept : Kept panel) (h : Covered panel call)
    (hwork : Work formTypes accepts delivers panel panel') : Covered panel' call := by
  cases hwork with
  | op op rest hrunning => exact covered_runOp hkept hrunning h
  | main source task rest hmainTasks => exact covered_runMainTask hkept hmainTasks h
  | ui task rest hidle huiTasks => exact covered_runUITask hidle huiTasks h

theorem invariant_kept (formTypes : FormID → FormType) : (system formTypes).Invariant Kept where
  init panel hinit := by
    obtain ⟨state, rfl⟩ := hinit
    exact ⟨nofun, rfl, rfl, rfl, fun op hmem => absurd hmem List.not_mem_nil⟩
  step panel panel' h hstep := by
    cases hstep with
    | work _ accepts delivers hwork => exact h.work hwork
    | request request hidle => exact ⟨h.listed, h.clamped, h.sends, h.sets, sound_ops request⟩
    | sendState hidle => exact ⟨h.listed, h.clamped, h.sends, h.sets, by simp [Op.Sound]⟩
    | notify primaryId secondaryId =>
      exact ⟨h.listed.perform formTypes (.notify primaryId secondaryId), h.clamped, h.sends,
        h.sets, h.sound⟩
    | destroyed => exact ⟨h.listed, h.clamped, h.sends, h.sets, h.sound⟩

/-- A call of the page starts when no other is running, so nothing that was due is dropped. -/
theorem leaves_call {ops : List Op} (hidle : panel.running = []) :
    Leaves call panel { panel with running := ops } := by
  refine ⟨id, fun op hmem => ?_, fun _ h _ => h, rfl, id, rfl, rfl, fun _ => id⟩
  rw [hidle] at hmem
  exact absurd hmem List.not_mem_nil

theorem invariant_covered (formTypes : FormID → FormType) :
    (system formTypes).Invariant fun panel => Kept panel ∧ ∀ call, Covered panel call := by
  refine (invariant_kept formTypes).and (fun panel hinit call => ?_)
    fun panel panel' hkept h hstep call => ?_
  · obtain ⟨state, rfl⟩ := hinit
    exact .owed rfl rfl
  · cases hstep with
    | work _ accepts delivers hwork => exact covered_work hkept (h call) hwork
    | request request hidle => exact (h call).leaves (leaves_call hidle)
    | sendState hidle => exact (h call).leaves (leaves_call hidle)
    | notify primaryId secondaryId => exact (h call).leaves (leaves_perform _ List.not_mem_nil)
    | destroyed => exact (h call).of_owed id rfl rfl rfl rfl rfl

/-! ## At rest -/

/-- Nothing is left to do. -/
structure AtRest (panel : Panel) : Prop where
  running : panel.running = []
  mainTasks : panel.mainTasks = []
  uiTasks : panel.uiTasks = []

/-- In every panel that is reached, at rest and with no refresh pending, a part of the page
that is not owed is up to date: it shows what would be built now, and the inventory is the
page that was asked for last. -/
theorem shown_at_rest (hreachable : (system formTypes).Reachable panel) (hrest : AtRest panel)
    (hpending : panel.refreshPending = false) (call : JsCall) (howed : panel.owed call = false) :
    ∃ payload, panel.shown call = some payload ∧ panel.UpToDate call payload := by
  cases ((invariant_covered formTypes).reachable hreachable).2 call with
  | pending h => rw [hpending] at h; cases h
  | running op hmem _ => rw [hrest.running] at hmem; cases hmem
  | present action hmem _ => rw [hrest.uiTasks] at hmem; cases hmem
  | queued h => rw [hrest.mainTasks] at h; cases h
  | owed _ h => rw [howed] at h; cases h
  | built _ payload hlatest h =>
    unfold latest at hlatest
    rw [hrest.uiTasks] at hlatest
    exact ⟨payload, hlatest, h⟩

section Nameless

/-- A sword that has no name. -/
def nameless : Environment Float32 := stall [] [sword]

/-- What is read for a list in a new game. -/
def newGameRead : RuntimeState Float32 := JsCall.reads newGameState .setInventory

/-- The inventory was asked for, and is shown. -/
def listed : Panel where
  state := newGameState
  quickList := some newGameRead
  shown c := if c = .setInventory then some ⟨some {}, newGameRead⟩ else none
  owed c := if c = .setInventory then false else true

/-- The inventory is shown; then the sword was refused, for want of a name, and the UI queue
refused to say so. -/
def blocked : Panel :=
  { listed with
    state := (tryRegisterItem (fun _ => .Weapon) nameless newGameState 2).1
    blockedSince := true }.owe (refreshedBy (.register nameless 2))

theorem reachable_listed : (system fun _ => FormType.Weapon).Reachable listed := by
  have hstart : (system fun _ => FormType.Weapon).Reachable { state := newGameState } :=
    .of_init ⟨newGameState, rfl⟩
  have hasked := hstart.step (.request _ (.inventory none) rfl)
  have hflushed := hasked.step (.work _ _ true true (.op _ _ _ rfl))
  have hqueued := hflushed.step (.work _ _ true true (.op _ _ _ rfl))
  have hbuilt := hqueued.step (.work _ _ true true (.main _ .inventory _ _ rfl))
  have hset := hbuilt.step (.work _ _ true true (.ui _ _ _ rfl rfl))
  exact hset

theorem reachable_blocked : (system fun _ => FormType.Weapon).Reachable blocked := by
  have hfails : (tryRegisterItem (fun _ => .Weapon) nameless newGameState 2).2.success = false := by
    decide +kernel
  have hblocks : Blocks (fun _ => .Weapon) nameless newGameState 2 := by decide +kernel
  have hregister : listed.register (fun _ => .Weapon) nameless 2 = { listed with
      state := (tryRegisterItem (fun _ => .Weapon) nameless newGameState 2).1
      blockedSince := true } := by
    have hnoted : (listed.blockedSince || Blocks (fun _ => .Weapon) nameless listed.state 2) =
        true := decide_eq_true hblocks
    have hkept : (if (tryRegisterItem (fun _ => .Weapon) nameless listed.state 2).2.success = true
        then none else listed.quickList) = listed.quickList :=
      if_neg fun hsucceeds => Bool.false_ne_true (hfails.symm.trans hsucceeds)
    unfold register
    dsimp only
    rw [hnoted, hkept]
    rfl
  have hasked := reachable_listed.step (.request _ (.change (.register nameless 2)) rfl)
  have hqueued := hasked.step (.work _ _ true true (.op _ _ _ rfl))
  have hrefused := hqueued.step (.work _ _ false true (.main _ .inventory _ _ rfl))
  have hblocked : (listed.register (fun _ => .Weapon) nameless 2).owe
      (refreshedBy (.register nameless 2)) = blocked := by
    rw [hregister]
    rfl
  rw [← hblocked]
  exact hrefused

/-- After that refusal the inventory is asked for again, and comes from the cache. -/
def listedAgain : Panel :=
  { blocked with
    shown := fun c => if c = .setInventory then some ⟨some {}, newGameRead⟩ else blocked.shown c
    owed := fun c => if c = .setInventory then false else blocked.owed c }

/-- After a refusal the page still has the sword, and is otherwise the list of now. -/
theorem shown_at_rest_listedAgain :
    ∃ payload, listedAgain.shown .setInventory = some payload ∧
      listedAgain.UpToDate .setInventory payload := by
  have hasked := reachable_blocked.step (.request _ (.inventory none) rfl)
  have hflushed := hasked.step (.work _ _ true true (.op _ _ _ rfl))
  have hqueued := hflushed.step (.work _ _ true true (.op _ _ _ rfl))
  have hbuilt := hqueued.step (.work _ _ true true (.main _ .cache _ _ rfl))
  have hset := hbuilt.step (.work _ _ true true (.ui _ _ _ rfl rfl))
  have hagain : (system fun _ => FormType.Weapon).Reachable listedAgain := hset
  exact shown_at_rest hagain ⟨rfl, rfl, rfl⟩ rfl .setInventory rfl

end Nameless

end Panel

end CodexOfPower.PrismaUIManager
