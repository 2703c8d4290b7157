/-
# `CodexOfPower.RefreshRecovery` — a request makes good what was refused

Nothing goes on for ever: each step of the two threads leaves less to do, refused or not
(`weight_work`).  So with nothing refused or lost they come to rest, in any order; and
where a request of the page found a refresh pending, the whole page is then up to date
(`request_recovers`).

## What is not said

Without such a request nothing is claimed: what was lost on the way to the page stays owed
until the same part is built again.  "Up to date" is `UpToDate`: a list of the inventory may
be one from the cache, with items that were blocked since (`CodexOfPower.CachedInventory`).
A request that changes the state is left out, as its task may be refused in turn.
-/
import CodexOfPower.ShownAtRest

namespace CodexOfPower.PrismaUIManager

open RE Builds BuildProgression Registration Serialization

/-! ## Nothing goes on for ever -/

/-- How much an operation leaves to do, itself included. -/
def Op.weight : Op → Nat
  | .sendStateToUI => 1
  | .flushPendingUIRefresh => 17
  | .queueHandle _ => 19
  | _ => 3

def MainTask.weight : MainTask → Nat
  | .send .. => 2
  | .handle _ => 18

def UITask.weight : UITask → Nat
  | .set .. => 1
  | .present _ => 17

def Panel.weight (panel : Panel) : Nat :=
  (panel.running.map Op.weight).sum + (panel.mainTasks.map MainTask.weight).sum +
    (panel.uiTasks.map UITask.weight).sum

namespace Panel

section Weight

variable {formTypes : FormID → FormType} {panel panel' : Panel} {accepts delivers : Bool}

/-- What a request refreshes is less than its task. -/
theorem weight_refresh (action : Action) :
    (((refreshedBy action).map Op.refresh).map Op.weight).sum <
      UITask.weight (.present action) := by
  cases action <;> simp [refreshedBy, Op.refresh, Op.weight, UITask.weight]

theorem weight_queueMainTask (panel : Panel) (task : MainTask) :
    (panel.queueMainTask accepts task).weight ≤ panel.weight + task.weight := by
  unfold queueMainTask
  split_ifs
  · simp [weight]
    omega
  · exact Nat.le_add_right _ _

theorem weight_sendJS (panel : Panel) (c : JsCall) (payload : Payload) :
    (panel.sendJS delivers c payload).weight = panel.weight := by
  unfold sendJS
  split_ifs <;> rfl

theorem weight_runOp (panel : Panel) (op : Op) :
    (panel.runOp accepts delivers op).weight < panel.weight + op.weight := by
  cases op with
  | flushPendingUIRefresh =>
    unfold runOp
    split_ifs
    · simp [weight, refreshAll, Op.weight]
      omega
    · simp [Op.weight]
  | sendStateToUI =>
    have hsent : (panel.sendJS delivers .setState (panel.current .setState)).weight =
        panel.weight := weight_sendJS panel .setState _
    show (panel.sendJS delivers .setState (panel.current .setState)).weight < _
    rw [hsent]
    exact Nat.lt_succ_self _
  | queueSendLastInventory => exact Nat.lt_succ_of_le (weight_queueMainTask _ _)
  | queueSendInventory req => exact Nat.lt_succ_of_le (weight_queueMainTask _ _)
  | queueSend c => exact Nat.lt_succ_of_le (weight_queueMainTask _ _)
  | queueHandle action => exact Nat.lt_succ_of_le (weight_queueMainTask _ _)

theorem weight_runMainTask (panel : Panel) (source : QuickListSource) (task : MainTask) :
    (panel.runMainTask formTypes source accepts task).weight < panel.weight + task.weight := by
  unfold runMainTask
  cases task with
  | send c req =>
    obtain ⟨quickList, blockedSince, hframe⟩ := build_frame panel source c
    dsimp only
    rw [hframe]
    split_ifs
    · simp [weight, UITask.weight, MainTask.weight]
      omega
    · simp [weight, owe, MainTask.weight]
  | handle action =>
    obtain ⟨quickList, blockedSince, hframe⟩ := perform_frame formTypes action panel
    dsimp only
    rw [hframe]
    split_ifs
    · simp [weight, UITask.weight, MainTask.weight]
      omega
    · simp [weight, owe, MainTask.weight]

theorem weight_runUITask (panel : Panel) (task : UITask) (hidle : panel.running = []) :
    (panel.runUITask delivers task).weight < panel.weight + task.weight := by
  cases task with
  | set c payload =>
    have hsent : (panel.sendJS delivers c payload).weight = panel.weight :=
      weight_sendJS panel c payload
    have hsame : (panel.runUITask delivers (.set c payload)).weight = panel.weight := by
      unfold runUITask
      dsimp only
      split_ifs
      · exact hsent
      · exact hsent
    rw [hsame]
    exact Nat.lt_succ_self _
  | present action =>
    have hrefresh := weight_refresh action
    simp only [runUITask, weight, hidle, List.map_nil, List.sum_nil]
    omega

/-- Whatever is refused or lost, a step leaves less to do. -/
theorem weight_work (h : Work formTypes accepts delivers panel panel') :
    panel'.weight < panel.weight := by
  cases h with
  | op op rest hrunning =>
    refine (weight_runOp _ op).trans_le ?_
    simp [weight, hrunning]
    omega
  | main source task rest hmainTasks =>
    refine (weight_runMainTask _ source task).trans_le ?_
    simp [weight, hmainTasks]
    omega
  | ui task rest hidle huiTasks =>
    refine (weight_runUITask { panel with uiTasks := rest } task hidle).trans_le ?_
    simp [weight, huiTasks]
    omega

/-- There is a step unless the panel is at rest. -/
theorem exists_work (formTypes : FormID → FormType) (accepts delivers : Bool) (panel : Panel)
    (h : ¬ AtRest panel) : ∃ panel', Work formTypes accepts delivers panel panel' := by
  cases hrunning : panel.running with
  | cons op rest => exact ⟨_, .op panel op rest hrunning⟩
  | nil =>
    cases hmainTasks : panel.mainTasks with
    | cons task rest => exact ⟨_, .main panel .inventory task rest hmainTasks⟩
    | nil =>
      cases huiTasks : panel.uiTasks with
      | cons task rest => exact ⟨_, .ui panel task rest hrunning huiTasks⟩
      | nil => exact absurd ⟨hrunning, hmainTasks, huiTasks⟩ h

/-- In whatever order the two threads take their steps, there are finitely many, and where
there is none left the panel is at rest. -/
structure ComesToRest (formTypes : FormID → FormType) (panel : Panel) : Prop where
  finite : Acc (fun next now => Work formTypes true true now next) panel
  ends : ∀ now, Relation.ReflTransGen (Work formTypes true true) panel now →
    AtRest now ∨ ∃ next, Work formTypes true true now next

theorem comesToRest (formTypes : FormID → FormType) (panel : Panel) :
    ComesToRest formTypes panel where
  finite :=
    have hless : ∀ next now, Work formTypes true true now next → next.weight < now.weight :=
      fun _ _ hwork => weight_work hwork
    (Subrelation.wf (hless _ _) (measure Panel.weight).wf).apply panel
  ends now _ := by
    by_cases hrest : AtRest now
    · exact .inl hrest
    · exact .inr (exists_work formTypes true true now hrest)

end Weight

/-! ## A request makes good what was refused -/

section Recovery

variable {formTypes : FormID → FormType} {panel panel' : Panel} {call : JsCall}

/-- Every part is up to date as far as it is known, or will be built again. -/
structure Recovering (panel : Panel) : Prop where
  pending : panel.refreshPending = false
  clears : ∀ call, panel.owed call = false ∨ (∃ op ∈ panel.running, op.Refreshes call) ∨
    sendsOf call panel.mainTasks ≠ []

/-- An operation does what it is there for, where nothing is refused or lost. -/
theorem Recovering.runOp {op : Op} {rest : List Op} (h : Recovering panel)
    (hrunning : panel.running = op :: rest) :
    Recovering ({ panel with running := rest }.runOp true true op) := by
  have hrest : ∀ c, ¬ op.Refreshes c → panel.owed c = false ∨ (∃ op ∈ rest, op.Refreshes c) ∨
      sendsOf c panel.mainTasks ≠ [] := by
    intro c hnot
    rcases h.clears c with howed | ⟨op', hmem, hrefreshes⟩ | hsends
    · exact .inl howed
    · rw [hrunning] at hmem
      rcases List.mem_cons.mp hmem with rfl | hmem
      · exact absurd hrefreshes hnot
      · exact .inr (.inl ⟨op', hmem, hrefreshes⟩)
    · exact .inr (.inr hsends)
  -- a task is queued behind what is there
  have hqueued : ∀ (task : MainTask) c, sendsOf c [task] ≠ [] ∨ ¬ op.Refreshes c →
      panel.owed c = false ∨ (∃ op ∈ rest, op.Refreshes c) ∨
        sendsOf c (panel.mainTasks ++ [task]) ≠ [] := by
    intro task c hc
    rw [sendsOf_append]
    rcases hc with hsends | hnot
    · exact .inr (.inr fun h => hsends (List.append_eq_nil_iff.mp h).2)
    · exact (hrest c hnot).imp_right
        (Or.imp_right fun hsends h => hsends (List.append_eq_nil_iff.mp h).1)
  have hsend : ∀ (c' : JsCall) (req : Option InventoryRequest) c, (op.Refreshes c → c = c') →
      sendsOf c [.send c' req] ≠ [] ∨ ¬ op.Refreshes c := by
    intro c' req c honly
    by_cases hc : op.Refreshes c
    · rw [sendsOf_send, if_pos (honly hc).symm]
      exact .inl (List.cons_ne_nil _ _)
    · exact .inr hc
  cases op with
  | flushPendingUIRefresh =>
    unfold Panel.runOp
    rw [if_neg (by rw [h.pending]; exact Bool.false_ne_true)]
    exact ⟨h.pending, fun c => hrest c id⟩
  | sendStateToUI =>
    refine ⟨h.pending, fun c => ?_⟩
    by_cases hc : c = .setState
    · exact .inl (if_pos hc)
    · exact (hrest c hc).imp_left fun howed => (if_neg hc).trans howed
  | queueSendLastInventory =>
    exact ⟨h.pending, fun c => hqueued _ c (hsend .setInventory _ c id)⟩
  | queueSendInventory req =>
    exact ⟨h.pending, fun c => hqueued _ c (hsend .setInventory _ c id)⟩
  | queueSend c' => exact ⟨h.pending, fun c => hqueued _ c (hsend c' _ c id)⟩
  | queueHandle action => exact ⟨h.pending, fun c => hqueued _ c (.inr id)⟩

theorem Recovering.runMainTask {task : MainTask} {rest : List MainTask} (h : Recovering panel)
    (source : QuickListSource) (hmainTasks : panel.mainTasks = task :: rest) :
    Recovering ({ panel with mainTasks := rest }.runMainTask formTypes source true task) := by
  unfold Panel.runMainTask
  cases task with
  | send c req =>
    obtain ⟨quickList, blockedSince, hframe⟩ :=
      build_frame { panel with mainTasks := rest } source c
    dsimp only
    rw [hframe, if_pos rfl]
    refine ⟨h.pending, fun c' => ?_⟩
    by_cases hc : c' = c
    · exact .inl (if_pos hc)
    · have hclears := h.clears c'
      rw [hmainTasks, sendsOf_send, if_neg (Ne.symm hc), List.nil_append] at hclears
      exact hclears.imp_left fun howed => (if_neg hc).trans howed
  | handle action =>
    obtain ⟨quickList, blockedSince, hframe⟩ :=
      perform_frame formTypes action { panel with mainTasks := rest }
    dsimp only
    rw [hframe, if_pos rfl]
    refine ⟨h.pending, fun c => ?_⟩
    have hclears := h.clears c
    rw [hmainTasks] at hclears
    exact hclears

theorem Recovering.runUITask {task : UITask} {rest : List UITask} (h : Recovering panel)
    (hidle : panel.running = []) :
    Recovering ({ panel with uiTasks := rest }.runUITask true task) := by
  cases task with
  | set c payload => exact ⟨h.pending, h.clears⟩
  | present action =>
    refine ⟨h.pending, fun c => (h.clears c).imp_right (Or.imp_left ?_)⟩
    rintro ⟨op, hmem, -⟩
    rw [hidle] at hmem
    exact absurd hmem List.not_mem_nil

theorem Recovering.work (h : Recovering panel) (hwork : Work formTypes true true panel panel') :
    Recovering panel' := by
  cases hwork with
  | op op rest hrunning => exact h.runOp hrunning
  | main source task rest hmainTasks => exact h.runMainTask source hmainTasks
  | ui task rest hidle huiTasks => exact h.runUITask hidle

/-- The refresh that was pending has begun, or it is next on the UI thread. -/
theorem recovering_or_next {ops : List Op}
    (h : panel.refreshPending = true ∧ panel.running = .flushPendingUIRefresh :: ops)
    (hwork : Work formTypes true true panel panel') :
    Recovering panel' ∨
      panel'.refreshPending = true ∧ panel'.running = .flushPendingUIRefresh :: ops := by
  obtain ⟨hpending, hrunning⟩ := h
  cases hwork with
  | op op rest hop =>
    obtain ⟨rfl, rfl⟩ := List.cons.inj (hrunning.symm.trans hop)
    refine .inl ?_
    unfold Panel.runOp
    rw [if_pos hpending]
    refine ⟨rfl, fun c => .inr (.inl ?_)⟩
    obtain ⟨op, hmem, hrefreshes⟩ := refreshes_refreshAll c
    exact ⟨op, List.mem_append_left _ hmem, hrefreshes⟩
  | main source task rest hmainTasks =>
    refine .inr ?_
    unfold Panel.runMainTask
    cases task with
    | send c req =>
      obtain ⟨quickList, blockedSince, hframe⟩ :=
        build_frame { panel with mainTasks := rest } source c
      dsimp only
      rw [hframe, if_pos rfl]
      exact ⟨hpending, hrunning⟩
    | handle action =>
      obtain ⟨quickList, blockedSince, hframe⟩ :=
        perform_frame formTypes action { panel with mainTasks := rest }
      dsimp only
      rw [hframe, if_pos rfl]
      exact ⟨hpending, hrunning⟩
  | ui task rest hidle huiTasks => exact absurd (hrunning.symm.trans hidle) (List.cons_ne_nil _ _)

/-- Requests that do not change the state flush first. -/
theorem ops_of_not_change {request : Request} (h : ∀ action, request ≠ .change action) :
    ∃ ops, request.ops = .flushPendingUIRefresh :: ops := by
  cases request with
  | change action => exact absurd rfl (h action)
  | _ => exact ⟨_, rfl⟩

/-- After a task was refused by the main queue, the next request of the page that does not
change the state makes good for it: when nothing is refused or lost from then on, the two
threads come to rest, whatever the order in which they run, and at rest no refresh is
pending and every part of the page is up to date. -/
theorem request_recovers (hreachable : (system formTypes).Reachable panel)
    (hidle : panel.running = []) (hpending : panel.refreshPending = true) {request : Request}
    (hrequest : ∀ action, request ≠ .change action) :
    ComesToRest formTypes { panel with running := request.ops } ∧
      ∀ rest, Relation.ReflTransGen (Work formTypes true true)
        { panel with running := request.ops } rest → AtRest rest →
        rest.refreshPending = false ∧
          ∀ call, ∃ payload, rest.shown call = some payload ∧ rest.UpToDate call payload := by
  obtain ⟨ops, hops⟩ := ops_of_not_change hrequest
  have hasked := hreachable.step (.request panel request hidle)
  have hrun : ∀ {panel'}, Relation.ReflTransGen (Work formTypes true true)
      { panel with running := request.ops } panel' →
      (system formTypes).Reachable panel' ∧ (Recovering panel' ∨
        panel'.refreshPending = true ∧ panel'.running = .flushPendingUIRefresh :: ops) := by
    intro panel' hrun
    induction hrun with
    | refl => exact ⟨hasked, .inr ⟨hpending, hops⟩⟩
    | tail _ hwork ih =>
      obtain ⟨hbefore, hstate⟩ := ih
      refine ⟨hbefore.step (.work _ _ true true hwork), ?_⟩
      rcases hstate with hrecovering | hnext
      · exact .inl (hrecovering.work hwork)
      · exact recovering_or_next hnext hwork
  refine ⟨comesToRest formTypes _, fun rest hfinal hrest => ?_⟩
  obtain ⟨hrestReachable, hrecovering | ⟨-, hrunning⟩⟩ := hrun hfinal
  · refine ⟨hrecovering.pending, fun call => ?_⟩
    refine shown_at_rest hrestReachable hrest hrecovering.pending call ?_
    rcases hrecovering.clears call with howed | ⟨op, hmem, -⟩ | hsends
    · exact howed
    · rw [hrest.running] at hmem
      exact absurd hmem List.not_mem_nil
    · rw [hrest.mainTasks] at hsends
      exact absurd rfl hsends
  · exact absurd (hrunning.symm.trans hrest.running) (List.cons_ne_nil _ _)

/-- The list of registered items was asked for, and the main queue refused to build it. -/
def refused : Panel := { state := newGameState, refreshPending := true }

theorem reachable_refused : (system fun _ => FormType.Weapon).Reachable refused := by
  have hstart : (system fun _ => FormType.Weapon).Reachable { state := newGameState } :=
    .of_init ⟨newGameState, rfl⟩
  have hasked := hstart.step (.request _ .registered rfl)
  have hflushed := hasked.step (.work _ _ true true (.op _ _ _ rfl))
  have hrefused := hflushed.step (.work _ _ false true (.op _ _ _ rfl))
  exact hrefused

theorem request_recovers_refused :
    ComesToRest (fun _ => FormType.Weapon) { refused with running := Request.state.ops } ∧
      ∀ rest, Relation.ReflTransGen (Work (fun _ => FormType.Weapon) true true)
        { refused with running := Request.state.ops } rest → AtRest rest →
        rest.refreshPending = false ∧
          ∀ call, ∃ payload, rest.shown call = some payload ∧ rest.UpToDate call payload :=
  request_recovers reachable_refused rfl rfl nofun

end Recovery

end Panel

end CodexOfPower.PrismaUIManager
