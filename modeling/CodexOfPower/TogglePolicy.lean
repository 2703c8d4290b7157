/-
# `CodexOfPower.TogglePolicy` — when the hotkey toggles the panel

A press of the hotkey, or a request of the page, queues a UI task, and the task asks
`CanToggleNow` before it opens or closes the panel: not before a game is loaded, not
within two seconds after that, not in an application menu and not within 350 ms of the
last task that was let through.  One that is let through still needs a view: where there
is none and none can be made, it toggles nothing, but it counts for the 350 ms.

The policy keeps three values, and what comes before a load resets all of them, the time
of the last task too.  Nothing is lost by that: the two seconds after the load cover the
350 ms.  So the answer is what the whole history says (`history_decides`), in every run
of messages, inputs, requests and tasks.

Not said here is what the view does once it is told to open or to close: that is up to
PrismaUI, and to `CodexOfPower.FocusDelay` as far as the focus goes.

`NowMs` is the count of a steady clock, a positive `std::int64_t`, so that no sum of a
time and a delay wraps.
-/
import CodexOfPower.Lib.Transition
import CodexOfPower.Settings
import Mathlib.Tactic.SplitIfs

namespace CodexOfPower.PrismaUIManager

/-! ## The policy -/

structure TogglePolicy where
  toggleAllowed : Bool := false
  toggleAllowedAtMs : UInt64 := 0
  lastToggleMs : UInt64 := 0

namespace TogglePolicy

def kToggleDebounceMs : UInt64 := 350

/-- The grace that `OnGameLoaded` passes. -/
def graceMs : UInt64 := 2000

structure Menus where
  mainMenu : Bool
  loadingMenu : Bool

/-- What the game answers a task. -/
structure Game where
  /-- `RE::UI`, where it exists. -/
  ui : Option Menus
  /-- `RE::Main`, where it exists: whether the game runs. -/
  main : Option Bool

def Game.applicationMenuOpen (game : Game) : Bool :=
  game.ui.any fun menus => menus.mainMenu || menus.loadingMenu

def resetTogglePolicyForPreLoad (_ : TogglePolicy) : TogglePolicy where
  toggleAllowed := false
  toggleAllowedAtMs := 0
  lastToggleMs := 0

def armTogglePolicyAfterGameLoaded (policy : TogglePolicy) (nowMs graceMs : UInt64) :
    TogglePolicy :=
  { policy with toggleAllowed := true, toggleAllowedAtMs := nowMs + graceMs }

def canToggleNow (policy : TogglePolicy) (game : Game) (nowMs debounceMs : UInt64) :
    TogglePolicy × Bool :=
  if !policy.toggleAllowed then (policy, false)
  else if 0 < policy.toggleAllowedAtMs && nowMs < policy.toggleAllowedAtMs then (policy, false)
  else if game.applicationMenuOpen then (policy, false)
  else if game.main ≠ some true then (policy, false)
  else if 0 < policy.lastToggleMs && nowMs < policy.lastToggleMs + debounceMs then
    (policy, false)
  else ({ policy with lastToggleMs := nowMs }, true)

/-! ## The hotkey -/

structure ButtonEvent where
  /-- `GetDevice` is the keyboard. -/
  keyboard : Bool
  idCode : UInt32
  isUp : Bool
  isDown : Bool
  isRepeating : Bool

/-- `InputEventSink::ProcessEvent` on the events of one call, those that are no button
as `none`: the flag after it, and whether it calls `ToggleUI`, which ends the call. -/
def processEvent (settings : Settings) (toggleKeyDown : Bool) :
    List (Option ButtonEvent) → Bool × Bool
  | [] => (toggleKeyDown, false)
  | none :: rest => processEvent settings toggleKeyDown rest
  | some button :: rest =>
    if !button.keyboard then processEvent settings toggleKeyDown rest
    else if button.idCode ≠ settings.toggleKeyCode then processEvent settings toggleKeyDown rest
    else if button.isUp then processEvent settings false rest
    else if button.isDown && (!button.isRepeating && !toggleKeyDown) then (true, true)
    else processEvent settings toggleKeyDown rest

def ButtonEvent.isRelease (settings : Settings) (button : ButtonEvent) : Bool :=
  button.keyboard && (button.idCode == settings.toggleKeyCode && button.isUp)

def releases (settings : Settings) (events : List (Option ButtonEvent)) : Nat :=
  events.countP fun event => event.any (ButtonEvent.isRelease settings)

/-! ## The transition -/

/-- What the view answers: whether it is ready before and after `EnsureCreatedOnUIThread`,
whether that has created it, and whether it is hidden. -/
structure View where
  readyBefore : Bool
  createdNow : Bool
  ready : Bool
  hidden : Bool

inductive Transition
  | viewNotReady
  /-- The view was created; it opens when its DOM is ready. -/
  | willOpen
  | queueOpenTransition
  | queueCloseTransition
deriving DecidableEq

def executeToggleTransition (view : View) : Transition :=
  if !view.ready then .viewNotReady
  else if !view.readyBefore && view.createdNow then .willOpen
  else if view.hidden then .queueOpenTransition
  else .queueCloseTransition

/-! ## What the history allows -/

/-- The two messages about a load, and the tasks that were let through. -/
inductive Entry
  | preLoadGame
  | gameLoaded (nowMs : UInt64)
  | letThrough (nowMs : UInt64)
deriving DecidableEq

/-- The time until which the entry lets no task through. -/
def Entry.blocksUntil : Entry → Nat
  | .preLoadGame => 0
  | .gameLoaded nowMs => nowMs.toNat + 2000
  | .letThrough nowMs => nowMs.toNat + 350

def Entry.timeMs : Entry → Nat
  | .preLoadGame => 0
  | .gameLoaded nowMs => nowMs.toNat
  | .letThrough nowMs => nowMs.toNat

def Entry.isLetThrough : Entry → Bool
  | .letThrough _ => true
  | _ => false

/-- The last message says that a game was loaded; the newest entry comes first. -/
def isLoaded : List Entry → Bool
  | [] => false
  | .preLoadGame :: _ => false
  | .gameLoaded _ :: _ => true
  | .letThrough _ :: earlier => isLoaded earlier

/-- A game is loaded, and the delays are over, of every load and of every task that was
let through. -/
def MayToggle (history : List Entry) (nowMs : UInt64) : Prop :=
  isLoaded history = true ∧ ∀ entry ∈ history, entry.blocksUntil ≤ nowMs.toNat

def Game.Active (game : Game) : Prop :=
  game.applicationMenuOpen = false ∧ game.main = some true

/-! ## Runs -/

structure Run where
  nowMs : UInt64
  policy : TogglePolicy := {}
  toggleKeyDown : Bool := false
  /-- How many tasks of `ToggleUI` have not run. -/
  queued : Nat := 0
  history : List Entry := []
  /-- How often the key went up, how often the page asked, and how often the panel was
  told to open or to close. -/
  releases : Nat := 0
  requests : Nat := 0
  toggles : Nat := 0

namespace Run

def onPreLoadGame (run : Run) : Run :=
  { run with
    policy := run.policy.resetTogglePolicyForPreLoad
    history := .preLoadGame :: run.history }

def onGameLoaded (run : Run) : Run :=
  { run with
    policy := run.policy.armTogglePolicyAfterGameLoaded run.nowMs graceMs
    history := .gameLoaded run.nowMs :: run.history }

/-- `ToggleUI`, where the task interface accepts the task or does not exist. -/
def toggleUI (run : Run) (accepts : Bool) : Run :=
  if accepts then { run with queued := run.queued + 1 } else run

def input (run : Run) (settings : Settings) (events : List (Option ButtonEvent))
    (accepts : Bool) : Run :=
  let (toggleKeyDown, toggles) := processEvent settings run.toggleKeyDown events
  let run := { run with
    toggleKeyDown
    releases := run.releases + TogglePolicy.releases settings events }
  if toggles then run.toggleUI accepts else run

def onJsRequestToggle (run : Run) (accepts : Bool) : Run :=
  { run.toggleUI accepts with requests := run.requests + 1 }

/-- The task that `ToggleUI` queues. -/
def runTask (run : Run) (game : Game) (view : View) : Run :=
  match run.policy.canToggleNow game run.nowMs kToggleDebounceMs with
  | (policy, false) => { run with policy }
  | (policy, true) =>
    { run with
      policy
      history := .letThrough run.nowMs :: run.history
      toggles := run.toggles + if executeToggleTransition view = .viewNotReady then 0 else 1 }

end Run

inductive Step : Run → Run → Prop
  | tick (run : Run) (later : UInt64) (hle : run.nowMs ≤ later) (hclock : later.toNat < 2 ^ 63) :
      Step run { run with nowMs := later }
  | preLoadGame (run : Run) : Step run run.onPreLoadGame
  | gameLoaded (run : Run) : Step run run.onGameLoaded
  | input (run : Run) (settings : Settings) (events : List (Option ButtonEvent))
      (accepts : Bool) : Step run (run.input settings events accepts)
  | request (run : Run) (accepts : Bool) : Step run (run.onJsRequestToggle accepts)
  | task (run : Run) (game : Game) (view : View) (queued : Nat)
      (hqueued : run.queued = queued + 1) : Step run ({ run with queued }.runTask game view)

/-- The plugin starts with nothing, at a positive time. -/
def system : TransitionSystem Run where
  init run := 0 < run.nowMs.toNat ∧ run.nowMs.toNat < 2 ^ 63 ∧ run = { nowMs := run.nowMs }
  step := Step

/-- Every task that was let through was allowed by what came before it; the next one is
let through exactly if the history allows it and the game is active, and it toggles the
panel exactly if the view is ready besides; and there are no more toggles than presses
of the key, each after a release, and requests. -/
structure Decided (run : Run) : Prop where
  past : ∀ nowMs earlier, .letThrough nowMs :: earlier <:+ run.history → MayToggle earlier nowMs
  next : ∀ game, (run.policy.canToggleNow game run.nowMs kToggleDebounceMs).2 = true ↔
    game.Active ∧ MayToggle run.history run.nowMs
  toggles : ∀ game view, (run.runTask game view).toggles ≠ run.toggles ↔
    game.Active ∧ MayToggle run.history run.nowMs ∧ view.ready = true
  presses : run.toggles ≤ run.releases + 1 + run.requests

/-! ## One answer -/

section OneAnswer

variable {policy : TogglePolicy} {game : Game} {nowMs start delay debounceMs : UInt64}

/-- A yes keeps the time, and a no changes nothing. -/
theorem canToggleNow_cases (policy : TogglePolicy) (game : Game) (nowMs debounceMs : UInt64) :
    policy.canToggleNow game nowMs debounceMs = (policy, false) ∨
      policy.canToggleNow game nowMs debounceMs =
        ({ policy with lastToggleMs := nowMs }, true) := by
  unfold canToggleNow
  split_ifs
  · exact .inl rfl
  · exact .inl rfl
  · exact .inl rfl
  · exact .inl rfl
  · exact .inl rfl
  · exact .inr rfl

theorem canToggleNow_eq_true_iff :
    (policy.canToggleNow game nowMs debounceMs).2 = true ↔
      game.Active ∧ policy.toggleAllowed = true ∧
        ¬ (0 < policy.toggleAllowedAtMs ∧ nowMs < policy.toggleAllowedAtMs) ∧
        ¬ (0 < policy.lastToggleMs ∧ nowMs < policy.lastToggleMs + debounceMs) := by
  unfold canToggleNow Game.Active
  split_ifs <;> simp_all

/-- Before the end of a delay, in numbers. -/
theorem lt_add_iff_of_lt (hstart : start.toNat < 2 ^ 63) (hdelay : delay.toNat < 2 ^ 63) :
    nowMs < start + delay ↔ nowMs.toNat < start.toNat + delay.toNat := by
  have hsum : (start + delay).toNat = start.toNat + delay.toNat := by
    rw [UInt64.toNat_add]
    exact Nat.mod_eq_of_lt (by omega)
  rw [UInt64.lt_iff_toNat_lt, hsum]

end OneAnswer

/-! ## What the policy knows of the history -/

section Memory

variable {policy : TogglePolicy} {history : List Entry} {nowMs later : UInt64}

/-- The policy knows the last load, if a game is loaded, and the last task, unless a
load came after it. -/
structure Remembers (policy : TogglePolicy) (history : List Entry) (nowMs : UInt64) : Prop where
  clock : 0 < nowMs.toNat ∧ nowMs.toNat < 2 ^ 63
  times : ∀ entry ∈ history, entry.timeMs ≤ nowMs.toNat
  allowed : policy.toggleAllowed = isLoaded history
  grace : isLoaded history = true → ∃ loadedMs, .gameLoaded loadedMs ∈ history ∧
    policy.toggleAllowedAtMs = loadedMs + graceMs ∧
    ∀ earlierMs, .gameLoaded earlierMs ∈ history → earlierMs.toNat ≤ loadedMs.toNat
  last : 0 < policy.lastToggleMs.toNat → .letThrough policy.lastToggleMs ∈ history
  latest : isLoaded history = true → ∀ toggledMs, .letThrough toggledMs ∈ history →
    toggledMs.toNat ≤ policy.lastToggleMs.toNat ∨
      ∃ loadedMs, .gameLoaded loadedMs ∈ history ∧ toggledMs.toNat ≤ loadedMs.toNat

theorem Remembers.last_lt (h : Remembers policy history nowMs) :
    policy.lastToggleMs.toNat < 2 ^ 63 := by
  by_cases hlast : 0 < policy.lastToggleMs.toNat
  · have hle : policy.lastToggleMs.toNat ≤ nowMs.toNat := h.times _ (h.last hlast)
    exact lt_of_le_of_lt hle h.clock.2
  · omega

/-- What the policy keeps is enough to answer for the whole history. -/
theorem Remembers.canToggleNow_iff (h : Remembers policy history nowMs) (game : Game) :
    (policy.canToggleNow game nowMs kToggleDebounceMs).2 = true ↔
      game.Active ∧ MayToggle history nowMs := by
  rw [canToggleNow_eq_true_iff, h.allowed]
  refine and_congr_right fun _ => and_congr_right fun hloaded => ?_
  obtain ⟨loadedMs, hmem, hat, hlatest⟩ := h.grace hloaded
  have hloadedMs : loadedMs.toNat ≤ nowMs.toNat := h.times _ hmem
  have hclock := h.clock.2
  have hgrace : 0 < policy.toggleAllowedAtMs ∧ nowMs < policy.toggleAllowedAtMs ↔
      nowMs.toNat < loadedMs.toNat + 2000 := by
    have hlt : loadedMs.toNat < 2 ^ 63 := lt_of_le_of_lt hloadedMs hclock
    rw [hat, lt_add_iff_of_lt hlt (by decide), lt_add_iff_of_lt hlt (by decide)]
    exact and_iff_right (Nat.lt_of_lt_of_le (by decide) (Nat.le_add_left ..))
  have hdebounce : 0 < policy.lastToggleMs ∧ nowMs < policy.lastToggleMs + kToggleDebounceMs ↔
      0 < policy.lastToggleMs.toNat ∧ nowMs.toNat < policy.lastToggleMs.toNat + 350 := by
    rw [lt_add_iff_of_lt h.last_lt (by decide), UInt64.lt_iff_toNat_lt]
    rfl
  rw [hgrace, hdebounce]
  constructor
  · rintro ⟨hgraced, hdebounced⟩ entry hentry
    cases entry with
    | preLoadGame => exact Nat.zero_le _
    | gameLoaded earlierMs =>
      have hle := hlatest earlierMs hentry
      show earlierMs.toNat + 2000 ≤ nowMs.toNat
      omega
    | letThrough toggledMs =>
      show toggledMs.toNat + 350 ≤ nowMs.toNat
      rcases h.latest hloaded toggledMs hentry with hle | ⟨afterMs, hafter, hle⟩
      · omega
      · -- the task is from before a load, whose grace is over
        have hafterMs := hlatest afterMs hafter
        omega
  · intro hentries
    have hgraced : loadedMs.toNat + 2000 ≤ nowMs.toNat := hentries _ hmem
    refine ⟨by omega, fun ⟨hpos, hlt⟩ => ?_⟩
    have hdebounced : policy.lastToggleMs.toNat + 350 ≤ nowMs.toNat := hentries _ (h.last hpos)
    omega

theorem Remembers.tick (h : Remembers policy history nowMs) (hle : nowMs ≤ later)
    (hclock : later.toNat < 2 ^ 63) : Remembers policy history later := by
  have hle := UInt64.le_iff_toNat_le.mp hle
  exact { h with
    clock := ⟨lt_of_lt_of_le h.clock.1 hle, hclock⟩
    times := fun entry hentry => (h.times entry hentry).trans hle }

theorem Remembers.preLoadGame (h : Remembers policy history nowMs) :
    Remembers policy.resetTogglePolicyForPreLoad (.preLoadGame :: history) nowMs where
  clock := h.clock
  times := List.forall_mem_cons.mpr ⟨Nat.zero_le _, h.times⟩
  allowed := rfl
  grace hloaded := Bool.noConfusion hloaded
  last hpos := absurd hpos (Nat.lt_irrefl 0)
  latest hloaded := Bool.noConfusion hloaded

theorem Remembers.gameLoaded (h : Remembers policy history nowMs) :
    Remembers (policy.armTogglePolicyAfterGameLoaded nowMs graceMs)
      (.gameLoaded nowMs :: history) nowMs where
  clock := h.clock
  times := List.forall_mem_cons.mpr ⟨Nat.le_refl _, h.times⟩
  allowed := rfl
  grace _ := by
    refine ⟨nowMs, List.mem_cons_self, rfl, fun earlierMs hmem => ?_⟩
    rcases List.mem_cons.mp hmem with heq | hmem
    · rw [Entry.gameLoaded.inj heq]
    · exact h.times _ hmem
  last hpos := List.mem_cons_of_mem _ (h.last hpos)
  latest _ toggledMs hmem := by
    rcases List.mem_cons.mp hmem with heq | hmem
    · cases heq
    · exact .inr ⟨nowMs, List.mem_cons_self, h.times _ hmem⟩

theorem Remembers.letThrough (h : Remembers policy history nowMs) :
    Remembers { policy with lastToggleMs := nowMs } (.letThrough nowMs :: history) nowMs where
  clock := h.clock
  times := List.forall_mem_cons.mpr ⟨Nat.le_refl _, h.times⟩
  allowed := h.allowed
  grace hloaded := by
    obtain ⟨loadedMs, hmem, hat, hlatest⟩ := h.grace hloaded
    refine ⟨loadedMs, List.mem_cons_of_mem _ hmem, hat, fun earlierMs hearlier => ?_⟩
    rcases List.mem_cons.mp hearlier with heq | hearlier
    · cases heq
    · exact hlatest earlierMs hearlier
  last _ := List.mem_cons_self
  latest _ toggledMs hmem := by
    refine .inl ?_
    rcases List.mem_cons.mp hmem with heq | hmem
    · rw [Entry.letThrough.inj heq]
    · exact h.times _ hmem

end Memory

/-! ## The presses -/

/-- Between two presses that toggle, whatever the calls, the key goes up. -/
theorem processEvent_presses (settings : Settings) (events : List (Option ButtonEvent))
    (toggleKeyDown : Bool) :
    (processEvent settings toggleKeyDown events).2.toNat + toggleKeyDown.toNat ≤
      (processEvent settings toggleKeyDown events).1.toNat + releases settings events := by
  induction events generalizing toggleKeyDown with
  | nil => exact (Nat.zero_add _).le
  | cons event rest ih =>
    have hmono : releases settings rest ≤ releases settings (event :: rest) :=
      List.Sublist.countP_le (List.sublist_cons_self event rest)
    have hskip := (ih toggleKeyDown).trans (Nat.add_le_add_left hmono _)
    cases event with
    | none => exact hskip
    | some button =>
      unfold processEvent
      split_ifs with hkeyboard hcode hup hdown
      · exact hskip
      · exact hskip
      · have hrelease : button.isRelease settings = true := by
          simp_all [ButtonEvent.isRelease]
        have hreleases : releases settings (some button :: rest) = releases settings rest + 1 :=
          List.countP_cons_of_pos hrelease
        have hnext := ih false
        have hflag := toggleKeyDown.toNat_le
        rw [hreleases]
        simp only [Bool.toNat_false, Nat.add_zero] at hnext
        omega
      · -- the flag was not set
        have hflag : toggleKeyDown = false := by simp_all
        rw [hflag]
        exact Nat.le_add_right _ _
      · exact hskip

/-! ## Every run -/

section Invariant

variable {run after : Run}

structure Kept (run : Run) : Prop where
  remembers : Remembers run.policy run.history run.nowMs
  past : ∀ nowMs earlier, .letThrough nowMs :: earlier <:+ run.history → MayToggle earlier nowMs
  toggles : run.toggles ≤ run.history.countP Entry.isLetThrough
  presses : run.history.countP Entry.isLetThrough + run.queued ≤
    run.releases + run.toggleKeyDown.toNat + run.requests

theorem kept_init (h : system.init run) : Kept run := by
  obtain ⟨hpos, hlt, hrun⟩ := h
  rw [hrun]
  exact {
    remembers := {
      clock := ⟨hpos, hlt⟩
      times := fun _ hmem => absurd hmem List.not_mem_nil
      allowed := rfl
      grace := fun hloaded => Bool.noConfusion hloaded
      last := fun hlast => absurd hlast (Nat.lt_irrefl 0)
      latest := fun hloaded => Bool.noConfusion hloaded }
    past := fun _ _ hsuffix => absurd (List.suffix_nil.mp hsuffix) (List.cons_ne_nil _ _)
    toggles := Nat.le_refl 0
    presses := Nat.le_refl 0 }

/-- Only the count may change where neither the policy nor the history does. -/
theorem Kept.recount (h : Kept run) {toggleKeyDown : Bool} {queued releases requests : Nat}
    (hpresses : run.history.countP Entry.isLetThrough + queued ≤
      releases + toggleKeyDown.toNat + requests) :
    Kept { run with toggleKeyDown, queued, releases, requests } :=
  ⟨h.remembers, h.past, h.toggles, hpresses⟩

theorem Kept.input (h : Kept run) (settings : Settings) (events : List (Option ButtonEvent))
    (accepts : Bool) : Kept (run.input settings events accepts) := by
  have hbefore := h.presses
  have hevents := processEvent_presses settings events run.toggleKeyDown
  unfold Run.input
  generalize processEvent settings run.toggleKeyDown events = result at hevents ⊢
  obtain ⟨toggleKeyDown, toggles⟩ := result
  dsimp only at hevents ⊢
  -- a press that queues no task
  have hsilent (hcount : run.toggleKeyDown.toNat ≤
      toggleKeyDown.toNat + releases settings events) : Kept { run with
        toggleKeyDown
        releases := run.releases + releases settings events } :=
    h.recount (by omega)
  cases toggles with
  | false => exact hsilent ((Nat.zero_add _).symm.le.trans hevents)
  | true =>
    rw [Bool.toNat_true] at hevents
    cases accepts with
    | false => exact hsilent (by omega)
    | true =>
      show Kept { run with
        toggleKeyDown
        queued := run.queued + 1
        releases := run.releases + releases settings events }
      exact h.recount (by omega)

theorem Kept.request (h : Kept run) (accepts : Bool) : Kept (run.onJsRequestToggle accepts) := by
  have hbefore := h.presses
  cases accepts with
  | false =>
    show Kept { run with requests := run.requests + 1 }
    exact h.recount (by omega)
  | true =>
    show Kept { run with queued := run.queued + 1, requests := run.requests + 1 }
    exact h.recount (by omega)

/-- A task that is let through was allowed to toggle. -/
theorem Kept.runTask (h : Kept run) (game : Game) (view : View) {queued : Nat}
    (hqueued : run.queued = queued + 1) : Kept ({ run with queued }.runTask game view) := by
  have hbefore := h.presses
  have hiff := h.remembers.canToggleNow_iff game
  unfold Run.runTask
  rcases canToggleNow_cases run.policy game run.nowMs kToggleDebounceMs with hno | hyes
  · dsimp only
    rw [hno]
    exact h.recount (by omega)
  · rw [hyes] at hiff
    dsimp only
    rw [hyes]
    have hmay : MayToggle run.history run.nowMs := (hiff.mp rfl).2
    have hcount : (Entry.letThrough run.nowMs :: run.history).countP Entry.isLetThrough =
        run.history.countP Entry.isLetThrough + 1 := List.countP_cons_of_pos rfl
    refine ⟨h.remembers.letThrough, fun nowMs earlier hsuffix => ?_, ?_, ?_⟩
    · rcases List.suffix_cons_iff.mp hsuffix with heq | hsuffix
      · obtain ⟨hentry, rfl⟩ := List.cons.inj heq
        rw [Entry.letThrough.inj hentry]
        exact hmay
      · exact h.past nowMs earlier hsuffix
    · have htoggles := h.toggles
      show run.toggles + _ ≤ (Entry.letThrough run.nowMs :: run.history).countP _
      rw [hcount]
      split_ifs <;> omega
    · show (Entry.letThrough run.nowMs :: run.history).countP Entry.isLetThrough + queued ≤
        run.releases + run.toggleKeyDown.toNat + run.requests
      rw [hcount]
      omega

theorem Kept.message (h : Kept run) {policy : TogglePolicy} {entry : Entry}
    (hentry : entry.isLetThrough = false)
    (hremembers : Remembers policy (entry :: run.history) run.nowMs) :
    Kept { run with policy, history := entry :: run.history } := by
  have hcount : (entry :: run.history).countP Entry.isLetThrough =
      run.history.countP Entry.isLetThrough :=
    List.countP_cons_of_neg (Bool.eq_false_iff.mp hentry)
  refine ⟨hremembers, fun nowMs earlier hsuffix => ?_, ?_, ?_⟩
  · rcases List.suffix_cons_iff.mp hsuffix with heq | hsuffix
    · rw [← (List.cons.inj heq).1] at hentry
      cases hentry
    · exact h.past nowMs earlier hsuffix
  · show run.toggles ≤ (entry :: run.history).countP Entry.isLetThrough
    rw [hcount]
    exact h.toggles
  · show (entry :: run.history).countP Entry.isLetThrough + run.queued ≤ _
    rw [hcount]
    exact h.presses

theorem Kept.step (h : Kept run) (hstep : system.step run after) : Kept after := by
  cases hstep with
  | tick later hle hclock => exact ⟨h.remembers.tick hle hclock, h.past, h.toggles, h.presses⟩
  | preLoadGame => exact h.message rfl h.remembers.preLoadGame
  | gameLoaded => exact h.message rfl h.remembers.gameLoaded
  | input settings events accepts => exact h.input settings events accepts
  | request accepts => exact h.request accepts
  | task game view queued hqueued => exact h.runTask game view hqueued

theorem executeToggleTransition_eq_viewNotReady_iff {view : View} :
    executeToggleTransition view = .viewNotReady ↔ view.ready = false := by
  unfold executeToggleTransition
  split_ifs with hready hcreated hhidden <;> simp_all

/-- In every state of every run the tasks so far, and the answer to the next one, are what
the whole history allows, though the policy forgets the last one before a load. -/
theorem history_decides (h : system.Reachable run) : Decided run := by
  have hkept : Kept run := TransitionSystem.Invariant.reachable
    ⟨fun _ => kept_init, fun _ _ hkept hstep => hkept.step hstep⟩ h
  refine ⟨hkept.past, hkept.remembers.canToggleNow_iff, fun game view => ?_, ?_⟩
  · rw [← and_assoc, ← hkept.remembers.canToggleNow_iff game]
    unfold Run.runTask
    rcases canToggleNow_cases run.policy game run.nowMs kToggleDebounceMs with hno | hyes
    · rw [hno]
      simp
    · rw [hyes]
      simp [executeToggleTransition_eq_viewNotReady_iff]
  · have htoggles := hkept.toggles
    have hpresses := hkept.presses
    have hflag := run.toggleKeyDown.toNat_le
    omega

/-- Three seconds after a load. -/
def loaded : Run :=
  { ({ nowMs := 1000 } : Run).onGameLoaded with nowMs := 4000 }

def keyDown : ButtonEvent where
  keyboard := true
  idCode := 0x3E
  isUp := false
  isDown := true
  isRepeating := false

/-- The key is pressed, and the task of that press runs; the view was hidden. -/
def pressed : Run :=
  { loaded.input {} [some keyDown] true with queued := 0 }.runTask
    { ui := some ⟨false, false⟩, main := some true } ⟨true, false, true, true⟩

theorem history_decides_pressed :
    pressed.history = [.letThrough 4000, .gameLoaded 1000] ∧ pressed.toggles = 1 ∧
      Decided pressed := by
  have hstart : system.Reachable { nowMs := 1000 } := .of_init ⟨by decide, by decide, rfl⟩
  have hloaded : system.Reachable loaded :=
    (hstart.step (.gameLoaded _)).step (.tick _ 4000 (by decide) (by decide))
  have hpressed : system.Reachable pressed :=
    (hloaded.step (.input loaded {} [some keyDown] true)).step
      (.task (loaded.input {} [some keyDown] true) _ _ 0 (by decide))
  exact ⟨by decide, by decide, history_decides hpressed⟩

end Invariant

end TogglePolicy

end CodexOfPower.PrismaUIManager
