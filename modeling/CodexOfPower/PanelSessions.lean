/-
# `CodexOfPower.PanelSessions` — an option stands in one slot

`SetActiveSlot` does not ask whether the option is in another slot already.  The panel does:
it has no button to put it there again.  So that no option ever stands in two slots is a
property of the two together, and of how they take turns.  It holds in every session whose
slots are set by clicks on a page of the state that is then current, whatever else happens
in between, saves and loads included (`one_slot_each`).

## What is not said

A click on a page of an earlier state is no step of these sessions, nor is a call of the
plugin from elsewhere: without the panel an option can be put into two slots.  Swaps are
left out, as the panel has no button for one.
-/
import CodexOfPower.BuildPanel

namespace CodexOfPower

open RE Builds BuildProgression Registration PrismaUIManager BuildPanel BuildBridge
  Serialization SerializationStateStore

/-! ## Sessions of the panel -/

def Action.SetsSlot : Action → Prop
  | .activate .. | .deactivate .. | .swap .. => True
  | _ => False

/-- A button that the page of the state has. -/
inductive BuildPanel.Shown (library : ScriptLibrary) (state : RuntimeState Float32) :
    BuildPanel.Action → Prop
  | focused (selection : BuildSelection) (view : OptionView)
      (h : focusedView library (receive library state) (ensureBuildSelection library
        (receive library state) selection) = some view) : Shown library state view.action
  | slot (slot : ScriptValue) (h : slot ∈ (receive library state).activeSlots) :
      Shown library state (slotAction library (receive library state) slot)

inductive Session.PanelStep (formTypes : FormID → FormType) (library : ScriptLibrary) :
    Session → Session → Prop
  /-- A click, also one that is refused in combat. -/
  | click (session : Session) (avOwner : Option (ActorValue → Float32)) (inCombat : Bool)
      (action : BuildPanel.Action) (call : Call) (hshown : Shown library session.state action)
      (hclick : onBuildPanelClick action = some call) :
      PanelStep formTypes library session
        { session with state := (handleCall avOwner inCombat call session.state).1 }
  | act (session : Session) (action : Action) (h : ¬ action.SetsSlot) :
      PanelStep formTypes library session (session.act formTypes action)
  | save (session : Session) (accepts : Nat → Bool) (records : List Record)
      (h : save accepts session.state = (true, records)) :
      PanelStep formTypes library session { session with saves := records :: session.saves }
  | load (session : Session) (lookupFormType : FormTypeLookup)
      (cleanup : Snapshot Float32 → Bool) (avOwner : Option (ActorValue → Float32))
      (records : List Record) (h : records ∈ session.saves) :
      PanelStep formTypes library session { session with
        state := loadGame lookupFormType cleanup avOwner some records session.state }
  | newGame (session : Session) (lookupFormType : FormTypeLookup)
      (cleanup : Snapshot Float32 → Bool) (avOwner : Option (ActorValue → Float32)) :
      PanelStep formTypes library session { session with
        state := CodexOfPower.newGame lookupFormType cleanup avOwner session.state }

def panelSessions (formTypes : FormID → FormType) (library : ScriptLibrary) :
    TransitionSystem Session where
  init session := ∃ lookupFormType cleanup avOwner,
    session = { state := newGame lookupFormType cleanup avOwner {} }
  step := Session.PanelStep formTypes library

/-! ## The invariant -/

section OneSlot

variable {state state' : RuntimeState Float32}

def OneSlotEach (state : RuntimeState Float32) : Prop :=
  ∀ slotId other, state.activeBuildSlots slotId ≠ [] →
    state.activeBuildSlots other = state.activeBuildSlots slotId → other = slotId

/-- Slots are as before, or empty. -/
def Emptied (state state' : RuntimeState Float32) : Prop :=
  ∀ slotId, state'.activeBuildSlots slotId = [] ∨
    state'.activeBuildSlots slotId = state.activeBuildSlots slotId

theorem Emptied.of_eq (h : state'.activeBuildSlots = state.activeBuildSlots) :
    Emptied state state' := fun slotId => .inr (congrFun h slotId)

theorem OneSlotEach.emptied (h : OneSlotEach state) (hemptied : Emptied state state') :
    OneSlotEach state' := by
  intro slotId other hset hsame
  have hold := (hemptied slotId).resolve_left hset
  have hother := (hemptied other).resolve_left fun hempty => hset (hsame.symm.trans hempty)
  rw [hold] at hset hsame
  exact h slotId other hset (hother.symm.trans hsame)

theorem OneSlotEach.set (h : OneSlotEach state) {slotId : BuildSlotId} {text : Text}
    (hidle : ∀ other, state.activeBuildSlots other ≠ text)
    (hslots : state'.activeBuildSlots = state.activeBuildSlots.set slotId text) :
    OneSlotEach state' := by
  intro id other hset hsame
  rw [hslots] at hset hsame
  by_cases hid : id = slotId
  · subst hid
    by_contra hne
    rw [ActiveBuildSlots.set_self, ActiveBuildSlots.set_of_ne _ hne] at hsame
    exact hidle other hsame
  · rw [ActiveBuildSlots.set_of_ne _ hid] at hset hsame
    by_cases hother : other = slotId
    · subst hother
      rw [ActiveBuildSlots.set_self] at hsame
      exact absurd hsame.symm (hidle id)
    · rw [ActiveBuildSlots.set_of_ne _ hother] at hsame
      exact h id other hset hsame

end OneSlot

/-! ## What the steps keep -/

section Steps

variable {state : RuntimeState Float32}

/-- Registering sets no slot. -/
theorem activeBuildSlots_tryRegisterItem (formTypes : FormID → FormType)
    (env : Environment Float32) (state : RuntimeState Float32) (formId : FormID) :
    (tryRegisterItem formTypes env state formId).1.activeBuildSlots = state.activeBuildSlots := by
  rcases tryRegisterItem_cases formTypes env state formId with
    ⟨-, heq | heq⟩ | ⟨-, -, -, heq⟩
  · rw [heq]
  · rw [heq, RegistrationStateStore.blockPair_frame]
  · obtain ⟨ledger, hcommit⟩ := commitRegistration_eq formTypes env state formId
      (getRegisterKey env formId)
      (getDiscoveryGroup formTypes env state (getRegisterKey env formId))
    rw [heq, hcommit]
    exact activeBuildSlots_applied state _

/-- An undo empties those that its points no longer unlock. -/
theorem emptied_tryUndoRegistration (env : Environment Float32) (state : RuntimeState Float32)
    (actionId : UInt64) : Emptied state (tryUndoRegistration env state actionId).1 := by
  rcases tryUndoRegistration_cases env state actionId with
    ⟨-, heq⟩ | ⟨older, record, -, -, ⟨-, -, heq⟩ | ⟨-, -, -, heq⟩ | ⟨-, -, -, heq⟩⟩
  · rw [heq]
    exact .of_eq rfl
  · rw [heq]
    exact .of_eq rfl
  · rw [heq]
    exact .of_eq rfl
  · rw [heq]
    cases hc : record.buildContribution with
    | some c =>
      obtain ⟨ledger, hundone⟩ := undone_of_contribution env state older hc
      rw [hundone]
      exact activeBuildSlots_rollback (takenBack state older record) c
    | none =>
      rw [undone_of_no_contribution env state older hc, Rewards.rollbackRewardDeltas_frame]
      exact .of_eq rfl

theorem emptied_perform (formTypes : FormID → FormType) {action : Action}
    (h : ¬ action.SetsSlot) (state : RuntimeState Float32) :
    Emptied state (perform formTypes action state).1 := by
  cases action with
  | register env formId =>
    exact .of_eq (activeBuildSlots_tryRegisterItem formTypes env state formId)
  | registerBatch calls =>
    have hslots := registerBatch_preserves
      (fun after => after.activeBuildSlots = state.activeBuildSlots)
      (fun env before formId h =>
        (activeBuildSlots_tryRegisterItem formTypes env before formId).trans h) rfl calls
    exact .of_eq hslots
  | undo env actionId => exact emptied_tryUndoRegistration env state actionId
  | notify primaryId secondaryId =>
    show Emptied state (NotifiedStateStore.markPair state primaryId secondaryId)
    rw [NotifiedStateStore.markPair_frame]
    exact .of_eq rfl
  | refund avOwner =>
    show Emptied state (Rewards.refundRewards avOwner state).1
    rw [Rewards.refundRewards_frame]
    exact .of_eq rfl
  | _ => exact absurd trivial h

/-! ### The click -/

/-- A call of the panel is an action, or refused. -/
theorem handleCall_performs (formTypes : FormID → FormType)
    (avOwner : Option (ActorValue → Float32)) (inCombat : Bool) (call : Call)
    (state : RuntimeState Float32) :
    (handleCall avOwner inCombat call state).1 = state ∨
      ∃ action,
        (handleCall avOwner inCombat call state).1 = (perform formTypes action state).1 := by
  cases call with
  | activateBuildOption payload =>
    unfold handleCall handleActivateBuildOptionRequest
    dsimp only
    split
    · exact .inr ⟨.activate avOwner _ _, rfl⟩
    · exact .inl rfl
  | deactivateBuildOption payload =>
    unfold handleCall handleDeactivateBuildOptionRequest
    dsimp only
    split
    · exact .inr ⟨.deactivate avOwner _, rfl⟩
    · exact .inl rfl

theorem handleCall_inCombat (avOwner : Option (ActorValue → Float32)) (call : Call)
    (state : RuntimeState Float32) : handleCall avOwner true call state = (state, false) := by
  have hrefused : ∀ valid, validateBuildMutationRequest true valid ≠ .kAllowed := by decide
  cases call with
  | activateBuildOption payload =>
    unfold handleCall handleActivateBuildOptionRequest
    dsimp only
    split
    · exact absurd ‹_› (hrefused _)
    · rfl
  | deactivateBuildOption payload =>
    unfold handleCall handleDeactivateBuildOptionRequest
    dsimp only
    split
    · exact absurd ‹_› (hrefused _)
    · rfl

theorem Settled.handleCall {avOwner : Option (ActorValue → Float32)} (h : Settled state)
    (inCombat : Bool) (call : Call) :
    Settled (PrismaUIManager.handleCall avOwner inCombat call state).1 := by
  rcases handleCall_performs (fun _ => .Weapon) avOwner inCombat call state with
    heq | ⟨action, heq⟩
  · rwa [heq]
  · rw [heq]
    exact h.perform _ action

theorem exists_of_forall₂ {α β : Type} {R : α → β → Prop} {l : List α} {l' : List β}
    (h : List.Forall₂ R l l') {b : β} (hb : b ∈ l') : ∃ a, R a b := by
  induction h with
  | nil => cases hb
  | cons hab _ ih =>
    rcases List.mem_cons.mp hb with rfl | hb
    · exact ⟨_, hab⟩
    · exact ih hb

/-- A button of the page is right, or there is none. -/
theorem offers_of_shown {library : ScriptLibrary} (hnull : library.textOf .null = utf8 "null")
    (hsettled : Settled state) {action : BuildPanel.Action} (h : Shown library state action)
    (avOwner : Option (ActorValue → Float32)) :
    action = .hint ∨ ∃ option ∈ getBuildOptionCatalog, Offers avOwner state option action := by
  have hpage := isPageOf_receive library state
  cases h with
  | focused selection view hview =>
    obtain ⟨option, hoption, other, hother, -, hoffers⟩ := focused_offers hpage hsettled.slots
      (not_pending_of_settled hsettled) avOwner selection
    obtain rfl := Option.some.inj (hview.symm.trans hother)
    exact .inr ⟨option, hoption, hoffers⟩
  | slot slot hslot =>
    obtain ⟨slotId, hreads⟩ := exists_of_forall₂ hpage.activeSlots hslot
    have hoffers := slotOffers_page avOwner hnull hsettled.slots hpage hreads
    unfold SlotOffers at hoffers
    split_ifs at hoffers
    · exact .inl hoffers
    · exact .inr hoffers.2

theorem OneSlotEach.click (h : OneSlotEach state) {option : BuildOptionDef Float32}
    {action : BuildPanel.Action} {avOwner : Option (ActorValue → Float32)}
    (hoffers : Offers avOwner state option action) {call : Call}
    (hclick : onBuildPanelClick action = some call) :
    OneSlotEach (handleCall avOwner false call state).1 := by
  cases hoffers with
  | deactivate slotId other hactive hother hdone =>
    obtain rfl := Option.some.inj (hclick.symm.trans hother)
    obtain ⟨ledger, hdone⟩ := hdone
    rw [hdone]
    refine h.emptied fun id => ?_
    by_cases hid : id = slotId
    · subst hid
      exact .inl (ActiveBuildSlots.set_self _ _ _)
    · exact .inr (ActiveBuildSlots.set_of_ne state.activeBuildSlots hid [])
  | activate slotId other hidle hempty hother hdone =>
    obtain rfl := Option.some.inj (hclick.symm.trans hother)
    obtain ⟨ledger, hdone⟩ := hdone
    rw [hdone]
    exact h.set hidle rfl
  | hint => cases hclick

end Steps

/-! ## In every session -/

/-- What a session of the panel keeps, in its state and in its saves. -/
theorem invariant_oneSlotEach (formTypes : FormID → FormType) {library : ScriptLibrary}
    (hnull : library.textOf .null = utf8 "null") :
    (panelSessions formTypes library).Invariant (Holds fun _ => OneSlotEach) where
  init session hinit := by
    obtain ⟨lookupFormType, cleanup, avOwner, rfl⟩ := hinit
    rw [newGame_eq]
    exact ⟨⟨settled_newGameState, fun _ _ hset => absurd rfl hset⟩,
      fun records hrecords => absurd hrecords List.not_mem_nil⟩
  step session session' h hstep := by
    obtain ⟨hsettled, hone⟩ := h.state
    cases hstep with
    | click avOwner inCombat action call hshown hclick =>
      refine ⟨⟨hsettled.handleCall inCombat call, ?_⟩, h.saves⟩
      cases inCombat with
      | true =>
        show OneSlotEach (handleCall avOwner true call session.state).1
        rwa [handleCall_inCombat]
      | false =>
        rcases offers_of_shown hnull hsettled hshown avOwner with rfl | ⟨option, -, hoffers⟩
        · cases hclick
        · exact hone.click hoffers hclick
    | act action hsets =>
      exact ⟨⟨hsettled.perform formTypes action,
        hone.emptied (emptied_perform formTypes hsets session.state)⟩, h.saves⟩
    | save accepts records hsave =>
      refine ⟨h.state, fun records' hrecords => ?_⟩
      rcases List.mem_cons.mp hrecords with rfl | hold
      · exact ⟨session.state, accepts, h.state, hsave⟩
      · exact h.saves records' hold
    | load lookupFormType cleanup avOwner records hrecords =>
      obtain ⟨saved, accepts, ⟨hsaved, honeSaved⟩, hsave⟩ := h.saves records hrecords
      have hcontinues := loadGame_saved hsaved hsave lookupFormType cleanup avOwner session.state
      exact ⟨⟨hsaved.continues (restorable_loadGame _ _ _ _ _ _) hcontinues,
        honeSaved.emptied (.of_eq hcontinues.activeBuildSlots)⟩, h.saves⟩
    | newGame lookupFormType cleanup avOwner =>
      refine ⟨?_, h.saves⟩
      rw [newGame_eq]
      exact ⟨settled_newGameState, fun _ _ hset => absurd rfl hset⟩

/-- In every session of the panel no option is in two slots, and an option that is taken out
by its button is in none. -/
theorem one_slot_each {formTypes : FormID → FormType} {library : ScriptLibrary}
    (hnull : library.textOf .null = utf8 "null") {session : Session}
    (h : (panelSessions formTypes library).Reachable session) :
    OneSlotEach session.state ∧
    ∀ (avOwner : Option (ActorValue → Float32)) (selection : BuildSelection) (view : OptionView)
      (slotId : Text) (call : Call),
      focusedView library (receive library session.state) (ensureBuildSelection library
        (receive library session.state) selection) = some view →
      view.action = .deactivate slotId → onBuildPanelClick view.action = some call →
      ∀ other, (handleCall avOwner false call session.state).1.activeBuildSlots other ≠
        view.optionId := by
  obtain ⟨hsettled, hone⟩ := ((invariant_oneSlotEach formTypes hnull).reachable h).state
  refine ⟨hone, ?_⟩
  intro avOwner selection view slotId call hview haction hclick other
  obtain ⟨option, hoption, found, hfound, hid, hoffers⟩ := focused_offers
    (isPageOf_receive library session.state) hsettled.slots (not_pending_of_settled hsettled)
    avOwner selection
  obtain rfl := Option.some.inj (hview.symm.trans hfound)
  have hname := (declared_of_mem_catalog hoption).1
  rw [haction] at hoffers hclick
  rw [hid]
  cases hoffers with
  | deactivate slotId other' hactive hcall hdone =>
    obtain rfl := Option.some.inj (hclick.symm.trans hcall)
    obtain ⟨ledger, hdone⟩ := hdone
    rw [hdone]
    show session.state.activeBuildSlots.set slotId [] other ≠ option.id
    intro hset
    by_cases hsame : other = slotId
    · subst hsame
      rw [ActiveBuildSlots.set_self] at hset
      exact hname hset.symm
    · rw [ActiveBuildSlots.set_of_ne _ hsame] at hset
      exact hsame (hone slotId other (hactive ▸ hname) (hset.trans hactive.symm))

/-- Without the panel the same option goes into both attack slots. -/
example : (Session.act Session.weapons (.activate none .Attack2 (utf8 "build.attack.ferocity"))
    armed).state.activeBuildSlots .Attack2 = armed.state.activeBuildSlots .Attack1 := by
  decide +kernel

theorem reachable_newGame_panel (formTypes : FormID → FormType) (library : ScriptLibrary) :
    (panelSessions formTypes library).Reachable { state := newGameState } :=
  .of_init ⟨fun _ => none, fun _ => true, none, by rw [newGame_eq]⟩

section Clicks

variable {formTypes : FormID → FormType} {library : ScriptLibrary} {session : Session}
  {option : BuildOptionDef Float32} {slotId : BuildSlotId}

/-- The panel can show each option of the catalog, with the right button. -/
theorem exists_shown (hnull : library.textOf .null = utf8 "null")
    (h : (panelSessions formTypes library).Reachable session)
    (hoption : option ∈ getBuildOptionCatalog) :
    ∃ selection view, focusedView library (receive library session.state) (ensureBuildSelection
        library (receive library session.state) selection) = some view ∧
      view.optionId = option.id ∧ Offers none session.state option view.action := by
  have hsettled := ((invariant_oneSlotEach formTypes hnull).reachable h).state.1
  have hpage := isPageOf_receive library session.state
  have hdeclared := (declared_of_mem_catalog hoption).2
  have htheme := isThemeOf_themeId hoption
  have hrow := mem_collectThemeRows.mpr ⟨hoption, rfl, rfl⟩
  obtain ⟨view, hview, hid, hoffers⟩ := view_page hpage hsettled.slots
    (not_pending_of_settled hsettled) none hdeclared htheme hrow
  have hensured := ensured_of_row hpage hdeclared htheme hrow
  exact ⟨_, view, (congrArg (focusedView library _) hensured).trans hview, hid, hoffers⟩

/-- A click puts an option that is in no slot into an empty one, where one takes it. -/
theorem exists_click (hnull : library.textOf .null = utf8 "null")
    (h : (panelSessions formTypes library).Reachable session)
    (hoption : option ∈ getBuildOptionCatalog)
    (hidle : ∀ other, session.state.activeBuildSlots other ≠ option.id)
    (hempty : session.state.activeBuildSlots slotId = [])
    (hfits : Builds.isSlotCompatible option slotId = true)
    (hunlocked : option.unlockPointsCenti ≤ session.state.pointsCenti option.discipline) :
    ∃ clicked slotId', (panelSessions formTypes library).Reachable clicked ∧
      session.state.activeBuildSlots slotId' = [] ∧
      clicked.state.activeBuildSlots = session.state.activeBuildSlots.set slotId' option.id ∧
      clicked.state.pointsCenti = session.state.pointsCenti := by
  have hsettled := ((invariant_oneSlotEach formTypes hnull).reachable h).state.1
  obtain ⟨selection, view, hview, -, hoffers⟩ := exists_shown hnull h hoption
  have hshown : Shown library session.state view.action := .focused selection view hview
  generalize view.action = action at hoffers hshown
  cases hoffers with
  | deactivate slotId call hactive => exact absurd hactive (hidle _)
  | hint _ hfull =>
    have hrefused := hfull slotId hempty
    rw [setActiveSlot_of_accepts ⟨not_pending_of_settled hsettled,
      (mayHold_iff hoption).mpr ⟨hfits, hunlocked⟩⟩] at hrefused
    exact absurd (congrArg Prod.snd hrefused) Bool.true_eq_false.mp
  | activate slotId' call _ hslot hclick hdone =>
    obtain ⟨ledger, hdone⟩ := hdone
    have hclicked := h.step (.click session none false _ call hshown hclick)
    refine ⟨_, slotId', hclicked, hslot, ?_, ?_⟩
    · rw [hdone]
    · rw [hdone]
      rfl

/-- Where the option is in a slot, its button takes it out. -/
theorem exists_deactivate (hnull : library.textOf .null = utf8 "null")
    (h : (panelSessions formTypes library).Reachable session)
    (hoption : option ∈ getBuildOptionCatalog)
    (hactive : session.state.activeBuildSlots slotId = option.id) :
    ∃ selection view slotText call, focusedView library (receive library session.state)
        (ensureBuildSelection library (receive library session.state) selection) = some view ∧
      view.optionId = option.id ∧ view.action = .deactivate slotText ∧
      onBuildPanelClick view.action = some call := by
  obtain ⟨selection, view, hview, hid, hoffers⟩ := exists_shown hnull h hoption
  refine ⟨selection, view, ?_⟩
  generalize view.action = action at hoffers
  cases hoffers with
  | deactivate slotId' call _ hclick => exact ⟨_, call, hview, hid, rfl, hclick⟩
  | activate slotId' call hidle => exact absurd hactive (hidle slotId)
  | hint hidle => exact absurd hactive (hidle slotId)

end Clicks

/-- After six swords, a click on the first attack option and one on another; then the
first is taken out. -/
theorem one_slot_each_clicked : ∃ session : Session,
    (∃ slotId, session.state.activeBuildSlots slotId = utf8 "build.attack.ferocity") ∧
    (∃ slotId, session.state.activeBuildSlots slotId = utf8 "build.attack.reserve") ∧
    OneSlotEach session.state ∧
    ∃ (view : OptionView) (slotId : Text) (call : Call),
      view.optionId = utf8 "build.attack.ferocity" ∧ view.action = .deactivate slotId ∧
      onBuildPanelClick view.action = some call ∧
      ∀ other, (handleCall none false call session.state).1.activeBuildSlots other ≠
        view.optionId := by
  have hsix : (panelSessions Session.weapons nullLibrary).Reachable sixSwords :=
    (reachable_newGame_panel Session.weapons nullLibrary).step (.act _ _ (fun h => h))
  have hfree : sixSwords.state.activeBuildSlots = fun _ => [] := rfl
  have hfits : ∀ id ∈ ["build.attack.ferocity", "build.attack.reserve"],
      ∃ option ∈ getBuildOptionCatalog (F := Float32), option.id = utf8 id ∧
        Builds.isSlotCompatible option .Attack1 = true ∧
        Builds.isSlotCompatible option .Attack2 = true ∧
        option.unlockPointsCenti ≤ sixSwords.state.pointsCenti option.discipline := by
    decide +kernel
  obtain ⟨ferocity, hferocity, hid, hfirst, -, hunlocked⟩ :=
    hfits "build.attack.ferocity" (by decide)
  obtain ⟨reserve, hreserve, hid', hfirst', hsecond', hunlocked'⟩ :=
    hfits "build.attack.reserve" (by decide)
  have hnames : ferocity.id ≠ [] ∧ reserve.id ≠ [] ∧ ferocity.id ≠ reserve.id := by
    rw [hid, hid']
    decide
  obtain ⟨one, slotId, hone, -, hslots, hpoints⟩ := exists_click rfl hsix hferocity
    (fun _ hset => hnames.1 hset.symm) (congrFun hfree .Attack1) hfirst hunlocked
  have hset : one.state.activeBuildSlots slotId = ferocity.id := by
    rw [hslots]
    exact ActiveBuildSlots.set_self _ _ _
  have hempty : ∀ other, other ≠ slotId → one.state.activeBuildSlots other = [] := by
    intro other hne
    rw [hslots, ActiveBuildSlots.set_of_ne _ hne]
    rfl
  have hidle : ∀ other, one.state.activeBuildSlots other ≠ reserve.id := by
    intro other
    by_cases hslot : other = slotId
    · rw [hslot, hset]
      exact hnames.2.2
    · rw [hempty other hslot]
      exact hnames.2.1.symm
  -- one of the two attack slots is left
  obtain ⟨other, hother, hcompatible⟩ : ∃ other, other ≠ slotId ∧
      Builds.isSlotCompatible reserve other = true := by
    by_cases hslot : slotId = .Attack1
    · exact ⟨.Attack2, by rw [hslot]; decide, hsecond'⟩
    · exact ⟨.Attack1, Ne.symm hslot, hfirst'⟩
  obtain ⟨two, slotId', htwo, hleft, hslots', -⟩ := exists_click rfl hone hreserve hidle
    (hempty other hother) hcompatible (by rw [hpoints]; exact hunlocked')
  have hkept : two.state.activeBuildSlots slotId = ferocity.id := by
    have hne : slotId ≠ slotId' := by
      rintro rfl
      exact hnames.1 (hset.symm.trans hleft)
    rw [hslots', ActiveBuildSlots.set_of_ne _ hne]
    exact hset
  obtain ⟨selection, view, slotText, call, hview, hviewId, haction, hclick⟩ :=
    exists_deactivate rfl htwo hferocity hkept
  obtain ⟨honeEach, hout⟩ := one_slot_each rfl htwo
  refine ⟨two, ⟨slotId, hkept.trans hid⟩, ⟨slotId', ?_⟩, honeEach, view, slotText, call,
    hviewId.trans hid, haction, hclick, hout none selection view slotText call hview haction hclick⟩
  rw [hslots', ← hid']
  exact ActiveBuildSlots.set_self _ _ _

end CodexOfPower
