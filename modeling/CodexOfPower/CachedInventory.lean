/-
# `CodexOfPower.CachedInventory` — what is built for a part of the page

Each part is built from what its builder reads of the state (`JsCall.reads`), and is up to
date if that is what it would read now (`UpToDate`).  A request leaves alone what the parts
that it does not refresh are built from (`reads_perform`).

The list of the inventory may be the cached one.  It always has the keys that are registered
now, since whatever registers a key or takes one back drops it, and an undo that fails puts
back the key that it took.  It need not have the items that are blocked now
(`Listed.block`); so what is up to date for the inventory is a list as `Listed` says, and
what is cached is one in every panel that is reached (`CacheListed.perform`, `build_spec`).
-/
import CodexOfPower.PendingRefresh

namespace CodexOfPower.PrismaUIManager

open RE Builds BuildProgression Registration Serialization

namespace Panel

variable {formTypes : FormID → FormType} {panel : Panel} {call : JsCall}

/-! ## Up to date -/

section UpToDate

/-- What was read for a list of the inventory: the keys that are registered now, and of the
items that are blocked now all that were blocked then; the list is the one of now unless an
item was blocked since. -/
structure Listed (state : RuntimeState Float32) (blockedSince : Bool)
    (read : RuntimeState Float32) : Prop where
  registered : ∀ id, id ∈ read.registeredItems ↔ id ∈ state.registeredItems
  blocked : ∀ id ∈ read.blockedItems, id ∈ state.blockedItems
  sameList : blockedSince = false → ∀ formTypes (env : Environment Float32),
    buildQuickListEligibleItems formTypes env (snapshotQuickList read) =
      buildQuickListEligibleItems formTypes env (snapshotQuickList state)

/-- The list that is cached, if there is one, may be served. -/
def CacheListed (panel : Panel) : Prop :=
  ∀ read, panel.quickList = some read → Listed panel.state panel.blockedSince read

/-- A payload is for the page that is wanted, and of what would be read now, except that the
list of the inventory may be a cached one. -/
def UpToDate (panel : Panel) (call : JsCall) (payload : Payload) : Prop :=
  payload.request = panel.wanted call ∧
    if call = .setInventory then Listed panel.state panel.blockedSince payload.reads
    else payload.reads = call.reads panel.state

variable {state state' read : RuntimeState Float32} {blockedSince : Bool} {payload : Payload}

theorem listed_reads (state : RuntimeState Float32) (blockedSince : Bool) :
    Listed state blockedSince (JsCall.reads state .setInventory) where
  registered _ := Iff.rfl
  blocked _ h := h
  sameList _ _ _ := rfl

theorem Listed.sameSets (h : Listed state blockedSince read) (hsame : SameSets state state') :
    Listed state' blockedSince read where
  registered id := (h.registered id).trans (hsame.registered id).symm
  blocked id hid := (hsame.blocked id).mpr (h.blocked id hid)
  sameList hnone formTypes env :=
    (h.sameList hnone formTypes env).trans (hsame.buildQuickListEligibleItems_eq env).symm

/-- An item may be blocked as well, when that is noted. -/
theorem Listed.block (h : Listed state blockedSince read)
    (hregistered : state'.registeredItems = state.registeredItems)
    (hblocked : ∀ id ∈ state.blockedItems, id ∈ state'.blockedItems) : Listed state' true read where
  registered id := by
    rw [hregistered]
    exact h.registered id
  blocked id hid := hblocked id (h.blocked id hid)
  sameList hnone := absurd hnone (Bool.false_ne_true ∘ Eq.symm)

theorem upToDate_current (panel : Panel) (call : JsCall) :
    panel.UpToDate call (panel.current call) := by
  refine ⟨rfl, ?_⟩
  split_ifs with hcall
  · rw [hcall]
    exact listed_reads panel.state panel.blockedSince
  · rfl

/-- Parts other than the inventory are up to date if they are what would be built now. -/
theorem UpToDate.eq_current (h : panel.UpToDate call payload) (hcall : call ≠ .setInventory) :
    payload = panel.current call := by
  obtain ⟨hrequest, hreads⟩ := h
  rw [if_neg hcall] at hreads
  exact congrArg₂ Payload.mk hrequest hreads

end UpToDate

/-! ## What a request and a build leave alone -/

/-- A part that an action does not refresh is built from what the action leaves alone. -/
theorem reads_perform (action : Action) (state : RuntimeState Float32)
    (h : call ∉ refreshedBy action) :
    call.reads (CodexOfPower.perform formTypes action state).1 = call.reads state := by
  cases action with
  | register env formId => exact absurd (by cases call <;> simp [refreshedBy]) h
  | registerBatch calls => exact absurd (by cases call <;> simp [refreshedBy]) h
  | undo env actionId => exact absurd (by cases call <;> simp [refreshedBy]) h
  | activate avOwner slotId optionId =>
    obtain ⟨slots, ledger, heq⟩ := activate_frame avOwner state slotId optionId
    show call.reads (activateBuildOption avOwner state slotId optionId).1 = _
    rw [heq]
    cases call <;> first | rfl | simp [refreshedBy] at h
  | deactivate avOwner slotId =>
    obtain ⟨slots, ledger, heq⟩ := deactivate_frame avOwner state slotId
    show call.reads (deactivateBuildOption avOwner state slotId) = _
    rw [heq]
    cases call <;> first | rfl | simp [refreshedBy] at h
  | swap avOwner fromSlotId toSlotId optionId =>
    obtain ⟨slots, ledger, heq⟩ := swap_frame avOwner state fromSlotId toSlotId optionId
    show call.reads (swapBuildOption avOwner state fromSlotId toSlotId optionId).1 = _
    rw [heq]
    cases call <;> first | rfl | simp [refreshedBy] at h
  | notify primaryId secondaryId =>
    show call.reads (NotifiedStateStore.markPair state primaryId secondaryId) = _
    rw [NotifiedStateStore.markPair_frame]
    cases call <;> rfl
  | refund avOwner =>
    show call.reads (Rewards.refundRewards avOwner state).1 = _
    rw [Rewards.refundRewards_frame]
    cases call <;> first | rfl | simp [refreshedBy] at h

/-- An action that leaves some part of the page alone is not about registrations. -/
theorem elsewhere_perform (action : Action) (state : RuntimeState Float32)
    (h : call ∉ refreshedBy action) :
    Listing.Elsewhere state (CodexOfPower.perform formTypes action state).1 := by
  cases action with
  | register env formId => exact absurd (by cases call <;> simp [refreshedBy]) h
  | registerBatch calls => exact absurd (by cases call <;> simp [refreshedBy]) h
  | undo env actionId => exact absurd (by cases call <;> simp [refreshedBy]) h
  | activate avOwner slotId optionId => exact .activate state avOwner slotId optionId
  | deactivate avOwner slotId => exact .deactivate state avOwner slotId
  | swap avOwner fromSlotId toSlotId optionId =>
    exact .swap state avOwner fromSlotId toSlotId optionId
  | notify primaryId secondaryId => exact .notify state primaryId secondaryId
  | refund avOwner => exact .refund state avOwner

theorem registerBatch_frame (calls : List (Environment Float32 × FormID)) (panel : Panel) :
    ∃ quickList blockedSince,
      calls.foldl (fun panel call => panel.register formTypes call.1 call.2) panel =
        { panel with
          state := (Registration.registerBatch formTypes panel.state calls).1
          quickList
          blockedSince } := by
  induction calls generalizing panel with
  | nil => exact ⟨panel.quickList, panel.blockedSince, rfl⟩
  | cons call rest ih => exact ih (panel.register formTypes call.1 call.2)

/-- A request changes the state, and the list that is cached. -/
theorem perform_frame (formTypes : FormID → FormType) (action : Action) (panel : Panel) :
    ∃ quickList blockedSince, panel.perform formTypes action =
      { panel with
        state := (CodexOfPower.perform formTypes action panel.state).1
        quickList
        blockedSince } := by
  cases action with
  | registerBatch calls => exact registerBatch_frame calls panel
  | _ => exact ⟨_, _, rfl⟩

theorem perform_of_not_refreshed (action : Action) (h : call ∉ refreshedBy action) :
    panel.perform formTypes action =
      { panel with state := (CodexOfPower.perform formTypes action panel.state).1 } := by
  cases action with
  | register env formId => exact absurd (by cases call <;> simp [refreshedBy]) h
  | registerBatch calls => exact absurd (by cases call <;> simp [refreshedBy]) h
  | undo env actionId => exact absurd (by cases call <;> simp [refreshedBy]) h
  | _ => rfl

theorem build_frame (panel : Panel) (source : QuickListSource) (c : JsCall) :
    ∃ quickList blockedSince,
      (panel.build source c).2 = { panel with quickList, blockedSince } := by
  cases c with
  | setInventory =>
    show ∃ quickList blockedSince,
      (panel.buildQuickRegisterList source).2 = { panel with quickList, blockedSince }
    unfold buildQuickRegisterList
    dsimp only
    split <;> exact ⟨_, _, rfl⟩
  | _ => exact ⟨panel.quickList, panel.blockedSince, rfl⟩

/-- What is built is up to date, and the list that is then cached may be served. -/
theorem build_spec (source : QuickListSource) (c : JsCall) (h : panel.CacheListed) :
    (panel.build source c).2.UpToDate c
        { request := panel.wanted c, reads := (panel.build source c).1 } ∧
      (panel.build source c).2.CacheListed := by
  cases c with
  | setInventory =>
    show Panel.UpToDate (panel.buildQuickRegisterList source).2 .setInventory
        ⟨_, (panel.buildQuickRegisterList source).1⟩ ∧
      (panel.buildQuickRegisterList source).2.CacheListed
    unfold buildQuickRegisterList
    dsimp only
    split
    · next cached hcached => exact ⟨⟨rfl, h cached hcached⟩, h⟩
    · exact ⟨⟨rfl, listed_reads panel.state _⟩, h⟩
    · refine ⟨⟨rfl, listed_reads panel.state _⟩, fun read hread => ?_⟩
      rw [← Option.some.inj hread]
      exact listed_reads panel.state _
  | _ => exact ⟨⟨rfl, rfl⟩, h⟩

/-- A registration that succeeds drops the list, and one that does not leaves the keys. -/
theorem CacheListed.register (h : panel.CacheListed) (env : Environment Float32)
    (formId : FormID) : (panel.register formTypes env formId).CacheListed := by
  intro read hread
  replace hread : (if (tryRegisterItem formTypes env panel.state formId).2.success = true
    then none else panel.quickList) = some read := hread
  show Listed (tryRegisterItem formTypes env panel.state formId).1
    (panel.blockedSince || Blocks formTypes env panel.state formId) read
  by_cases hsucceeds : (tryRegisterItem formTypes env panel.state formId).2.success = true
  · rw [if_pos hsucceeds] at hread
    cases hread
  rw [if_neg hsucceeds] at hread
  by_cases hblocks : Blocks formTypes env panel.state formId
  · rw [decide_eq_true hblocks, Bool.or_true]
    rcases tryRegisterItem_cases formTypes env panel.state formId with
      ⟨-, heq | heq⟩ | ⟨hsuccess, -⟩
    · exact (h read hread).block (by rw [heq]) fun id hid => by rwa [heq]
    · rw [heq]
      refine (h read hread).block ?_ fun id hid => RegistrationStateStore.mem_blockPair_of_mem hid
      rw [RegistrationStateStore.blockPair_frame]
    · exact absurd hsuccess hsucceeds
  · rw [decide_eq_false hblocks, Bool.or_false]
    exact (h read hread).sameSets
      (sameSets_tryRegisterItem (Bool.eq_false_of_not_eq_true hsucceeds) hblocks)

theorem CacheListed.undo (h : panel.CacheListed) (env : Environment Float32)
    (actionId : UInt64) : (panel.undo env actionId).CacheListed := by
  intro read hread
  replace hread : (if (tryUndoRegistration env panel.state actionId).2.success = true
    then none else panel.quickList) = some read := hread
  by_cases hsucceeds : (tryUndoRegistration env panel.state actionId).2.success = true
  · rw [if_pos hsucceeds] at hread
    cases hread
  · rw [if_neg hsucceeds] at hread
    exact (h read hread).sameSets
      (sameSets_tryUndoRegistration (Bool.not_eq_true _ ▸ hsucceeds))

theorem CacheListed.perform (h : panel.CacheListed) (formTypes : FormID → FormType)
    (action : Action) :
    (panel.perform formTypes action).CacheListed := by
  have helsewhere : ∀ {state}, Listing.Elsewhere panel.state state →
      CacheListed { panel with state } :=
    fun hstate read hread => (h read hread).sameSets (sameSets_elsewhere hstate)
  cases action with
  | register env formId => exact h.register env formId
  | registerBatch calls =>
    show CacheListed (calls.foldl _ panel)
    induction calls generalizing panel with
    | nil => exact h
    | cons call rest ih =>
      have hfirst : (panel.register formTypes call.1 call.2).CacheListed := h.register _ _
      exact ih hfirst fun hstate read hread =>
        (hfirst read hread).sameSets (sameSets_elsewhere hstate)
  | undo env actionId => exact h.undo env actionId
  | activate avOwner slotId optionId =>
    exact helsewhere (.activate panel.state avOwner slotId optionId)
  | deactivate avOwner slotId => exact helsewhere (.deactivate panel.state avOwner slotId)
  | swap avOwner fromSlotId toSlotId optionId =>
    exact helsewhere (.swap panel.state avOwner fromSlotId toSlotId optionId)
  | notify primaryId secondaryId =>
    exact helsewhere (.notify panel.state primaryId secondaryId)
  | refund avOwner => exact helsewhere (.refund panel.state avOwner)

end Panel

end CodexOfPower.PrismaUIManager
