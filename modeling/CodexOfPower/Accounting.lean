/-
# `CodexOfPower.Accounting` — one item, one key, one point of score

`TryRegisterItem` takes one item from the player when every check has passed, and
then the registration goes through unless the item is still there.  So whatever the
game answers on the way, a batch consumes as many items as it reports successes,
and there are as many new keys and as much new score (`registration_accounting`).
An attempt that fails consumes nothing and may only block.

The inventory is the count of each item, passed from attempt to attempt; the game
may refuse to remove an item when it is asked to.

## What is not said

Nothing is said of what becomes of the item, of the messages to the player, or of the
refresh of the page that follows a batch.  An attempt that fails may block its item; whether
it should is not asked here.

The accounts of one batch are exact from every state.  That scores count the registered keys
over whole sessions, undos included, is `CodexOfPower.Conservation`, and that an undo gives
back what a registration took is `CodexOfPower.ItemTrade`.
-/
import CodexOfPower.Conservation

namespace CodexOfPower

open RE Builds BuildProgression Registration

/-! ## The batch loop, with the inventory -/

section Model

/-- The runtime state, and how many of each item the player has. -/
structure Holdings where
  state : RuntimeState Float32
  itemCount : FormID → Int

/-- A turn of the loop: what the game answers, and whether `RemoveItem`, once it is
called, removes the item. -/
structure Attempt where
  env : Environment Float32
  formId : FormID
  removes : Bool

variable (formTypes : FormID → FormType)

/-- `RemoveItem` is called: nothing before it refuses.  The check after it compares
the counts, so the others are asked with an item less. -/
def callsRemoveItem (env : Environment Float32) (state : RuntimeState Float32)
    (formId : FormID) : Bool :=
  let env := { env with itemCountAfter := fun id => env.itemCount id - 1 }
  (registrationRefusal formTypes env state formId (getRegisterKey env formId)).isNone

/-- `TryRegisterItem`, with the inventory before and after. -/
def registerItem (attempt : Attempt) (holdings : Holdings) : Holdings × RegisterResult :=
  let env := { attempt.env with itemCount := holdings.itemCount }
  let removed := callsRemoveItem formTypes env holdings.state attempt.formId && attempt.removes
  let itemCount := fun id =>
    if id = attempt.formId ∧ removed = true then holdings.itemCount id - 1
    else holdings.itemCount id
  let (state, result) := tryRegisterItem formTypes { env with itemCountAfter := itemCount }
    holdings.state attempt.formId
  ({ state, itemCount }, result)

/-- `if (result.success) ++successCount` -/
def successes (result : RegisterResult) : Nat := if result.success then 1 else 0

/-- The loop of `HandleRegisterBatchRequest`: what is left, and the successes. -/
def registerItems : List Attempt → Holdings → Holdings × Nat
  | [], holdings => (holdings, 0)
  | attempt :: rest, holdings =>
    let (holdings, result) := registerItem formTypes attempt holdings
    let (holdings, successCount) := registerItems rest holdings
    (holdings, successes result + successCount)

end Model

/-! ## The four numbers -/

def newKeys (before after : RuntimeState Float32) : List FormID :=
  after.registeredItems.keys.filter fun regKey => regKey ∉ before.registeredItems

def itemsConsumed (formIds : Finset FormID) (before after : FormID → Int) : Int :=
  ∑ id ∈ formIds, (before id - after id)

def totalScore (state : RuntimeState Float32) : Nat :=
  state.attackScore.toNat + state.defenseScore.toNat + state.utilityScore.toNat

/-- No score has reached the limit of `uint32_t`. -/
def BelowSaturation (state : RuntimeState Float32) : Prop :=
  ∀ d, state.score d < 0xFFFFFFFF

/-- No item is gone, and nothing but the blocked set has changed, which has not shrunk. -/
structure OnlyBlocks (before after : Holdings) : Prop where
  itemCount : after.itemCount = before.itemCount
  state : after.state = { before.state with blockedItems := after.state.blockedItems }
  blocked : ∀ id ∈ before.state.blockedItems, id ∈ after.state.blockedItems

variable {formTypes : FormID → FormType} {attempt : Attempt} {holdings : Holdings}
  {attempts : List Attempt}

/-! ## One attempt -/

/-- Whether the item is gone does not matter to the checks before its removal. -/
theorem admissible_setCountAfter {env : Environment Float32} {state : RuntimeState Float32}
    {item regKey : FormID} {entry : InventoryEntryData} {itemCountAfter : FormID → Int} :
    Admissible formTypes { env with itemCountAfter } state item regKey entry ↔
      Admissible formTypes env state item regKey entry := by
  constructor <;> intro h <;>
  exact
    { player := h.player
      found := h.found
      notExcluded := h.notExcluded
      notQuest := h.notQuest
      notRegistered := h.notRegistered
      group := h.group
      gate := h.gate
      listed := h.listed
      notQuestAgain := h.notQuestAgain
      named := h.named
      safe := h.safe }

theorem getRegisterKey_setCountAfter (env : Environment Float32) (itemCountAfter : FormID → Int)
    (item : FormID) :
    getRegisterKey { env with itemCountAfter } item = getRegisterKey env item :=
  getRegisterKey_congr rfl rfl rfl rfl item

theorem callsRemoveItem_iff {env : Environment Float32} {state : RuntimeState Float32}
    {formId : FormID} :
    callsRemoveItem formTypes env state formId = true ↔
      ∃ entry, Admissible formTypes env state formId (getRegisterKey env formId) entry := by
  unfold callsRemoveItem
  dsimp only
  rw [Option.isNone_iff_eq_none, registrationRefusal_eq_none_iff, getRegisterKey_setCountAfter]
  simp only [admissible_setCountAfter]
  exact and_iff_left (Int.sub_one_lt_of_le (Int.le_refl _))

/-- An attempt either registers a new key, and an item is gone, or consumes nothing and
changes nothing but the blocked set. -/
theorem registerItem_cases (formTypes : FormID → FormType) (attempt : Attempt)
    (holdings : Holdings) :
    ((registerItem formTypes attempt holdings).2.success = false ∧
      OnlyBlocks holdings (registerItem formTypes attempt holdings).1) ∨
    ((registerItem formTypes attempt holdings).2.success = true ∧
      (∀ id, (registerItem formTypes attempt holdings).1.itemCount id =
        holdings.itemCount id - if id = attempt.formId then 1 else 0) ∧
      ∃ env regKey group, regKey ∉ holdings.state.registeredItems ∧
        Counts formTypes regKey group ∧
        (registerItem formTypes attempt holdings).1.state =
          (commitRegistration formTypes env holdings.state attempt.formId regKey group).1) := by
  unfold registerItem
  dsimp only
  set env : Environment Float32 := { attempt.env with itemCount := holdings.itemCount }
  set removed := callsRemoveItem formTypes env holdings.state attempt.formId && attempt.removes
  set itemCount : FormID → Int := fun id =>
    if id = attempt.formId ∧ removed = true then holdings.itemCount id - 1
    else holdings.itemCount id
  -- the item is gone exactly when it was asked for
  have hasked : (tryRegisterItem formTypes { env with itemCountAfter := itemCount }
      holdings.state attempt.formId).2.success = removed := by
    rw [Bool.eq_iff_iff, tryRegisterItem_success_iff, getRegisterKey_setCountAfter]
    simp only [admissible_setCountAfter]
    rw [← callsRemoveItem_iff]
    show callsRemoveItem formTypes env holdings.state attempt.formId = true ∧
      itemCount attempt.formId < holdings.itemCount attempt.formId ↔ removed = true
    cases hremoved : removed with
    | false => simp [itemCount, hremoved]
    | true => simp [itemCount, hremoved, (Bool.and_eq_true_iff.mp hremoved).1]
  rcases tryRegisterItem_cases formTypes { env with itemCountAfter := itemCount } holdings.state
    attempt.formId with ⟨hfails, heq⟩ | ⟨hsuccess, hfresh, hgroup, heq⟩
  · have hkept : removed = false := hasked.symm.trans hfails
    have hcounts : itemCount = holdings.itemCount := by
      funext id
      exact if_neg fun h => by rw [hkept] at h; exact Bool.false_ne_true h.2
    refine .inl ⟨hfails, hcounts, ?_, ?_⟩
    · rcases heq with heq | heq
      · rw [heq]
      · rw [heq, RegistrationStateStore.blockPair_frame]
    · rcases heq with heq | heq
      · rw [heq]; exact fun _ h => h
      · rw [heq]; exact fun _ h => RegistrationStateStore.mem_blockPair_of_mem h
  · have hgone : removed = true := hasked.symm.trans hsuccess
    refine .inr ⟨hsuccess, fun id => ?_, _, _, _, hfresh,
      ⟨hgroup, resolveBuildPoints_of_discoveryGroup hgroup⟩, heq⟩
    show (if id = attempt.formId ∧ removed = true then _ else _) = _
    rw [hgone]
    by_cases hid : id = attempt.formId
    · rw [if_pos ⟨hid, rfl⟩, if_pos hid]
    · rw [if_neg (fun h => hid h.1), if_neg hid, Int.sub_zero]

theorem keys_registerItem (formTypes : FormID → FormType) (attempt : Attempt)
    (holdings : Holdings) :
    ∃ fresh, (registerItem formTypes attempt holdings).1.state.registeredItems.keys =
        fresh ++ holdings.state.registeredItems.keys ∧
      fresh.length = successes (registerItem formTypes attempt holdings).2 := by
  rcases registerItem_cases formTypes attempt holdings with
    ⟨hfails, honly⟩ | ⟨hsuccess, -, env, regKey, group, hfresh, -, heq⟩
  · rw [successes, hfails, honly.state]
    exact ⟨[], rfl, rfl⟩
  · obtain ⟨ledger, hcommit⟩ :=
      commitRegistration_eq formTypes env holdings.state attempt.formId regKey group
    rw [successes, hsuccess, heq, hcommit]
    exact ⟨[regKey], UnorderedMap.keys_emplace_of_notMem hfresh group, rfl⟩

theorem itemsConsumed_registerItem {formIds : Finset FormID} (hmem : attempt.formId ∈ formIds) :
    itemsConsumed formIds holdings.itemCount
        (registerItem formTypes attempt holdings).1.itemCount =
      successes (registerItem formTypes attempt holdings).2 := by
  unfold itemsConsumed successes
  rcases registerItem_cases formTypes attempt holdings with ⟨hfails, honly⟩ | ⟨hsuccess, hcount, -⟩
  · rw [hfails, honly.itemCount]
    simp
  · rw [hsuccess]
    simp only [hcount, sub_sub_cancel]
    simp [hmem]

theorem itemCount_registerItem {id : FormID} (hne : id ≠ attempt.formId) :
    (registerItem formTypes attempt holdings).1.itemCount id = holdings.itemCount id := by
  rcases registerItem_cases formTypes attempt holdings with
    ⟨-, honly⟩ | ⟨-, hcount, -⟩
  · rw [honly.itemCount]
  · rw [hcount, if_neg hne, Int.sub_zero]

/-- Registering raises scores, so a state from which one stays below the limit was. -/
theorem belowSaturation_of_registerItem
    (h : BelowSaturation (registerItem formTypes attempt holdings).1.state) :
    BelowSaturation holdings.state := by
  rcases registerItem_cases formTypes attempt holdings with
    ⟨-, honly⟩ | ⟨-, -, env, regKey, group, -, -, heq⟩
  · rw [honly.state] at h
    exact h
  · obtain ⟨ledger, hcommit⟩ :=
      commitRegistration_eq formTypes env holdings.state attempt.formId regKey group
    rw [heq, hcommit] at h
    exact fun d => UInt32.lt_of_le_of_lt (le_applied holdings.state _ d).1 (h d)

theorem totalScore_applied {state : RuntimeState Float32} {regKey : FormID} {group : UInt32}
    (hcounts : Counts formTypes regKey group)
    (h : BelowSaturation
      (applied state (makeRegistrationContribution group (formTypes regKey)))) :
    totalScore (applied state (makeRegistrationContribution group (formTypes regKey))) =
      totalScore state + 1 := by
  obtain ⟨c, hc, hcontribution⟩ := contributionOf_counts hcounts
  rw [hc] at h ⊢
  have hscore : ∀ d : BuildDiscipline, ((applied state (some c)).score d).toNat =
      (state.score d).toNat + if convertLegacyGroupToDiscipline group = d then 1 else 0 :=
    fun d => eq_add_of_raised (counters_apply hcontribution state d).1 (h d)
  have hattack : (applied state (some c)).attackScore.toNat = _ := hscore .Attack
  have hdefense : (applied state (some c)).defenseScore.toNat = _ := hscore .Defense
  have hutility : (applied state (some c)).utilityScore.toNat = _ := hscore .Utility
  have hgroup : convertLegacyGroupToDiscipline group = .Attack ∨
      convertLegacyGroupToDiscipline group = .Defense ∨
      convertLegacyGroupToDiscipline group = .Utility := by
    unfold convertLegacyGroupToDiscipline
    split_ifs <;> simp
  unfold totalScore
  rw [hattack, hdefense, hutility]
  simp only [RuntimeState.score]
  rcases hgroup with hgroup | hgroup | hgroup
  · rw [hgroup, if_pos rfl, if_neg (by decide), if_neg (by decide)]
    omega
  · rw [hgroup, if_neg (by decide), if_pos rfl, if_neg (by decide)]
    omega
  · rw [hgroup, if_neg (by decide), if_neg (by decide), if_pos rfl]
    omega

theorem totalScore_registerItem
    (h : BelowSaturation (registerItem formTypes attempt holdings).1.state) :
    totalScore (registerItem formTypes attempt holdings).1.state =
      totalScore holdings.state + successes (registerItem formTypes attempt holdings).2 := by
  rcases registerItem_cases formTypes attempt holdings with
    ⟨hfails, honly⟩ | ⟨hsuccess, -, env, regKey, group, -, hcounts, heq⟩
  · rw [successes, hfails, honly.state]
    rfl
  · obtain ⟨ledger, hcommit⟩ :=
      commitRegistration_eq formTypes env holdings.state attempt.formId regKey group
    rw [heq, hcommit] at h
    rw [successes, hsuccess, heq, hcommit]
    exact totalScore_applied hcounts h

/-! ## The whole batch -/

theorem registerItems_cons (attempt : Attempt) (rest : List Attempt) (holdings : Holdings) :
    registerItems formTypes (attempt :: rest) holdings =
      ((registerItems formTypes rest (registerItem formTypes attempt holdings).1).1,
        successes (registerItem formTypes attempt holdings).2 +
          (registerItems formTypes rest (registerItem formTypes attempt holdings).1).2) := rfl

/-- The loop is `registerBatch`, each call with what the game answered to it. -/
theorem registerItems_eq_registerBatch (formTypes : FormID → FormType) (attempts : List Attempt)
    (holdings : Holdings) :
    ∃ calls : List (Environment Float32 × FormID),
      calls.map Prod.snd = attempts.map Attempt.formId ∧
        registerBatch formTypes holdings.state calls =
          ((registerItems formTypes attempts holdings).1.state,
            (registerItems formTypes attempts holdings).2) := by
  induction attempts generalizing holdings with
  | nil => exact ⟨[], rfl, rfl⟩
  | cons attempt rest ih =>
    obtain ⟨calls, hids, hbatch⟩ := ih (registerItem formTypes attempt holdings).1
    refine ⟨({ attempt.env with
      itemCount := holdings.itemCount
      itemCountAfter := (registerItem formTypes attempt holdings).1.itemCount },
        attempt.formId) :: calls, ?_, ?_⟩
    · rw [List.map_cons, List.map_cons, hids]
    · rw [registerItems_cons, registerBatch]
      exact congrArg (fun batch => (batch.1,
        successes (registerItem formTypes attempt holdings).2 + batch.2)) hbatch

theorem keys_registerItems (formTypes : FormID → FormType) (attempts : List Attempt)
    (holdings : Holdings) :
    ∃ fresh, (registerItems formTypes attempts holdings).1.state.registeredItems.keys =
        fresh ++ holdings.state.registeredItems.keys ∧
      fresh.length = (registerItems formTypes attempts holdings).2 := by
  induction attempts generalizing holdings with
  | nil => exact ⟨[], rfl, rfl⟩
  | cons attempt rest ih =>
    obtain ⟨first, hfirst, hlength⟩ := keys_registerItem formTypes attempt holdings
    obtain ⟨others, hothers, hlength'⟩ := ih (registerItem formTypes attempt holdings).1
    rw [registerItems_cons]
    refine ⟨others ++ first, ?_, ?_⟩
    · rw [List.append_assoc, ← hfirst]
      exact hothers
    · rw [List.length_append, hlength, hlength', Nat.add_comm]

theorem length_newKeys (attempts : List Attempt) (holdings : Holdings) :
    (newKeys holdings.state (registerItems formTypes attempts holdings).1.state).length =
      (registerItems formTypes attempts holdings).2 := by
  obtain ⟨fresh, hkeys, hlength⟩ := keys_registerItems formTypes attempts holdings
  have hnodup := (registerItems formTypes attempts holdings).1.state.registeredItems.keys_nodup
  rw [hkeys] at hnodup
  have hdisjoint := (List.nodup_append.mp hnodup).2.2
  have hfresh : fresh.filter (fun regKey => regKey ∉ holdings.state.registeredItems) = fresh := by
    refine List.filter_eq_self.mpr fun regKey hmem => decide_eq_true fun hold => ?_
    exact hdisjoint regKey hmem regKey (AList.mem_keys.mp hold) rfl
  have hold : holdings.state.registeredItems.keys.filter
      (fun regKey => regKey ∉ holdings.state.registeredItems) = [] := by
    refine List.filter_eq_nil_iff.mpr fun regKey hmem => ?_
    rw [decide_eq_true_iff]
    exact not_not.mpr (AList.mem_keys.mpr hmem)
  unfold newKeys
  rw [hkeys, List.filter_append, hfresh, hold, List.append_nil, hlength]

theorem itemsConsumed_registerItems {formIds : Finset FormID}
    (hmem : ∀ attempt ∈ attempts, attempt.formId ∈ formIds) :
    itemsConsumed formIds holdings.itemCount
        (registerItems formTypes attempts holdings).1.itemCount =
      (registerItems formTypes attempts holdings).2 := by
  induction attempts generalizing holdings with
  | nil => exact Finset.sum_eq_zero fun id _ => Int.sub_self _
  | cons attempt rest ih =>
    have hfirst : itemsConsumed formIds holdings.itemCount
        (registerItem formTypes attempt holdings).1.itemCount = _ :=
      itemsConsumed_registerItem (hmem attempt List.mem_cons_self)
    have hothers : itemsConsumed formIds (registerItem formTypes attempt holdings).1.itemCount
        (registerItems formTypes rest
          (registerItem formTypes attempt holdings).1).1.itemCount = _ :=
      ih fun other hother => hmem other (List.mem_cons_of_mem _ hother)
    rw [registerItems_cons, Nat.cast_add, ← hfirst, ← hothers]
    unfold itemsConsumed
    rw [← Finset.sum_add_distrib]
    exact Finset.sum_congr rfl fun id _ => (sub_add_sub_cancel _ _ _).symm

theorem itemCount_registerItems {id : FormID} (hne : ∀ attempt ∈ attempts, attempt.formId ≠ id) :
    (registerItems formTypes attempts holdings).1.itemCount id = holdings.itemCount id := by
  induction attempts generalizing holdings with
  | nil => rfl
  | cons attempt rest ih =>
    rw [registerItems_cons]
    refine (ih fun other hother => hne other (List.mem_cons_of_mem _ hother)).trans ?_
    exact itemCount_registerItem (hne attempt List.mem_cons_self).symm

theorem belowSaturation_of_registerItems
    (h : BelowSaturation (registerItems formTypes attempts holdings).1.state) :
    BelowSaturation holdings.state := by
  induction attempts generalizing holdings with
  | nil => exact h
  | cons attempt rest ih => exact belowSaturation_of_registerItem (ih h)

theorem totalScore_registerItems
    (h : BelowSaturation (registerItems formTypes attempts holdings).1.state) :
    totalScore (registerItems formTypes attempts holdings).1.state =
      totalScore holdings.state + (registerItems formTypes attempts holdings).2 := by
  induction attempts generalizing holdings with
  | nil => rfl
  | cons attempt rest ih =>
    rw [registerItems_cons] at h ⊢
    have hfirst := totalScore_registerItem (belowSaturation_of_registerItems h)
    exact (ih h).trans (by rw [hfirst, Nat.add_assoc])

/-- From every state, for every inventory and every list of form ids, whatever the game
answers: after a batch there are as many new keys as reported successes, and as many
items consumed, all of them requested ones; the total score has gone up as much, as
long as no score has reached its limit; and each attempt that fails, wherever it
stands in the batch, consumes nothing and may only block. -/
theorem registration_accounting (formTypes : FormID → FormType) (holdings : Holdings)
    (attempts : List Attempt) :
    (newKeys holdings.state (registerItems formTypes attempts holdings).1.state).length =
        (registerItems formTypes attempts holdings).2 ∧
      itemsConsumed (attempts.map Attempt.formId).toFinset holdings.itemCount
          (registerItems formTypes attempts holdings).1.itemCount =
        (registerItems formTypes attempts holdings).2 ∧
      (∀ id ∉ attempts.map Attempt.formId,
        (registerItems formTypes attempts holdings).1.itemCount id = holdings.itemCount id) ∧
      (BelowSaturation (registerItems formTypes attempts holdings).1.state →
        totalScore (registerItems formTypes attempts holdings).1.state =
          totalScore holdings.state + (registerItems formTypes attempts holdings).2) ∧
      ∀ earlier attempt,
        (registerItem formTypes attempt
          (registerItems formTypes earlier holdings).1).2.success = false →
        OnlyBlocks (registerItems formTypes earlier holdings).1
          (registerItem formTypes attempt (registerItems formTypes earlier holdings).1).1 := by
  refine ⟨length_newKeys attempts holdings, itemsConsumed_registerItems fun attempt hmem => ?_,
    fun id hid => itemCount_registerItems fun attempt hmem heq => ?_, totalScore_registerItems,
    fun earlier attempt hfails => ?_⟩
  · exact List.mem_toFinset.mpr (List.mem_map_of_mem hmem)
  · exact hid (heq ▸ List.mem_map_of_mem hmem)
  · rcases registerItem_cases formTypes attempt (registerItems formTypes earlier holdings).1 with
      ⟨-, honly⟩ | ⟨hsuccess, -⟩
    · exact honly
    · rw [hsuccess] at hfails
      cases hfails

end CodexOfPower
