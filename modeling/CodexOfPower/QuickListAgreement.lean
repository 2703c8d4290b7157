/-
# `CodexOfPower.QuickListAgreement` — the list and the registration

The list is built by a copy of the checks of `TryRegisterItem`.  Here the two are
compared in one state of the game (`Environment.atOnce`), on what the list offers
(its enabled rows) and on what registering accepts.

They agree on every check but two.  The list takes an item without a name, which
registering refuses (`offersRegister_iff`).  And of the items with one key the
list keeps the first and forgets the others, before it knows whether the first can
be registered now (`offersRegistrable_iff`).

## What is not said

Between the list and the registration the game can go on: the item can be dropped, worn or
become a favourite.  Such differences are not errors of the list and are left out by taking
both in one state.
-/
import CodexOfPower.QuickList

namespace CodexOfPower.Registration

open RE Builds

/-! ## One state of the game -/

section AtOnce

variable {F : Type}

/-- The list is built, and the item registered, in one state of the game: it answers
the same questions the same way, and the item that is to be removed goes. -/
def Environment.atOnce (env : Environment F) : Environment F :=
  { env with
    player := true
    questProtectedAgain := env.questProtected
    itemCountAfter := fun id => env.itemCount id - 1 }

/-- What the game sees to: an inventory lists objects that can be looked up, and no form
has the id 0. -/
structure Environment.Wellformed (env : Environment F) : Prop where
  inventory : ∀ entry ∈ env.inventory, env.lookupBoundObject entry.object = true
  noForm : env.lookupByID 0 = false
  template : ∀ item, (env.form item).templateWeapon ≠ some 0

variable {formTypes : FormID → FormType} {env : Environment F} {state : RuntimeState F}
  {entry : InventoryEntryData} {item : FormID}

theorem getRegisterKey_atOnce : getRegisterKey env.atOnce item = getRegisterKey env item :=
  getRegisterKey_congr rfl rfl rfl rfl item

theorem Environment.Wellformed.getRegisterKey_ne_zero (h : env.Wellformed) (hitem : item ≠ 0) :
    getRegisterKey env item ≠ 0 := by
  have hfollow : ∀ safety regKey, regKey ≠ 0 → followVariants env safety regKey ≠ 0 := by
    intro safety
    induction safety with
    | zero => exact fun _ h => h
    | succ safety ih =>
      intro regKey hne
      unfold followVariants
      split
      · exact hne
      · split_ifs with hvalid hfound
        · exact hne
        · exact hne
        · refine ih _ ?_
          unfold isValidVariantStep at hvalid
          simp at hvalid
          exact hvalid.1
  unfold getRegisterKey
  split_ifs
  · exact hitem
  · refine hfollow 8 _ ?_
    cases htemplate : (env.form item).templateWeapon with
    | none => exact hitem
    | some template => exact fun hzero => h.template item (htemplate.trans (congrArg some hzero))

/-! ## The checks of the list, in the words of the registration -/

theorem mem_registeredKeys {id : FormID} :
    id ∈ (snapshotQuickList state).registeredKeys ↔ id ∈ state.registeredItems := by
  have hids : (state.registeredItems.toPairs.map fun entry => (entry.1, ())).map Prod.fst =
      state.registeredItems.toPairs.map Prod.fst := by
    rw [List.map_map]
    rfl
  unfold snapshotQuickList
  dsimp only
  rw [UnorderedMap.mem_emplaceAll, hids, UnorderedMap.mem_map_toPairs]
  exact or_iff_left (AList.notMem_empty id)

theorem isExcludedFast_eq (hitem : item ≠ 0) :
    isExcludedFast env (snapshotQuickList state) item = isExcludedForm env state item := by
  unfold isExcludedFast isExcludedByMap isExcludedForm RegistrationStateStore.isBlocked
    snapshotQuickList
  rw [if_neg hitem]
  by_cases hmap : item ∈ env.excluded
  · simp [hmap]
  · by_cases hblocked : item ∈ state.blockedItems
    · simp [hblocked]
    · simp [hmap, hblocked]

theorem isExcludedFast_zero : isExcludedFast env (snapshotQuickList state) 0 = true := by
  unfold isExcludedFast isExcludedByMap
  rw [if_pos rfl]
  rfl

theorem getDiscoveryGroupFast_eq (hitem : item ≠ 0) :
    getDiscoveryGroupFast formTypes env (snapshotQuickList state) item =
      getDiscoveryGroup formTypes env state item := by
  unfold getDiscoveryGroupFast getDiscoveryGroup discoveryGroupFor
  rw [isExcludedFast_eq hitem]
  rfl

theorem isRegisteredEither_eq_false_iff {regKeyId legacyId : FormID} :
    RegistrationStateStore.isRegisteredEither state regKeyId legacyId = false ↔
      regKeyId ∉ state.registeredItems ∧ legacyId ∉ state.registeredItems := by
  unfold RegistrationStateStore.isRegisteredEither
  by_cases hkey : regKeyId ∈ state.registeredItems
  · simp [hkey]
  · by_cases hsame : legacyId = regKeyId
    · simp [hkey, hsame]
    · simp [hkey, hsame]

/-- The checks that an item of the list has passed, as `TryRegisterItem` makes them. -/
theorem isListable_iff :
    isListable formTypes env (snapshotQuickList state) entry = true ↔
      (entry.object ≠ 0 ∧ getRegisterKey env entry.object ≠ 0) ∧
        isExcludedOrBlocked env state entry.object (getRegisterKey env entry.object) = false ∧
        getDiscoveryGroup formTypes env state (getRegisterKey env entry.object) ≤ 5 ∧
        RegistrationStateStore.isRegisteredEither state (getRegisterKey env entry.object)
          entry.object = false := by
  unfold isListable
  dsimp only
  by_cases hkey : getRegisterKey env entry.object = 0
  · rw [hkey]
    have hgroup : getDiscoveryGroupFast formTypes env (snapshotQuickList state) 0 = 255 :=
      if_pos isExcludedFast_zero
    rw [hgroup, if_pos (by decide)]
    simp
  by_cases hobject : entry.object = 0
  · rw [hobject, isExcludedFast_zero]
    simp
  rw [getDiscoveryGroupFast_eq hkey, isExcludedFast_eq hkey, isExcludedFast_eq hobject,
    isRegisteredEither_eq_false_iff]
  simp only [mem_registeredKeys, isExcludedOrBlocked, ne_eq, hkey, hobject, not_false_eq_true,
    and_self, true_and]
  split_ifs <;> simp_all

end AtOnce

/-! ## What the list offers, and what registering accepts -/

section Agreement

variable {F : Type} [FloatType F] {formTypes : FormID → FormType} {env : Environment F}
  {state : RuntimeState F} {entry : InventoryEntryData} {item : FormID}

omit [FloatType F] in
/-- Being listable is a matter of the object alone. -/
theorem isListable_congr {other : InventoryEntryData} (h : other.object = entry.object)
    {quickListState : QuickListSnapshot} :
    isListable formTypes env quickListState other =
      isListable formTypes env quickListState entry := by
  unfold isListable
  rw [h]

omit [FloatType F] in
/-- An item that leads is where `TryRegisterItem` finds its object. -/
theorem find?_of_leads (h : Leads formTypes env (snapshotQuickList state) entry) :
    (env.inventory.find? fun other => other.object = entry.object) = some entry := by
  refine h.find?_eq (decide_eq_true rfl) fun other hother => ?_
  have hobject := of_decide_eq_true hother
  exact ⟨(isListable_congr hobject).trans h.isCounted, congrArg (getRegisterKey env) hobject⟩

omit [FloatType F] in
/-- What is left to registering: an item that leads and is actionable has to have a name. -/
theorem admissible_of_leads (hwell : env.Wellformed)
    (hleads : Leads formTypes env (snapshotQuickList state) entry)
    (hactionable : Actionable env entry)
    (hnamed : bestItemName env (some (getRegisterKey env entry.object)) (some entry.object) ≠ []) :
    Admissible formTypes env.atOnce state entry.object (getRegisterKey env entry.object) entry := by
  obtain ⟨-, hexcluded, hgroup, hregistered⟩ := isListable_iff.mp hleads.isCounted
  have hquest := hactionable.notQuest
  simp only [Bool.or_eq_false_iff] at hquest
  obtain ⟨⟨hobject, hkeyQuest⟩, hitemQuest⟩ := hquest
  exact
    { player := rfl
      found := hwell.inventory entry hleads.mem
      notExcluded := hexcluded
      notQuest := by simp [Environment.atOnce, hkeyQuest, hitemQuest]
      notRegistered := hregistered
      group := hgroup
      gate := hactionable.gate
      listed := find?_of_leads hleads
      notQuestAgain := by simp [Environment.atOnce, hobject, hkeyQuest, hitemQuest]
      named := hnamed
      safe := hactionable.safe }

omit [FloatType F] in
/-- What registering accepts is listable. -/
theorem isListable_of_admissible (hwell : env.Wellformed)
    (h : Admissible formTypes env.atOnce state item (getRegisterKey env item) entry) :
    entry ∈ env.inventory ∧ entry.object = item ∧
      isListable formTypes env (snapshotQuickList state) entry = true := by
  have hobject : entry.object = item := by simpa using List.find?_some h.listed
  have hne : item ≠ 0 := by
    rintro rfl
    have hfound : (env.lookupByID 0 && (env.form 0).isBoundObject) = true := h.found
    rw [hwell.noForm] at hfound
    cases hfound
  refine ⟨List.mem_of_find?_eq_some h.listed, hobject, isListable_iff.mpr ?_⟩
  rw [hobject]
  exact ⟨⟨hne, hwell.getRegisterKey_ne_zero hne⟩, h.notExcluded, h.group, h.notRegistered⟩

/-- In one state of the game, an item is registered when every check passes. -/
theorem succeeds_atOnce_iff :
    (tryRegisterItem formTypes env.atOnce state item).2.success = true ↔
      ∃ entry, Admissible formTypes env.atOnce state item (getRegisterKey env item) entry := by
  rw [tryRegisterItem_success_iff, getRegisterKey_atOnce]
  exact and_iff_left (Int.sub_one_lt_of_le (Int.le_refl _))

/-- `TryRegisterItem`, called for the row's form, registers the row's key and group. -/
def Registers (formTypes : FormID → FormType) (env : Environment F) (state : RuntimeState F)
    (row : ListItem) : Prop :=
  (tryRegisterItem formTypes env state row.formId).2.success = true ∧
    (tryRegisterItem formTypes env state row.formId).2.regKey = row.regKey ∧
    (tryRegisterItem formTypes env state row.formId).2.group = row.group ∧
    (tryRegisterItem formTypes env state row.formId).1.registeredItems.lookup row.regKey =
      some row.group

theorem registers_of_admissible
    (hlistable : isListable formTypes env (snapshotQuickList state) entry = true)
    (h : Admissible formTypes env.atOnce state entry.object (getRegisterKey env entry.object)
      entry) :
    Registers formTypes env.atOnce state
      (listItem formTypes env (snapshotQuickList state) entry) := by
  obtain ⟨⟨-, hkey⟩, -, -, -⟩ := isListable_iff.mp hlistable
  have hsuccess := succeeds_atOnce_iff.mpr ⟨entry, h⟩
  obtain ⟨hregKey, hgroup, hstate⟩ := registered_of_success hsuccess
  have hrow : (listItem formTypes env (snapshotQuickList state) entry).group =
      getDiscoveryGroup formTypes env state (getRegisterKey env entry.object) :=
    getDiscoveryGroupFast_eq hkey
  rw [getRegisterKey_atOnce] at hregKey hgroup hstate
  refine ⟨hsuccess, hregKey, hgroup.trans hrow.symm, ?_⟩
  obtain ⟨ledger, hcommit⟩ := commitRegistration_eq formTypes env.atOnce state entry.object
    (getRegisterKey env entry.object)
    (getDiscoveryGroup formTypes env.atOnce state (getRegisterKey env entry.object))
  show (tryRegisterItem formTypes env.atOnce state entry.object).1.registeredItems.lookup
    (getRegisterKey env entry.object) = _
  rw [hstate, hcommit, hrow]
  exact (congrArg (AList.lookup _) (UnorderedMap.emplace_of_notMem h.fresh _)).trans
    (AList.lookup_insert _)

omit [FloatType F] in
theorem leads_head {rest : List InventoryEntryData} {quickListState : QuickListSnapshot}
    (hinventory : env.inventory = entry :: rest)
    (hlistable : isListable formTypes env quickListState entry = true) :
    Leads formTypes env quickListState entry :=
  ⟨[], rest, hinventory, hlistable, fun _ hmem => absurd hmem List.not_mem_nil⟩

end Agreement

/-! ## Some swords -/

section Swords

/-- A player with one of each item; the first two are variants of the third. -/
def stall (name : Text) (inventory : List InventoryEntryData) : Environment Float32 where
  player := true
  avOwner := none
  form := fun _ => { name }
  lookupByID := fun id => id ≠ 0
  settings := {}
  tccMaster := none
  tccDisplayed := none
  excluded := ∅
  variantBase := UnorderedMap.insertAll [(1, 3), (2, 3)] ∅
  questProtected := fun _ => false
  questProtectedAgain := fun _ => false
  inventory
  itemCount := fun _ => 1
  itemCountAfter := fun _ => 0
  l10n := fun _ fallback => fallback

/-- A sword that is not worn. -/
def sword : InventoryEntryData where
  object := 2

/-- A variant of the sword, in the player's hand. -/
def wornSword : InventoryEntryData where
  object := 1
  extraLists := [{ count := 1, worn := true, hotkey := false }]

theorem wellformed_stall (name : Text) {inventory : List InventoryEntryData}
    (h : ∀ entry ∈ inventory, entry.object ≠ 0) : (stall name inventory).Wellformed where
  inventory entry hmem := by
    have hne := h entry hmem
    simp [Environment.lookupBoundObject, stall, hne]
  noForm := rfl
  template _ := (Option.some_ne_none 0).symm

end Swords

/-! ## Soundness: an enabled row can be registered -/

section Soundness

variable {F : Type} [FloatType F]

/-- Every enabled row of the list can be registered, with the key and the group it shows. -/
def OffersRegister (formTypes : FormID → FormType) (env : Environment F)
    (state : RuntimeState F) : Prop :=
  ∀ row ∈ buildQuickListEligibleItems formTypes env (snapshotQuickList state),
    row.IsEnabled → Registers formTypes env.atOnce state row

omit [FloatType F] in
/-- Every item that leads and is actionable has a name, its own or its key's. -/
def OffersNamed (formTypes : FormID → FormType) (env : Environment F)
    (state : RuntimeState F) : Prop :=
  ∀ entry, Leads formTypes env (snapshotQuickList state) entry → Actionable env entry →
    bestItemName env (some (getRegisterKey env entry.object)) (some entry.object) ≠ []

/-- What the list offers can be registered exactly when all of it has a name. -/
theorem offersRegister_iff (formTypes : FormID → FormType) {env : Environment F}
    (hwell : env.Wellformed) (state : RuntimeState F) :
    OffersRegister formTypes env state ↔ OffersNamed formTypes env state := by
  constructor
  · intro h entry hleads hactionable
    obtain ⟨hrow, henabled⟩ := enabled_iff.mpr ⟨entry, hleads, hactionable, rfl⟩
    obtain ⟨_, hadmissible⟩ := succeeds_atOnce_iff.mp (h _ hrow henabled).1
    exact hadmissible.named
  · intro h row hrow henabled
    obtain ⟨entry, hleads, hactionable, rfl⟩ := enabled_iff.mp ⟨hrow, henabled⟩
    exact registers_of_admissible hleads.isCounted
      (admissible_of_leads hwell hleads hactionable (h entry hleads hactionable))

theorem offersRegister_swords :
    OffersRegister (fun _ => .Weapon) (stall (utf8 "Sword") [wornSword, sword]) {} ↔
      OffersNamed (fun _ => .Weapon) (stall (utf8 "Sword") [wornSword, sword]) {} :=
  offersRegister_iff _ (wellformed_stall _ (by decide)) {}

/-- A sword without a name is offered, and refused. -/
theorem not_offersRegister :
    ¬ ∀ (formTypes : FormID → FormType) (env : Environment Float32) (state : RuntimeState Float32),
      env.Wellformed → OffersRegister formTypes env state := by
  intro h
  have hleads : Leads (fun _ => .Weapon) (stall [] [sword])
      (snapshotQuickList ({} : RuntimeState Float32)) sword := leads_head rfl (by decide)
  have hactionable : Actionable (stall [] [sword]) sword :=
    ⟨by decide, by decide, by decide, by decide⟩
  obtain ⟨hrow, henabled⟩ := enabled_iff.mpr ⟨sword, hleads, hactionable, rfl⟩
  have hfails : (tryRegisterItem (fun _ => .Weapon) (stall [] [sword]).atOnce {} 2).2.success =
      false := by decide
  have hsuccess := (h _ _ _ (wellformed_stall [] (by decide)) _ hrow henabled).1
  exact Bool.false_ne_true (hfails.symm.trans hsuccess)

end Soundness

/-! ## Completeness: what can be registered has an enabled row -/

section Completeness

variable {F : Type} [FloatType F]

/-- Every item that can be registered has an enabled row with its key. -/
def OffersRegistrable (formTypes : FormID → FormType) (env : Environment F)
    (state : RuntimeState F) : Prop :=
  ∀ item, (tryRegisterItem formTypes env.atOnce state item).2.success = true →
    ∃ row ∈ buildQuickListEligibleItems formTypes env (snapshotQuickList state),
      row.IsEnabled ∧ row.regKey = getRegisterKey env item

omit [FloatType F] in
/-- An item that leads, and shares its key with one that can be registered, is
actionable. -/
def LeadsActionable (formTypes : FormID → FormType) (env : Environment F)
    (state : RuntimeState F) : Prop :=
  ∀ entry, Leads formTypes env (snapshotQuickList state) entry →
    (∃ item itemEntry,
      Admissible formTypes env.atOnce state item (getRegisterKey env item) itemEntry ∧
        getRegisterKey env item = getRegisterKey env entry.object) →
    Actionable env entry

/-- The list offers all that can be registered exactly when none of it comes after an
item with the same key that is listed but not actionable. -/
theorem offersRegistrable_iff (formTypes : FormID → FormType) {env : Environment F}
    (hwell : env.Wellformed) (state : RuntimeState F) :
    OffersRegistrable formTypes env state ↔ LeadsActionable formTypes env state := by
  constructor
  · rintro h entry hleads ⟨item, itemEntry, hadmissible, hkey⟩
    obtain ⟨row, hrow, henabled, hrowKey⟩ := h item (succeeds_atOnce_iff.mpr ⟨_, hadmissible⟩)
    obtain ⟨other, hother, hactionable, rfl⟩ := enabled_iff.mp ⟨hrow, henabled⟩
    -- the row with this key is that of the item that leads
    have heq : other = entry := hother.eq_of_key_eq hleads (hrowKey.trans hkey)
    exact heq ▸ hactionable
  · intro h item hsuccess
    obtain ⟨itemEntry, hadmissible⟩ := succeeds_atOnce_iff.mp hsuccess
    obtain ⟨hmem, hobject, hlistable⟩ := isListable_of_admissible hwell hadmissible
    obtain ⟨entry, hleads, hkey⟩ : ∃ entry, Leads formTypes env (snapshotQuickList state) entry ∧
        getRegisterKey env entry.object = getRegisterKey env itemEntry.object :=
      IsFirst.exists_of_mem hmem hlistable
    rw [hobject] at hkey
    obtain ⟨hrow, henabled⟩ := enabled_iff.mpr
      ⟨entry, hleads, h entry hleads ⟨item, itemEntry, hadmissible, hkey.symm⟩, rfl⟩
    exact ⟨_, hrow, henabled, hkey⟩

theorem offersRegistrable_swords :
    OffersRegistrable (fun _ => .Weapon) (stall (utf8 "Sword") [wornSword, sword]) {} ↔
      LeadsActionable (fun _ => .Weapon) (stall (utf8 "Sword") [wornSword, sword]) {} :=
  offersRegistrable_iff _ (wellformed_stall _ (by decide)) {}

/-- A sword is hidden by its variant in the player's hand. -/
theorem not_offersRegistrable :
    ¬ ∀ (formTypes : FormID → FormType) (env : Environment Float32) (state : RuntimeState Float32),
      env.Wellformed → OffersRegistrable formTypes env state := by
  intro h
  have hsuccess : (tryRegisterItem (fun _ => .Weapon)
      (stall (utf8 "Sword") [wornSword, sword]).atOnce {} 2).2.success = true := by decide
  obtain ⟨row, hrow, henabled, hrowKey⟩ := h _ _ _ (wellformed_stall _ (by decide)) 2 hsuccess
  obtain ⟨entry, hleads, hactionable, rfl⟩ := enabled_iff.mp ⟨hrow, henabled⟩
  -- the sword in the hand has the key's row
  have hworn : Leads (fun _ => .Weapon) (stall (utf8 "Sword") [wornSword, sword])
      (snapshotQuickList ({} : RuntimeState Float32)) wornSword := leads_head rfl (by decide)
  have hkey : getRegisterKey (stall (utf8 "Sword") [wornSword, sword]) 2 =
      getRegisterKey (stall (utf8 "Sword") [wornSword, sword]) wornSword.object := by decide
  have hunsafe : ¬ 0 < selectSafeCount wornSword 1 true := by decide
  rw [hleads.eq_of_key_eq hworn (hrowKey.trans hkey)] at hactionable
  exact hunsafe hactionable.safe

end Completeness

end CodexOfPower.Registration
