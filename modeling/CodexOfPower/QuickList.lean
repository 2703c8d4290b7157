/-
# `CodexOfPower.QuickList` — the list of items that can be registered

`BuildQuickListEligibleItems` goes through the inventory and makes a row of every
item whose key is not registered or excluded.  It repeats the checks of
`TryRegisterItem` on a snapshot of the registered and the blocked set, and keeps one
row for a key: that of the first item with it.  A row that cannot be registered now
carries a reason.

The snapshot of the quest-protected forms is the environment's `questProtected`.

## What is not said

The order of rows with the same group and name is left open by `std::sort`; one order is
taken here.  Where the list comes from when a request is answered, anew or
from the cache, is in `CodexOfPower.QuickListCache`.
-/
import CodexOfPower.Registration
import CodexOfPower.Lib.FirstOfKey

namespace CodexOfPower.Registration

open RE Builds

/-! ## The model -/

structure ListItem where
  formId : FormID := 0
  regKey : FormID := 0
  group : UInt32 := 255
  totalCount : Int := 0
  safeCount : Int := 0
  excluded : Bool := false
  registered : Bool := false
  blocked : Bool := false
  buildPointsCenti : BuildPointCenti := 0
  disabledReason : Text := []
  name : Text := []
deriving DecidableEq

/-- `RegistrationStateStore::QuickListSnapshot` -/
structure QuickListSnapshot where
  blockedItems : UnorderedSet FormID
  registeredKeys : UnorderedSet FormID

def snapshotQuickList {F : Type} (state : RuntimeState F) : QuickListSnapshot where
  blockedItems := state.blockedItems
  registeredKeys := UnorderedMap.emplaceAll
    (state.registeredItems.toPairs.map fun entry => (entry.1, ())) ∅

section Model

variable {F : Type} (formTypes : FormID → FormType) (env : Environment F)
  (quickListState : QuickListSnapshot)

def blockedByFavorite (entry : InventoryEntryData) (totalCount : Int) (protectFavorites : Bool) :
    Bool :=
  if totalCount ≤ 0 then false
  else entry.extraLists.any fun xList => protectFavorites && xList.hotkey

def determineDisabledReason (questProtected : Bool) (tccGate : TccGateDecision) (safeCount : Int)
    (blockedByFavorite : Bool) : Text :=
  if questProtected then utf8 "quest_protected"
  else if tccGate ≠ .kAllow then utf8 "not_actionable"
  else if 0 < safeCount then []
  else if blockedByFavorite then utf8 "favorite_protected"
  else utf8 "not_actionable"

def isExcludedByMap (formId : FormID) : Bool := if formId = 0 then true else formId ∈ env.excluded

def isExcludedFast (item : FormID) : Bool :=
  if isExcludedByMap env item || item ∈ quickListState.blockedItems then true
  else isIntrinsicExcluded (env.form item)

def getDiscoveryGroupFast (item : FormID) : UInt32 :=
  if isExcludedFast env quickListState item then 255 else groupFromFormType (formTypes item)

/-- The checks before a row is made: the item and its key are neither excluded nor
registered, and the key has a group. -/
def isListable (entry : InventoryEntryData) : Bool :=
  let obj := entry.object
  let regKey := getRegisterKey env obj
  if 5 < getDiscoveryGroupFast formTypes env quickListState regKey then false
  else if isExcludedFast env quickListState obj ||
      (regKey ≠ obj && isExcludedFast env quickListState regKey) then false
  else !(regKey ∈ quickListState.registeredKeys || obj ∈ quickListState.registeredKeys)

def listItem (entry : InventoryEntryData) : ListItem :=
  let obj := entry.object
  let regKey := getRegisterKey env obj
  let totalCount := env.itemCount obj
  let safeCount := selectSafeCount entry totalCount env.settings.protectFavorites
  let isQuestProtected := entry.isQuestObject || env.questProtected regKey || env.questProtected obj
  let disabledReason := determineDisabledReason isQuestProtected (evaluateTccGate env obj regKey)
    safeCount (blockedByFavorite entry totalCount env.settings.protectFavorites)
  let name := bestItemName env (some regKey) (some obj)
  { formId := obj
    regKey
    group := getDiscoveryGroupFast formTypes env quickListState regKey
    totalCount
    safeCount := if disabledReason ≠ [] then 0 else safeCount
    blocked := disabledReason ≠ []
    buildPointsCenti := BuildProgression.resolveBuildPointsForFormType (formTypes regKey)
    disabledReason
    name := if name = [] then env.text "ui.unnamed" "(unnamed)" else name }

/-- What the loop carries. -/
structure Scan where
  seenRegKeys : UnorderedSet FormID := ∅
  allEligible : List ListItem := []

def appendEligibleItem (scan : Scan) (entry : InventoryEntryData) : Scan :=
  let regKey := getRegisterKey env entry.object
  if !isListable formTypes env quickListState entry then scan
  else if regKey ∈ scan.seenRegKeys then scan
  else
    let scan := { scan with seenRegKeys := scan.seenRegKeys.emplace regKey () }
    if env.itemCount entry.object ≤ 0 then scan
    else { scan with
      allEligible := scan.allEligible ++ [listItem formTypes env quickListState entry] }

def precedes (a b : ListItem) : Bool :=
  if a.group ≠ b.group then a.group < b.group else a.name < b.name

/-- Sorted by group and name; `std::sort` leaves the order of equal rows open. -/
def buildQuickListEligibleItems : List ListItem :=
  let scan := env.inventory.foldl (appendEligibleItem formTypes env quickListState) {}
  scan.allEligible.mergeSort fun a b => !precedes b a

end Model

/-! ## Which rows there are -/

section Rows

variable {F : Type} {formTypes : FormID → FormType} {env : Environment F}
  {quickListState : QuickListSnapshot} {entry : InventoryEntryData} {row : ListItem}

/-- The first listable item of its key, in what is left of the inventory. -/
def LeadsIn (formTypes : FormID → FormType) (env : Environment F)
    (quickListState : QuickListSnapshot) (inventory : List InventoryEntryData)
    (entry : InventoryEntryData) : Prop :=
  IsFirst (fun entry => isListable formTypes env quickListState entry = true)
    (fun entry => getRegisterKey env entry.object) inventory entry

abbrev Leads (formTypes : FormID → FormType) (env : Environment F)
    (quickListState : QuickListSnapshot) (entry : InventoryEntryData) : Prop :=
  LeadsIn formTypes env quickListState env.inventory entry

theorem appendEligibleItem_of_not_listable {scan : Scan}
    (h : isListable formTypes env quickListState entry = false) :
    appendEligibleItem formTypes env quickListState scan entry = scan := by
  unfold appendEligibleItem
  rw [h]
  rfl

theorem appendEligibleItem_of_seen {scan : Scan}
    (h : getRegisterKey env entry.object ∈ scan.seenRegKeys) :
    appendEligibleItem formTypes env quickListState scan entry = scan := by
  unfold appendEligibleItem
  dsimp only
  rw [if_pos h]
  exact ite_self _

theorem appendEligibleItem_of_new {scan : Scan}
    (h : isListable formTypes env quickListState entry = true)
    (hnew : getRegisterKey env entry.object ∉ scan.seenRegKeys) :
    (appendEligibleItem formTypes env quickListState scan entry).seenRegKeys =
        scan.seenRegKeys.emplace (getRegisterKey env entry.object) () ∧
      (appendEligibleItem formTypes env quickListState scan entry).allEligible =
        scan.allEligible ++ if env.itemCount entry.object ≤ 0 then []
          else [listItem formTypes env quickListState entry] := by
  unfold appendEligibleItem
  dsimp only
  rw [h, Bool.not_true, if_neg Bool.false_ne_true, if_neg hnew]
  split_ifs
  · exact ⟨rfl, (List.append_nil _).symm⟩
  · exact ⟨rfl, rfl⟩

/-- The loop adds the rows of the items that lead and whose key was not seen before. -/
theorem mem_foldl_appendEligibleItem {inventory : List InventoryEntryData} {scan : Scan} :
    row ∈ (inventory.foldl (appendEligibleItem formTypes env quickListState) scan).allEligible ↔
      row ∈ scan.allEligible ∨
      ∃ entry, LeadsIn formTypes env quickListState inventory entry ∧
        getRegisterKey env entry.object ∉ scan.seenRegKeys ∧
        0 < env.itemCount entry.object ∧ row = listItem formTypes env quickListState entry := by
  induction inventory generalizing scan with
  | nil =>
    constructor
    · exact .inl
    · rintro (h | ⟨_, hleads, -⟩)
      · exact h
      · exact absurd hleads IsFirst.nil
  | cons head rest ih =>
    rw [List.foldl_cons, ih]
    cases hlistable : isListable formTypes env quickListState head with
    | false =>
      -- the head neither leads nor takes a key
      rw [appendEligibleItem_of_not_listable hlistable]
      simp only [LeadsIn, IsFirst.cons_iff, hlistable, Bool.false_eq_true, and_false, false_or,
        false_implies, and_true]
    | true =>
      by_cases hseen : getRegisterKey env head.object ∈ scan.seenRegKeys
      · -- nor does it add a row when its key was seen, and no later item with it does
        rw [appendEligibleItem_of_seen hseen]
        simp only [LeadsIn, IsFirst.cons_iff, hlistable, and_true, true_implies]
        refine or_congr_right (exists_congr fun entry => ?_)
        constructor
        · rintro ⟨hleads, hnew, hrest⟩
          exact ⟨.inr ⟨hleads, fun heq => hnew (heq ▸ hseen)⟩, hnew, hrest⟩
        · rintro ⟨rfl | ⟨hleads, -⟩, hnew, hrest⟩
          · exact absurd hseen hnew
          · exact ⟨hleads, hnew, hrest⟩
      · obtain ⟨hkeys, hrows⟩ := appendEligibleItem_of_new hlistable hseen
        rw [hkeys, hrows, List.mem_append]
        simp only [LeadsIn, IsFirst.cons_iff, hlistable, and_true, true_implies,
          UnorderedMap.mem_emplace, not_or]
        constructor
        · rintro ((hold | hhead) | ⟨entry, hleads, ⟨hne, hnew⟩, hcount, hrow⟩)
          · exact .inl hold
          · split_ifs at hhead with hcount
            · exact absurd hhead List.not_mem_nil
            · exact .inr ⟨head, .inl rfl, hseen, Int.not_le.mp hcount, List.mem_singleton.mp hhead⟩
          · exact .inr ⟨entry, .inr ⟨hleads, fun heq => hne heq.symm⟩, hnew, hcount, hrow⟩
        · rintro (hold | ⟨entry, rfl | ⟨hleads, hne⟩, hnew, hcount, hrow⟩)
          · exact .inl (.inl hold)
          · rw [if_neg (Int.not_le.mpr hcount)]
            exact .inl (.inr (List.mem_singleton.mpr hrow))
          · exact .inr ⟨entry, hleads, ⟨fun heq => hne heq.symm, hnew⟩, hcount, hrow⟩

theorem length_buildQuickListEligibleItems :
    (buildQuickListEligibleItems formTypes env quickListState).length =
      (env.inventory.foldl (appendEligibleItem formTypes env quickListState)
        {}).allEligible.length :=
  List.length_mergeSort _

theorem mem_buildQuickListEligibleItems :
    row ∈ buildQuickListEligibleItems formTypes env quickListState ↔
      ∃ entry, Leads formTypes env quickListState entry ∧ 0 < env.itemCount entry.object ∧
        row = listItem formTypes env quickListState entry := by
  unfold buildQuickListEligibleItems
  dsimp only
  rw [List.mem_mergeSort, mem_foldl_appendEligibleItem]
  constructor
  · rintro (hnone | ⟨entry, hleads, -, hcount, hrow⟩)
    · exact absurd hnone List.not_mem_nil
    · exact ⟨entry, hleads, hcount, hrow⟩
  · rintro ⟨entry, hleads, hcount, hrow⟩
    exact .inr ⟨entry, hleads, AList.notMem_empty _, hcount, hrow⟩

/-! ## The keys of the rows -/

/-- No two rows have one key, and the keys are seen. -/
structure Scan.Distinct (scan : Scan) : Prop where
  nodup : (scan.allEligible.map ListItem.regKey).Nodup
  seen : ∀ row ∈ scan.allEligible, row.regKey ∈ scan.seenRegKeys

theorem Scan.Distinct.appendEligibleItem {scan : Scan} (h : scan.Distinct)
    (entry : InventoryEntryData) :
    (appendEligibleItem formTypes env quickListState scan entry).Distinct := by
  cases hlistable : isListable formTypes env quickListState entry with
  | false =>
    rw [appendEligibleItem_of_not_listable hlistable]
    exact h
  | true =>
    by_cases hnew : getRegisterKey env entry.object ∈ scan.seenRegKeys
    · rw [appendEligibleItem_of_seen hnew]
      exact h
    · obtain ⟨hseen, hrows⟩ := appendEligibleItem_of_new hlistable hnew
      have hkeep : ∀ row ∈ scan.allEligible,
          row.regKey ∈ scan.seenRegKeys.emplace (getRegisterKey env entry.object) () :=
        fun row hrow => UnorderedMap.mem_emplace.mpr (.inr (h.seen row hrow))
      refine ⟨?_, ?_⟩
      · rw [hrows]
        split_ifs
        · rw [List.append_nil]
          exact h.nodup
        · -- the new key was not seen, so no row has it
          rw [List.map_append, List.nodup_append]
          refine ⟨h.nodup, List.nodup_singleton _, ?_⟩
          intro key hkey other hother heq
          obtain ⟨row, hrow, rfl⟩ := List.mem_map.mp hkey
          have hseenRow := h.seen row hrow
          rw [heq, List.mem_singleton.mp hother] at hseenRow
          exact hnew hseenRow
      · intro row hrow
        rw [hrows] at hrow
        rw [hseen]
        rcases List.mem_append.mp hrow with hrow | hrow
        · exact hkeep row hrow
        · split_ifs at hrow
          · exact absurd hrow List.not_mem_nil
          · rw [List.mem_singleton.mp hrow]
            exact UnorderedMap.mem_emplace.mpr (.inl rfl)

theorem Scan.Distinct.foldl {scan : Scan} (h : scan.Distinct)
    (inventory : List InventoryEntryData) :
    (inventory.foldl (Registration.appendEligibleItem formTypes env quickListState)
      scan).Distinct := by
  induction inventory generalizing scan with
  | nil => exact h
  | cons entry rest ih => exact ih (h.appendEligibleItem entry)

/-- No two rows of the list have one key. -/
theorem nodup_regKey_buildQuickListEligibleItems :
    ((buildQuickListEligibleItems formTypes env quickListState).map ListItem.regKey).Nodup := by
  have hempty : Scan.Distinct {} := ⟨List.nodup_nil, fun _ hrow => absurd hrow List.not_mem_nil⟩
  have hsorted := List.mergeSort_perm
    (env.inventory.foldl (appendEligibleItem formTypes env quickListState) {}).allEligible
    fun a b => !precedes b a
  exact (hsorted.map ListItem.regKey).nodup_iff.mpr (hempty.foldl env.inventory).nodup

/-- There are at most as many rows as keys. -/
theorem length_buildQuickListEligibleItems_le :
    (buildQuickListEligibleItems formTypes env quickListState).length ≤ 2 ^ 32 := by
  have hnodup : ((buildQuickListEligibleItems formTypes env quickListState).map
      fun row => row.regKey.toNat).Nodup := by
    have hkeys : ((buildQuickListEligibleItems formTypes env quickListState).map
        ListItem.regKey).Nodup := nodup_regKey_buildQuickListEligibleItems
    have htoNat := hkeys.map (f := UInt32.toNat) fun _ _ => UInt32.toNat.inj
    rwa [List.map_map] at htoNat
  have hsub : ((buildQuickListEligibleItems formTypes env quickListState).map
      fun row => row.regKey.toNat) ⊆ List.range (2 ^ 32) := by
    intro n hn
    obtain ⟨row, -, rfl⟩ := List.mem_map.mp hn
    exact List.mem_range.mpr row.regKey.toNat_lt
  have hle := (List.subperm_of_subset hnodup hsub).length_le
  rwa [List.length_map, List.length_range] at hle

/-! ## Which rows are enabled -/

/-- The row has no reason against it, and an item to remove. -/
def ListItem.IsEnabled (row : ListItem) : Prop := row.disabledReason = [] ∧ 0 < row.safeCount

/-- Nothing keeps the item from being registered now: it is there, no quest needs it,
the display gate lets it through, and one of it is neither worn nor a favorite. -/
structure Actionable (env : Environment F) (entry : InventoryEntryData) : Prop where
  owned : 0 < env.itemCount entry.object
  notQuest : (entry.isQuestObject || env.questProtected (getRegisterKey env entry.object) ||
    env.questProtected entry.object) = false
  gate : evaluateTccGate env entry.object (getRegisterKey env entry.object) = .kAllow
  safe : 0 < selectSafeCount entry (env.itemCount entry.object) env.settings.protectFavorites

theorem determineDisabledReason_eq_nil_iff {questProtected blockedByFavorite : Bool}
    {tccGate : TccGateDecision} {safeCount : Int} :
    determineDisabledReason questProtected tccGate safeCount blockedByFavorite = [] ↔
      questProtected = false ∧ tccGate = .kAllow ∧ 0 < safeCount := by
  have hreason : ∀ reason ∈ [utf8 "quest_protected", utf8 "not_actionable",
      utf8 "favorite_protected"], reason ≠ [] := by decide
  unfold determineDisabledReason
  cases questProtected with
  | true => simp [hreason]
  | false =>
    by_cases hgate : tccGate = .kAllow
    · by_cases hsafe : 0 < safeCount
      · simp [hgate, hsafe]
      · cases blockedByFavorite <;> simp [hgate, hsafe, hreason]
    · simp [hgate, hreason]

theorem isEnabled_listItem_iff (howned : 0 < env.itemCount entry.object) :
    (listItem formTypes env quickListState entry).IsEnabled ↔ Actionable env entry := by
  constructor
  · rintro ⟨hreason, -⟩
    obtain ⟨hquest, hgate, hsafe⟩ := determineDisabledReason_eq_nil_iff.mp hreason
    exact ⟨howned, hquest, hgate, hsafe⟩
  · intro h
    have hreason : (listItem formTypes env quickListState entry).disabledReason = [] :=
      determineDisabledReason_eq_nil_iff.mpr ⟨h.notQuest, h.gate, h.safe⟩
    refine ⟨hreason, ?_⟩
    rw [show (listItem formTypes env quickListState entry).safeCount = _ from
      if_neg (not_not.mpr hreason)]
    exact h.safe

/-- The enabled rows: one for each item that leads and is actionable. -/
theorem enabled_iff :
    (row ∈ buildQuickListEligibleItems formTypes env quickListState ∧ row.IsEnabled) ↔
      ∃ entry, Leads formTypes env quickListState entry ∧ Actionable env entry ∧
        row = listItem formTypes env quickListState entry := by
  rw [mem_buildQuickListEligibleItems]
  constructor
  · rintro ⟨⟨entry, hleads, howned, rfl⟩, henabled⟩
    exact ⟨entry, hleads, (isEnabled_listItem_iff howned).mp henabled, rfl⟩
  · rintro ⟨entry, hleads, hactionable, rfl⟩
    exact ⟨⟨entry, hleads, hactionable.owned, rfl⟩,
      (isEnabled_listItem_iff hactionable.owned).mpr hactionable⟩

end Rows

end CodexOfPower.Registration
