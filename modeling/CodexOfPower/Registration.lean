/-
# `CodexOfPower.Registration` — registering an item, and undoing it

`TryRegisterItem` consumes one item of the inventory and records its key; a chain
of checks may refuse, and two of the refusals block the item.
`TryUndoRegistration` takes the newest record off the history, gives the item back
and takes its contribution back; on each of its failure exits it puts back what it
had taken.

The game is an `Environment`: what the calls into it returned.  A form is known by
its id; `form` is the object behind an id, `lookupByID` whether the game finds it.
The form type of an id is fixed (`formTypes`), all else may differ between calls.

## What is not said

The messages are texts of the environment (`l10n`), and the log is left out.  Between two
calls the game may do anything; within one call its answers are those of one environment,
with a second answer where the code asks twice.
-/
import CodexOfPower.BuildProgression
import CodexOfPower.BuildEffectRuntime

namespace CodexOfPower.Registration

open RE Builds

/-! ## The game, as the calls into it answer -/

/-- What the code asks of a `TESForm`, besides its form type. -/
structure Form where
  name : Text := []
  isKey : Bool := false
  isLockpick : Bool := false
  isGold : Bool := false
  /-- It is a `TESBoundObject`. -/
  isBoundObject : Bool := true
  /-- It is a weapon with a template. -/
  templateWeapon : Option FormID := none

structure ExtraDataList where
  count : Int
  worn : Bool
  hotkey : Bool

structure InventoryEntryData where
  object : FormID
  isQuestObject : Bool := false
  extraLists : List ExtraDataList := []

structure Settings where
  normalizeRegistration : Bool := true
  requireTccDisplayed : Bool := false
  protectFavorites : Bool := true

/-- What the game and the disk answered during one call. -/
structure Environment (F : Type) where
  player : Bool
  avOwner : Option (ActorValue → F)
  form : FormID → Form
  lookupByID : FormID → Bool
  settings : Settings
  /-- The TCC form lists, where they exist. -/
  tccMaster : Option (FormID → Bool)
  tccDisplayed : Option (FormID → Bool)
  excluded : UnorderedSet FormID
  variantBase : UnorderedMap FormID FormID
  /-- Quest protection, at the first and at the second check. -/
  questProtected : FormID → Bool
  questProtectedAgain : FormID → Bool
  inventory : List InventoryEntryData
  /-- `GetItemCount`, before and after the item was moved. -/
  itemCount : FormID → Int
  itemCountAfter : FormID → Int
  /-- `L10n::T(key, fallback)` -/
  l10n : Text → Text → Text

variable {F : Type} [FloatType F] (formTypes : FormID → FormType) (env : Environment F)

/-- `LookupByID<TESBoundObject>` -/
def Environment.lookupBoundObject (env : Environment F) (formId : FormID) : Bool :=
  env.lookupByID formId && (env.form formId).isBoundObject

/-- `L10n::T` on literals. -/
def Environment.text (env : Environment F) (key fallback : String) : Text :=
  env.l10n (utf8 key) (utf8 fallback)

/-! ## Rules -/

def kUnknownGroup : UInt32 := 255

def isDragonClawName (name : Text) : Bool :=
  if name = [] then false
  else if utf8 "Dragon Claw" <:+: name ∨ utf8 "dragon claw" <:+: name then true
  else utf8 "용발톱" <:+: name

def isIntrinsicExcluded (item : Form) : Bool :=
  if item.isKey || item.isLockpick || item.isGold then true else isDragonClawName item.name

def groupFromFormType : FormType → UInt32
  | .Weapon | .Ammo => 0
  | .Armor => 1
  | .AlchemyItem => 2
  | .Ingredient => 3
  | .Book => 4
  | .Scroll | .SoulGem | .Misc => 5
  | .other => kUnknownGroup

def discoveryGroupFor (formType : FormType) (excluded : Bool) : UInt32 :=
  if excluded then kUnknownGroup else groupFromFormType formType

def isValidVariantStep (currentId nextId : FormID) : Bool := nextId ≠ 0 && nextId ≠ currentId

/-- The walk along the variant map, at most `safety` steps. -/
def followVariants : Nat → FormID → FormID
  | 0, regKey => regKey
  | safety + 1, regKey =>
    match env.variantBase.lookup regKey with
    | none => regKey
    | some baseID =>
      if !isValidVariantStep regKey baseID then regKey
      else if !env.lookupByID baseID then regKey
      else followVariants safety baseID

def getRegisterKey (item : FormID) : FormID :=
  if !env.settings.normalizeRegistration then item
  else followVariants env 8 ((env.form item).templateWeapon.getD item)

omit [FloatType F] in
theorem getRegisterKey_congr {env env' : Environment F} (hsettings : env'.settings = env.settings)
    (hform : env'.form = env.form) (hbase : env'.variantBase = env.variantBase)
    (hlookup : env'.lookupByID = env.lookupByID) (item : FormID) :
    getRegisterKey env' item = getRegisterKey env item := by
  have hfollow : ∀ safety regKey,
      followVariants env' safety regKey = followVariants env safety regKey := by
    intro safety
    induction safety with
    | zero => exact fun _ => rfl
    | succ safety ih =>
      intro regKey
      unfold followVariants
      rw [hbase]
      simp only [ih, hlookup]
  unfold getRegisterKey
  rw [hsettings, hform, hfollow]

def isExcludedForm (state : RuntimeState F) (item : FormID) : Bool :=
  if item ∈ env.excluded then true
  else if RegistrationStateStore.isBlocked state item then true
  else isIntrinsicExcluded (env.form item)

def isExcludedOrBlocked (state : RuntimeState F) (item regKey : FormID) : Bool :=
  if isExcludedForm env state item then true
  else regKey ≠ item && isExcludedForm env state regKey

def getDiscoveryGroup (state : RuntimeState F) (item : FormID) : UInt32 :=
  discoveryGroupFor (formTypes item) (isExcludedForm env state item)

def getDiscoveryGroupName (group : UInt32) : Text :=
  if group = 0 then env.text "group.weapons" "Weapons"
  else if group = 1 then env.text "group.armors" "Armors"
  else if group = 2 then env.text "group.consumables" "Consumables"
  else if group = 3 then env.text "group.ingredients" "Ingredients"
  else if group = 4 then env.text "group.books" "Books"
  else env.text "group.misc" "Misc"

inductive TccGateDecision
  | kAllow
  | kBlockNotDisplayed
  | kBlockUnavailable
deriving DecidableEq

def decideTccGate (requireTccDisplayed hasMasterList hasDisplayedList trackedByLotd
    isDisplayed : Bool) : TccGateDecision :=
  if !requireTccDisplayed then .kAllow
  else if !hasMasterList || !hasDisplayedList then .kBlockUnavailable
  else if !trackedByLotd then .kAllow
  else if isDisplayed then .kAllow else .kBlockNotDisplayed

def listHasEitherForm (list : Option (FormID → Bool)) (first second : FormID) : Bool :=
  match list with
  | none => false
  | some hasForm => if hasForm first then true else second ≠ first && hasForm second

def evaluateTccGate (item regKey : FormID) : TccGateDecision :=
  let trackedByLotd := listHasEitherForm env.tccMaster regKey item
  let displayed := listHasEitherForm env.tccDisplayed regKey item
  decideTccGate env.settings.requireTccDisplayed env.tccMaster.isSome env.tccDisplayed.isSome
    trackedByLotd displayed

/-- `BestItemName`; a null form is `none`. -/
def bestItemName (primary fallback : Option FormID) : Text :=
  let name (id : Option FormID) : Text := (id.map fun id => (env.form id).name).getD []
  if name primary ≠ [] then name primary else name fallback

/-- `Inventory::SelectSafeRemoval`, the count of items that may be removed. -/
def selectSafeCount (entry : InventoryEntryData) (totalCount : Int) (protectFavorites : Bool) :
    Int :=
  if totalCount ≤ 0 then 0
  else
    let positive (xList : ExtraDataList) : Int := if 0 < xList.count then xList.count else 0
    let safe := entry.extraLists.filter fun xList =>
      !(xList.worn || (protectFavorites && xList.hotkey))
    let baseCount := totalCount - (entry.extraLists.map positive).sum
    (safe.map positive).sum + if 0 < baseCount then baseCount else 0

/-! ## Registering -/

structure RegisterResult where
  success : Bool := false
  message : Text := []
  regKey : FormID := 0
  group : UInt32 := 255
  totalRegistered : Nat := 0

/-- The part of `TryRegisterItem` after the item was taken: insert the key, apply
its contribution, remember it for undo. -/
def commitRegistration (state : RuntimeState F) (item regKey : FormID) (group : UInt32) :
    RuntimeState F × Nat :=
  let (state, totalRegistered) := RegistrationStateStore.insertRegistered state regKey group
  let buildContribution :=
    BuildProgression.makeRegistrationContribution group (formTypes regKey)
  let state := match buildContribution with
    | none => state
    | some contribution =>
      let state := (BuildProgression.applyRegistrationContribution state contribution).1
      (syncCurrentBuildEffectsToPlayer env.avOwner state).1
  let undoRecord : UndoRecord F :=
    { formId := item, regKey := regKey, group := group, buildContribution := buildContribution }
  ((RegistrationStateStore.pushUndoRecord state undoRecord).1, totalRegistered)

/-- Everything that can refuse a registration before the state is touched: the
message, and whether the item is to be blocked. -/
inductive Refusal
  | refuse (message : Text)
  | refuseAndBlock (message : Text)

/-- The checks of `TryRegisterItem`, in order; `none` lets the item through. -/
def registrationRefusal (state : RuntimeState F) (item regKey : FormID) : Option Refusal :=
  let questItem : Refusal := .refuse
    (env.text "msg.registerQuestItem" "Codex of Power: Cannot register (active quest item)")
  if !env.player then some (.refuse (utf8 "Player unavailable"))
  else if !env.lookupBoundObject item then some (.refuse (utf8 "Invalid FormID"))
  else if isExcludedOrBlocked env state item regKey then
    some (.refuse
      (env.text "msg.registerExcluded" "Codex of Power: Cannot register (excluded item)"))
  else if env.questProtected item || (regKey ≠ item && env.questProtected regKey) then
    some questItem
  else if RegistrationStateStore.isRegisteredEither state regKey item then
    some (.refuse (utf8 "Already registered"))
  else if 5 < getDiscoveryGroup formTypes env state regKey then
    some (.refuse (utf8 "Not discoverable"))
  else if evaluateTccGate env item regKey = .kBlockNotDisplayed then
    some (.refuse (env.text "msg.registerLotdNotDisplayed"
      "Codex of Power: Cannot register (LOTD item not displayed yet)"))
  else if evaluateTccGate env item regKey = .kBlockUnavailable then
    some (.refuse (env.text "msg.registerLotdGateUnavailable"
      "Codex of Power: Cannot register (LOTD gate unavailable; check TCC install/load order)"))
  else
    match env.inventory.find? fun entry => entry.object = item with
    | none => some (.refuse (utf8 "Not in inventory"))
    | some foundEntry =>
      if foundEntry.isQuestObject || env.questProtectedAgain item ||
          (regKey ≠ item && env.questProtectedAgain regKey) then some questItem
      else if bestItemName env (some regKey) (some item) = [] then
        some (.refuseAndBlock
          (env.text "msg.registerUnnamed" "Codex of Power: Cannot register (unnamed item)"))
      else if selectSafeCount foundEntry (env.itemCount item)
          env.settings.protectFavorites ≤ 0 then
        some (.refuse (env.text "msg.registerProtected"
          "Codex of Power: Cannot register (equipped/favorited)"))
      else if env.itemCount item ≤ env.itemCountAfter item then
        some (.refuseAndBlock (env.text "msg.registerCantDestroy"
          "Codex of Power: Cannot register (cannot destroy item)"))
      else none

def tryRegisterItem (state : RuntimeState F) (formId : FormID) :
    RuntimeState F × RegisterResult :=
  let regKey := getRegisterKey env formId
  match registrationRefusal formTypes env state formId regKey with
  | some (.refuse message) => (state, { message })
  | some (.refuseAndBlock message) =>
    (RegistrationStateStore.blockPair state regKey formId, { message })
  | none =>
    let group := getDiscoveryGroup formTypes env state regKey
    let (state, totalRegistered) := commitRegistration formTypes env state formId regKey group
    let message :=
      env.text "msg.registerOkPrefix" "Registered: " ++
      bestItemName env (some regKey) (some formId) ++ utf8 " (" ++
      getDiscoveryGroupName env group ++ utf8 ", " ++
      env.text "msg.totalPrefix" "total " ++ utf8 (toString totalRegistered) ++
      env.text "msg.totalSuffix" " items" ++ utf8 ")"
    (state, { success := true, message, regKey, group, totalRegistered })

/-- `HandleRegisterBatchRequest`: each item in turn; the game answers each call on
its own. -/
def registerBatch (state : RuntimeState F) :
    List (Environment F × FormID) → RuntimeState F × Nat
  | [] => (state, 0)
  | (env, formId) :: rest =>
    let (state, result) := tryRegisterItem formTypes env state formId
    let (state, successCount) := registerBatch state rest
    (state, (if result.success then 1 else 0) + successCount)

/-! ## Undoing -/

structure UndoResult where
  success : Bool := false
  message : Text := []
  actionId : UInt64 := 0
  regKey : FormID := 0
  totalRegistered : Nat := 0

def rollbackFailedUndo (state : RuntimeState F) (record : UndoRecord F) : RuntimeState F :=
  let (state, _) := RegistrationStateStore.insertRegistered state record.regKey record.group
  RegistrationStateStore.restoreUndoRecord state record

def resolveUndoItemName (record : UndoRecord F) : Text :=
  let lookup (id : FormID) : Option FormID := if env.lookupByID id then some id else none
  let name := bestItemName env (lookup record.formId) (lookup record.regKey)
  if name = [] then env.text "ui.unnamed" "(unnamed)" else name

def resolveUndoItemObject (record : UndoRecord F) : Option FormID :=
  if env.lookupBoundObject record.formId then some record.formId
  else if env.lookupBoundObject record.regKey then some record.regKey
  else none

/-- Whether the item came back: the stages at which an undo can still fail once the
registration is removed, with their messages. -/
def undoFailure (record : UndoRecord F) : Option Text :=
  if !env.player then
    some (env.text "msg.undoPlayerUnavailable" "Codex of Power: Undo failed (player unavailable)")
  else
    match resolveUndoItemObject env record with
    | none =>
      some (env.text "msg.undoItemMissing" "Codex of Power: Undo failed (item form missing)")
    | some restoreItem =>
      if env.itemCountAfter restoreItem ≤ env.itemCount restoreItem then
        some (env.text "msg.undoRestoreFailed" "Codex of Power: Undo failed (cannot restore item)")
      else none

/-- The progression rollback of an undo: the new state, and whether there was
something to roll back that was not rolled back. -/
def undoProgression (state : RuntimeState F) (record : UndoRecord F) : RuntimeState F × Bool :=
  match record.buildContribution with
  | some contribution =>
    let hadRollbackTarget : Bool :=
      0 < contribution.recordDelta || 0 < contribution.pointsDeltaCenti
    let (state, rollbackResult) :=
      BuildProgression.rollbackRegistrationContributionDetailed state contribution
    let rollbackApplied := rollbackResult.scoreChanged || 0 < rollbackResult.deactivatedSlots
    (state, hadRollbackTarget && !rollbackApplied)
  | none =>
    let (state, adjustments) :=
      Rewards.rollbackRewardDeltas env.avOwner.isSome state record.rewardDeltas
    let hadRollbackTarget := record.rewardDeltas.any fun entry =>
      Rewards.kRewardCapEpsilon < FloatType.abs entry.delta
    (state, hadRollbackTarget && adjustments.length = 0)

def tryUndoRegistration (state : RuntimeState F) (actionId : UInt64) :
    RuntimeState F × UndoResult :=
  match RegistrationStateStore.popLatestUndoRecord state actionId with
  | (state, none) =>
    let message := env.text "msg.undoOnlyLatest"
      "Codex of Power: Undo is available only for the latest registration"
    (state, { actionId, message })
  | (state, some record) =>
    match RegistrationStateStore.removeRegistered state record.regKey with
    | (state, false) =>
      let message := env.text "msg.undoMissingRegistration"
        "Codex of Power: Undo failed (registration missing)"
      (RegistrationStateStore.restoreUndoRecord state record,
        { actionId, regKey := record.regKey, message })
    | (state, true) =>
      match undoFailure env record with
      | some message =>
        (rollbackFailedUndo state record, { actionId, regKey := record.regKey, message })
      | none =>
        let (state, notApplied) := undoProgression env state record
        let state := if record.buildContribution.isSome then
          (syncCurrentBuildEffectsToPlayer env.avOwner state).1 else state
        let totalRegistered := (RegistrationStateStore.snapshotRegisteredItems state).length
        let message :=
          env.text "msg.undoOkPrefix" "Undo: " ++ resolveUndoItemName env record ++
          utf8 " (" ++ env.text "msg.totalPrefix" "total " ++ utf8 (toString totalRegistered) ++
          env.text "msg.totalSuffix" " items" ++ utf8 ")" ++
          if notApplied then env.text "msg.undoRewardRollbackWarning"
            " [warning: reward rollback not applied]" else []
        (state,
          { success := true, message, actionId, regKey := record.regKey, totalRegistered })

/-! ## What a registration can do -/

section RegisterCases

variable {formTypes env} {state : RuntimeState F} {item regKey : FormID}

theorem passed_of_eq_none {α : Type} {check : Prop} [Decidable check] {refusal : α}
    {rest : Option α} (h : (if check then some refusal else rest) = none) :
    ¬ check ∧ rest = none := by
  by_cases hc : check
  · rw [if_pos hc] at h; cases h
  · rw [if_neg hc] at h; exact ⟨hc, h⟩

/-- Every check up to the removal of the item passes; `entry` is where the inventory
lists the item. -/
structure Admissible (formTypes : FormID → FormType) (env : Environment F)
    (state : RuntimeState F) (item regKey : FormID) (entry : InventoryEntryData) : Prop where
  player : env.player = true
  found : env.lookupBoundObject item = true
  notExcluded : isExcludedOrBlocked env state item regKey = false
  notQuest : (env.questProtected item || (regKey ≠ item && env.questProtected regKey)) = false
  notRegistered : RegistrationStateStore.isRegisteredEither state regKey item = false
  group : getDiscoveryGroup formTypes env state regKey ≤ 5
  gate : evaluateTccGate env item regKey = .kAllow
  listed : (env.inventory.find? fun entry => entry.object = item) = some entry
  notQuestAgain : (entry.isQuestObject || env.questProtectedAgain item ||
    (regKey ≠ item && env.questProtectedAgain regKey)) = false
  named : bestItemName env (some regKey) (some item) ≠ []
  safe : 0 < selectSafeCount entry (env.itemCount item) env.settings.protectFavorites

omit [FloatType F] in
theorem evaluateTccGate_eq_kAllow_iff :
    evaluateTccGate env item regKey = .kAllow ↔
      evaluateTccGate env item regKey ≠ .kBlockNotDisplayed ∧
        evaluateTccGate env item regKey ≠ .kBlockUnavailable := by
  cases evaluateTccGate env item regKey <;> simp

omit [FloatType F] in
/-- What lets an item through: every check passes, and the item is gone afterwards. -/
theorem registrationRefusal_eq_none_iff :
    registrationRefusal formTypes env state item regKey = none ↔
      (∃ entry, Admissible formTypes env state item regKey entry) ∧
        env.itemCountAfter item < env.itemCount item := by
  constructor
  · intro h
    unfold registrationRefusal at h
    obtain ⟨hplayer, h⟩ := passed_of_eq_none h
    obtain ⟨hfound, h⟩ := passed_of_eq_none h
    obtain ⟨hexcluded, h⟩ := passed_of_eq_none h
    obtain ⟨hquest, h⟩ := passed_of_eq_none h
    obtain ⟨hregistered, h⟩ := passed_of_eq_none h
    obtain ⟨hgroup, h⟩ := passed_of_eq_none h
    obtain ⟨hdisplayed, h⟩ := passed_of_eq_none h
    obtain ⟨havailable, h⟩ := passed_of_eq_none h
    cases hlisted : env.inventory.find? fun entry => entry.object = item with
    | none =>
      rw [hlisted] at h
      cases h
    | some entry =>
      rw [hlisted] at h
      obtain ⟨hagain, h⟩ := passed_of_eq_none h
      obtain ⟨hnamed, h⟩ := passed_of_eq_none h
      obtain ⟨hsafe, h⟩ := passed_of_eq_none h
      obtain ⟨hremoved, -⟩ := passed_of_eq_none h
      refine ⟨⟨entry, ?_⟩, Int.not_le.mp hremoved⟩
      exact
        { player := by simpa using hplayer
          found := by simpa using hfound
          notExcluded := Bool.not_eq_true _ ▸ hexcluded
          notQuest := Bool.not_eq_true _ ▸ hquest
          notRegistered := Bool.not_eq_true _ ▸ hregistered
          group := UInt32.not_lt.mp hgroup
          gate := evaluateTccGate_eq_kAllow_iff.mpr ⟨hdisplayed, havailable⟩
          listed := hlisted
          notQuestAgain := Bool.not_eq_true _ ▸ hagain
          named := hnamed
          safe := Int.not_le.mp hsafe }
  · rintro ⟨⟨entry, h⟩, hremoved⟩
    unfold registrationRefusal
    rw [if_neg (by rw [h.player]; decide), if_neg (by rw [h.found]; decide),
      if_neg (by rw [h.notExcluded]; decide), if_neg (Bool.not_eq_true _ ▸ h.notQuest),
      if_neg (by rw [h.notRegistered]; decide), if_neg (UInt32.not_lt.mpr h.group),
      if_neg (by rw [h.gate]; decide), if_neg (by rw [h.gate]; decide), h.listed]
    dsimp only
    rw [if_neg (Bool.not_eq_true _ ▸ h.notQuestAgain), if_neg h.named,
      if_neg (Int.not_le.mpr h.safe), if_neg (Int.not_le.mpr hremoved)]

omit [FloatType F] in
theorem Admissible.fresh {entry : InventoryEntryData}
    (h : Admissible formTypes env state item regKey entry) : regKey ∉ state.registeredItems :=
  RegistrationStateStore.not_mem_of_isRegisteredEither h.notRegistered

theorem resolveBuildPoints_of_group {formType : FormType} (h : groupFromFormType formType ≤ 5) :
    BuildProgression.resolveBuildPointsForFormType formType ≠ 0 := by
  cases formType with
  | other => exact absurd h (by decide)
  | _ => decide

/-- The group of an item that has one is that of its form type. -/
theorem discoveryGroupFor_eq {formType : FormType} {excluded : Bool}
    (h : discoveryGroupFor formType excluded ≤ 5) :
    discoveryGroupFor formType excluded = groupFromFormType formType := by
  cases excluded with
  | true => exact absurd h (by decide : ¬ kUnknownGroup ≤ 5)
  | false => rfl

omit [FloatType F] in
theorem resolveBuildPoints_of_discoveryGroup
    (h : getDiscoveryGroup formTypes env state regKey ≤ 5) :
    BuildProgression.resolveBuildPointsForFormType (formTypes regKey) ≠ 0 := by
  have hgroup : getDiscoveryGroup formTypes env state regKey =
      groupFromFormType (formTypes regKey) := discoveryGroupFor_eq h
  rw [hgroup] at h
  exact resolveBuildPoints_of_group h

/-- A call succeeds when every check passes and the item is gone afterwards. -/
theorem tryRegisterItem_success_iff {formId : FormID} :
    (tryRegisterItem formTypes env state formId).2.success = true ↔
      (∃ entry, Admissible formTypes env state formId (getRegisterKey env formId) entry) ∧
        env.itemCountAfter formId < env.itemCount formId := by
  rw [← registrationRefusal_eq_none_iff]
  unfold tryRegisterItem
  dsimp only
  cases registrationRefusal formTypes env state formId (getRegisterKey env formId) with
  | none => exact iff_of_true rfl rfl
  | some refusal =>
    cases refusal with
    | refuse message => exact iff_of_false Bool.false_ne_true (Option.some_ne_none _)
    | refuseAndBlock message => exact iff_of_false Bool.false_ne_true (Option.some_ne_none _)

/-- What a call that succeeds reports, and what it registered. -/
theorem registered_of_success {formId : FormID}
    (h : (tryRegisterItem formTypes env state formId).2.success = true) :
    (tryRegisterItem formTypes env state formId).2.regKey = getRegisterKey env formId ∧
      (tryRegisterItem formTypes env state formId).2.group =
        getDiscoveryGroup formTypes env state (getRegisterKey env formId) ∧
      (tryRegisterItem formTypes env state formId).1 =
        (commitRegistration formTypes env state formId (getRegisterKey env formId)
          (getDiscoveryGroup formTypes env state (getRegisterKey env formId))).1 := by
  unfold tryRegisterItem at h ⊢
  dsimp only at h ⊢
  cases hrefusal : registrationRefusal formTypes env state formId (getRegisterKey env formId) with
  | none => exact ⟨rfl, rfl, rfl⟩
  | some refusal =>
    rw [hrefusal] at h
    cases refusal <;> cases h

/-- A call either leaves the state alone, or blocks the item and its key, or commits
a registration of a new key. -/
theorem tryRegisterItem_cases (formTypes : FormID → FormType) (env : Environment F)
    (state : RuntimeState F) (formId : FormID) :
    ((tryRegisterItem formTypes env state formId).2.success = false ∧
      ((tryRegisterItem formTypes env state formId).1 = state ∨
        (tryRegisterItem formTypes env state formId).1 =
          RegistrationStateStore.blockPair state (getRegisterKey env formId) formId)) ∨
    ((tryRegisterItem formTypes env state formId).2.success = true ∧
      getRegisterKey env formId ∉ state.registeredItems ∧
      getDiscoveryGroup formTypes env state (getRegisterKey env formId) ≤ 5 ∧
      (tryRegisterItem formTypes env state formId).1 =
        (commitRegistration formTypes env state formId (getRegisterKey env formId)
          (getDiscoveryGroup formTypes env state (getRegisterKey env formId))).1) := by
  unfold tryRegisterItem
  dsimp only
  cases hrefusal : registrationRefusal formTypes env state formId (getRegisterKey env formId) with
  | none =>
    obtain ⟨⟨entry, hadmissible⟩, -⟩ := registrationRefusal_eq_none_iff.mp hrefusal
    exact .inr ⟨rfl, hadmissible.fresh, hadmissible.group, rfl⟩
  | some refusal =>
    cases refusal with
    | refuse message => exact .inl ⟨rfl, .inl rfl⟩
    | refuseAndBlock message => exact .inl ⟨rfl, .inr rfl⟩

theorem successCount_registerBatch_cons (call : Environment F × FormID)
    (rest : List (Environment F × FormID)) :
    (registerBatch formTypes state (call :: rest)).2 =
      (if (tryRegisterItem formTypes call.1 state call.2).2.success then 1 else 0) +
        (registerBatch formTypes (tryRegisterItem formTypes call.1 state call.2).1 rest).2 := rfl

/-- What every registration preserves, a batch preserves. -/
theorem registerBatch_preserves (P : RuntimeState F → Prop)
    (hstep : ∀ env state formId, P state → P (tryRegisterItem formTypes env state formId).1)
    (h : P state) (calls : List (Environment F × FormID)) :
    P (registerBatch formTypes state calls).1 := by
  induction calls generalizing state with
  | nil => exact h
  | cons call calls ih => exact ih (hstep call.1 state call.2 h)

end RegisterCases

/-! ## What a commit does -/

section Commit

open BuildProgression

variable (state : RuntimeState F) (item regKey : FormID) (group : UInt32)

def registrationRecord : UndoRecord F where
  actionId := state.undoNextActionId
  formId := item
  regKey := regKey
  group := group
  buildContribution := makeRegistrationContribution group (formTypes regKey)

/-- The state with a contribution applied, if there is one. -/
def applied (state : RuntimeState F) (contribution : Option BuildScoreContribution) :
    RuntimeState F :=
  match contribution with
  | none => state
  | some contribution => (applyRegistrationContribution state contribution).1

omit [FloatType F] in
theorem sameElsewhere_applied (contribution : Option BuildScoreContribution) :
    SameElsewhere state (applied state contribution) := by
  cases contribution with
  | none => exact .refl state
  | some c => exact sameElsewhere_applyRegistrationContribution state c

omit [FloatType F] in
theorem activeBuildSlots_applied (contribution : Option BuildScoreContribution) :
    (applied state contribution).activeBuildSlots = state.activeBuildSlots := by
  cases contribution with
  | none => rfl
  | some c => exact activeBuildSlots_applyRegistrationContribution state c

omit [FloatType F] in
theorem le_applied (contribution : Option BuildScoreContribution) (d : BuildDiscipline) :
    state.score d ≤ (applied state contribution).score d ∧
      state.pointsCenti d ≤ (applied state contribution).pointsCenti d := by
  cases contribution with
  | none => exact ⟨UInt32.le_refl _, UInt32.le_refl _⟩
  | some c => exact le_applyRegistrationContribution state c d

omit [FloatType F] in
theorem apply_insertRegistered (c : BuildScoreContribution) :
    (applyRegistrationContribution
      (RegistrationStateStore.insertRegistered state regKey group).1 c).1 =
      { (applyRegistrationContribution state c).1 with
        registeredItems := state.registeredItems.emplace regKey group } := by
  unfold applyRegistrationContribution
  by_cases h : c.recordDelta ≤ 0 ∨ c.pointsDeltaCenti ≤ 0
  · rw [if_pos h, if_pos h]
    rfl
  · rw [if_neg h, if_neg h]
    cases c.discipline <;> rfl

/-- A commit, field by field; the ledger alone depends on the player. -/
theorem commitRegistration_eq :
    ∃ ledger, (commitRegistration formTypes env state item regKey group).1 =
      { applied state (makeRegistrationContribution group (formTypes regKey)) with
        registeredItems := state.registeredItems.emplace regKey group
        buildAppliedEffectTotals := ledger
        undoHistory :=
          trimHistory (state.undoHistory ++ [registrationRecord formTypes state item regKey group])
        undoNextActionId := state.undoNextActionId + 1 } := by
  unfold commitRegistration registrationRecord applied
  cases makeRegistrationContribution group (formTypes regKey) with
  | none => exact ⟨_, rfl⟩
  | some c =>
    have helse := sameElsewhere_applyRegistrationContribution state c
    dsimp only
    rw [sync_frame, apply_insertRegistered]
    simp only [RegistrationStateStore.pushUndoRecord, helse.undoHistory, helse.undoNextActionId]
    exact ⟨_, rfl⟩

end Commit

/-! ## What an undo can do -/

section UndoCases

variable {state : RuntimeState F} {record : UndoRecord F} {older : List (UndoRecord F)}

/-- The state with its newest record and that record's registration taken off. -/
def takenBack (state : RuntimeState F) (older : List (UndoRecord F)) (record : UndoRecord F) :
    RuntimeState F :=
  { state with
    undoHistory := older
    registeredItems := state.registeredItems.erase record.regKey }

/-- The state after an undo that went through. -/
def undone (state : RuntimeState F) (older : List (UndoRecord F)) (record : UndoRecord F) :
    RuntimeState F :=
  let state := (undoProgression env (takenBack state older record) record).1
  if record.buildContribution.isSome then
    (syncCurrentBuildEffectsToPlayer env.avOwner state).1 else state

/-- The ways a call can end: the id is not the newest one's; the registration is
missing; the item cannot be given back; or the registration is undone. -/
theorem tryUndoRegistration_cases (env : Environment F) (state : RuntimeState F)
    (actionId : UInt64) :
    ((tryUndoRegistration env state actionId).2.success = false ∧
      (tryUndoRegistration env state actionId).1 = state) ∨
    ∃ older record, state.undoHistory = older ++ [record] ∧ record.actionId = actionId ∧
      (((tryUndoRegistration env state actionId).2.success = false ∧
          record.regKey ∉ state.registeredItems ∧
          (tryUndoRegistration env state actionId).1 =
            RegistrationStateStore.restoreUndoRecord { state with undoHistory := older } record) ∨
        ((tryUndoRegistration env state actionId).2.success = false ∧
          record.regKey ∈ state.registeredItems ∧
          (undoFailure env record).isSome ∧
          (tryUndoRegistration env state actionId).1 =
            rollbackFailedUndo (takenBack state older record) record) ∨
        ((tryUndoRegistration env state actionId).2.success = true ∧
          record.regKey ∈ state.registeredItems ∧
          (undoFailure env record).isNone ∧
          (tryUndoRegistration env state actionId).1 = undone env state older record)) := by
  unfold tryUndoRegistration
  rcases RegistrationStateStore.popLatestUndoRecord_cases state actionId with
    hnone | ⟨older, record, hhistory, hid, hsome⟩
  · rw [hnone]
    exact .inl ⟨rfl, rfl⟩
  rw [hsome]
  refine .inr ⟨older, record, hhistory, hid, ?_⟩
  dsimp only
  by_cases hmem : record.regKey ∈ state.registeredItems
  · rw [show RegistrationStateStore.removeRegistered { state with undoHistory := older }
      record.regKey = (takenBack state older record, true) from if_pos hmem]
    cases hfailure : undoFailure env record with
    | some message => exact .inr (.inl ⟨rfl, hmem, rfl, rfl⟩)
    | none => exact .inr (.inr ⟨rfl, hmem, rfl, rfl⟩)
  · rw [show RegistrationStateStore.removeRegistered { state with undoHistory := older }
      record.regKey = ({ state with undoHistory := older }, false) from if_neg hmem]
    exact .inl ⟨rfl, hmem, rfl⟩

/-- The one way an undo succeeds. -/
theorem tryUndoRegistration_succeeds {env : Environment F} {actionId : UInt64}
    (hsuccess : (tryUndoRegistration env state actionId).2.success = true) :
    ∃ older record, state.undoHistory = older ++ [record] ∧ record.actionId = actionId ∧
      (tryUndoRegistration env state actionId).1 = undone env state older record := by
  rcases tryUndoRegistration_cases env state actionId with
    ⟨hfails, -⟩ | ⟨older, record, hhistory, hid, ⟨hfails, -⟩ | ⟨hfails, -⟩ | ⟨-, -, -, heq⟩⟩
  · rw [hsuccess] at hfails; cases hfails
  · rw [hsuccess] at hfails; cases hfails
  · rw [hsuccess] at hfails; cases hfails
  · exact ⟨older, record, hhistory, hid, heq⟩

/-- An undo that succeeds undoes the newest record. -/
theorem undone_of_success {env : Environment F} {actionId : UInt64}
    (hhistory : state.undoHistory = older ++ [record])
    (hsuccess : (tryUndoRegistration env state actionId).2.success = true) :
    (tryUndoRegistration env state actionId).1 = undone env state older record := by
  obtain ⟨older', record', hhistory', -, heq⟩ := tryUndoRegistration_succeeds hsuccess
  obtain ⟨rfl, hrecord⟩ := List.append_inj' (hhistory.symm.trans hhistory') rfl
  cases hrecord
  exact heq

omit [FloatType F] in
/-- Putting the newest record back where it came from. -/
theorem restoreUndoRecord_newest (hhistory : state.undoHistory = older ++ [record])
    (hlength : state.undoHistory.length ≤ kUndoHistoryLimit) :
    RegistrationStateStore.restoreUndoRecord { state with undoHistory := older } record =
      { state with undoNextActionId := max state.undoNextActionId (record.actionId + 1) } := by
  unfold RegistrationStateStore.restoreUndoRecord
  dsimp only
  rw [← hhistory, trimHistory_of_le hlength]

omit [FloatType F] in
/-- A failed undo puts record and registration back; the table may be laid out anew. -/
theorem rollbackFailedUndo_newest (hhistory : state.undoHistory = older ++ [record])
    (hlength : state.undoHistory.length ≤ kUndoHistoryLimit) :
    rollbackFailedUndo (takenBack state older record) record =
      { state with
        registeredItems :=
          (state.registeredItems.erase record.regKey).insert record.regKey record.group
        undoNextActionId := max state.undoNextActionId (record.actionId + 1) } := by
  have hgone : record.regKey ∉ state.registeredItems.erase record.regKey :=
    fun hmem => (AList.mem_erase.mp hmem).1 rfl
  unfold rollbackFailedUndo RegistrationStateStore.insertRegistered
    RegistrationStateStore.restoreUndoRecord takenBack
  dsimp only
  rw [← hhistory, trimHistory_of_le hlength, UnorderedMap.emplace_of_notMem hgone]

/-- An undo whose record carries a contribution that counts is its rollback. -/
theorem undone_of_contribution (state : RuntimeState F) (older : List (UndoRecord F))
    {c : BuildScoreContribution} (hc : record.buildContribution = some c) :
    ∃ ledger, undone env state older record =
      { (BuildProgression.rollbackRegistrationContributionDetailed
          (takenBack state older record) c).1 with buildAppliedEffectTotals := ledger } := by
  unfold undone undoProgression
  simp only [hc, Option.isSome_some, if_true]
  rw [sync_frame]
  exact ⟨_, rfl⟩

/-- An undo of a record without a contribution touches the legacy reward totals alone. -/
theorem undone_of_no_contribution (state : RuntimeState F) (older : List (UndoRecord F))
    (hc : record.buildContribution = none) :
    undone env state older record =
      (Rewards.rollbackRewardDeltas env.avOwner.isSome (takenBack state older record)
        record.rewardDeltas).1 := by
  unfold undone undoProgression
  simp only [hc, Option.isSome_none, Bool.false_eq_true, if_false]

end UndoCases

/-! ## What both leave alone -/

section Aside

variable {state : RuntimeState F}

/-- The marked items and the migration are as before. -/
structure SameAside (state state' : RuntimeState F) : Prop where
  notifiedItems : state'.notifiedItems = state.notifiedItems
  buildMigrationVersion : state'.buildMigrationVersion = state.buildMigrationVersion
  buildMigrationState : state'.buildMigrationState = state.buildMigrationState

omit [FloatType F] in
theorem SameAside.refl (state : RuntimeState F) : SameAside state state := ⟨rfl, rfl, rfl⟩

omit [FloatType F] in
theorem SameAside.trans {s s' s'' : RuntimeState F} (h : SameAside s s') (h' : SameAside s' s'') :
    SameAside s s'' where
  notifiedItems := h'.notifiedItems.trans h.notifiedItems
  buildMigrationVersion := h'.buildMigrationVersion.trans h.buildMigrationVersion
  buildMigrationState := h'.buildMigrationState.trans h.buildMigrationState

theorem sameAside_tryRegisterItem (formTypes : FormID → FormType) (env : Environment F)
    (state : RuntimeState F) (formId : FormID) :
    SameAside state (tryRegisterItem formTypes env state formId).1 := by
  rcases tryRegisterItem_cases formTypes env state formId with
    ⟨-, heq | heq⟩ | ⟨-, -, -, heq⟩
  · rw [heq]; exact .refl state
  · rw [heq, RegistrationStateStore.blockPair_frame]; exact ⟨rfl, rfl, rfl⟩
  · obtain ⟨ledger, hcommit⟩ := commitRegistration_eq formTypes env state formId _ _
    rw [heq, hcommit]
    have helse := sameElsewhere_applied state (BuildProgression.makeRegistrationContribution
      (getDiscoveryGroup formTypes env state (getRegisterKey env formId))
      (formTypes (getRegisterKey env formId)))
    exact ⟨helse.notifiedItems, helse.buildMigrationVersion, helse.buildMigrationState⟩

theorem sameAside_registerBatch (formTypes : FormID → FormType) (state : RuntimeState F)
    (calls : List (Environment F × FormID)) :
    SameAside state (registerBatch formTypes state calls).1 :=
  registerBatch_preserves (SameAside state)
    (fun env state formId h => h.trans (sameAside_tryRegisterItem formTypes env state formId))
    (.refl state) calls

theorem sameAside_tryUndoRegistration (env : Environment F) (state : RuntimeState F)
    (actionId : UInt64) : SameAside state (tryUndoRegistration env state actionId).1 := by
  rcases tryUndoRegistration_cases env state actionId with
    ⟨-, heq⟩ | ⟨older, record, -, -, ⟨-, -, heq⟩ | ⟨-, -, -, heq⟩ | ⟨-, -, -, heq⟩⟩
  · rw [heq]; exact .refl state
  · rw [heq]; exact ⟨rfl, rfl, rfl⟩
  · rw [heq]; exact ⟨rfl, rfl, rfl⟩
  · rw [heq]
    cases hc : record.buildContribution with
    | some c =>
      obtain ⟨ledger, hundone⟩ := undone_of_contribution env state older hc
      have helse := BuildProgression.sameElsewhere_rollback (takenBack state older record) c
      rw [hundone]
      exact ⟨helse.notifiedItems, helse.buildMigrationVersion, helse.buildMigrationState⟩
    | none =>
      rw [undone_of_no_contribution env state older hc, Rewards.rollbackRewardDeltas_frame]
      exact ⟨rfl, rfl, rfl⟩

end Aside

end CodexOfPower.Registration
