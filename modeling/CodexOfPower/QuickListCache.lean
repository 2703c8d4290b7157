/-
# `CodexOfPower.QuickListCache` — the cached quick list

`BuildQuickRegisterList` keeps the list it built for 750 ms, under the settings and
the generation it was built for, and `InvalidateQuickRegisterCache` starts a new
generation.  The list is built and stored on the main thread, where everything runs
that changes the registered or the blocked set; the settings are also changed, and
the cache invalidated, from elsewhere, so a request is two steps here: the list is
built for a generation, and stored later.

A page served from the cache is one of a list built afresh (`Coherent`) as long as
no attempt to register blocks an item while a list of the current generation is
about (`cache_coherent`): these refusals change the blocked set and do not invalidate
(`not_cache_coherent`).

## What is not said

That a served page is 750 ms old at most is part of the cache and not of the statement; what
it means for rows that depend on the game is in `CodexOfPower.QuestWatch`.  The converse is
not claimed: a refusal that blocks an item does no harm where the item had no row.
-/
import CodexOfPower.QuickListAgreement
import CodexOfPower.Session
import CodexOfPower.LegacyMigration

namespace CodexOfPower

open RE Builds BuildProgression Registration Serialization

/-! ## The cache -/

def kQuickListCacheTtlMs : UInt64 := 750

structure QuickListCache where
  allEligible : List ListItem := []
  generation : UInt64 := 0
  builtAtMs : UInt64 := 0
  settingsMask : UInt32 := 0

def buildQuickListSettingsMask (settings : Registration.Settings) : UInt32 :=
  (if settings.normalizeRegistration then 1 else 0) |||
    (if settings.requireTccDisplayed then 2 else 0) |||
    (if settings.protectFavorites then 4 else 0)

structure QuickRegisterList where
  hasMore : Bool := false
  total : Nat := 0
  items : List ListItem := []

def fillQuickListPage (allEligible : List ListItem) (offset limit : Nat) : QuickRegisterList :=
  let totalEligible := allEligible.length
  let clampedOffset := min offset totalEligible
  let remaining := totalEligible - clampedOffset
  let pageSize := min limit remaining
  { total := totalEligible
    hasMore := clampedOffset + pageSize < totalEligible
    items := (allEligible.drop clampedOffset).take pageSize }

def tryBuildQuickListFromCache (cache : QuickListCache) (offset limit : Nat)
    (generation : UInt64) (settingsMask : UInt32) (nowMs : UInt64) : Option QuickRegisterList :=
  if cache.generation ≠ generation then none
  else if cache.settingsMask ≠ settingsMask then none
  else if nowMs < cache.builtAtMs || kQuickListCacheTtlMs < nowMs - cache.builtAtMs then none
  else some (fillQuickListPage cache.allEligible offset limit)

/-! ## The plugin and its cache -/

/-- A list that was built, and for which game; the game is not known to the plugin. -/
structure BuiltList where
  env : Environment Float32
  allEligible : List ListItem
  generation : UInt64
  settingsMask : UInt32

/-- The runtime state, the clock, the cache with its generation, the game the cached list
was built in, and the lists that were built and are not yet stored. -/
structure Listing where
  state : RuntimeState Float32
  clock : UInt64
  cache : QuickListCache := {}
  generation : UInt64 := 1
  cachedIn : Option (Environment Float32) := none
  built : List BuiltList := []

namespace Listing

def invalidate (listing : Listing) : Listing :=
  { listing with generation := listing.generation + 1, cache := {}, cachedIn := none }

variable (formTypes : FormID → FormType)

/-- `BuildQuickRegisterList`, where the cache has the page. -/
def page (env : Environment Float32) (offset limit : Nat) (listing : Listing) :
    Option QuickRegisterList :=
  tryBuildQuickListFromCache listing.cache offset limit listing.generation
    (buildQuickListSettingsMask env.settings) listing.clock

/-- `BuildQuickRegisterList`, where the cache has not the page: the list of this moment. -/
def build (env : Environment Float32) (listing : Listing) : BuiltList where
  env
  allEligible := buildQuickListEligibleItems formTypes env (snapshotQuickList listing.state)
  generation := listing.generation
  settingsMask := buildQuickListSettingsMask env.settings

/-- `UpdateQuickListCache` -/
def store (list : BuiltList) (listing : Listing) : Listing :=
  { listing with
    cache := {
      allEligible := list.allEligible
      generation := list.generation
      builtAtMs := listing.clock
      settingsMask := list.settingsMask }
    cachedIn := some list.env }

/-- `TryRegisterItem` invalidates the list when it succeeds. -/
def register (env : Environment Float32) (formId : FormID) (listing : Listing) : Listing :=
  let (state, result) := tryRegisterItem formTypes env listing.state formId
  let listing := { listing with state }
  if result.success then listing.invalidate else listing

/-- `TryUndoRegistration` invalidates the list when it succeeds. -/
def undo (env : Environment Float32) (actionId : UInt64) (listing : Listing) : Listing :=
  let (state, result) := tryUndoRegistration env listing.state actionId
  let listing := { listing with state }
  if result.success then listing.invalidate else listing

/-- `Load` invalidates unless it gives up. -/
def load (resolveFormID : FormIDResolver) (lookupFormType : FormTypeLookup)
    (records : List Record) (listing : Listing) : Listing :=
  match (loadRecords resolveFormID records {}).1 with
  | none => listing
  | some _ =>
    { listing with
      state := (Serialization.load resolveFormID lookupFormType records listing.state).state
      }.invalidate

/-- What the plugin does besides: none of it is about registrations, none invalidates. -/
inductive Elsewhere : RuntimeState Float32 → RuntimeState Float32 → Prop
  | activate (state avOwner slotId optionId) :
    Elsewhere state (PrismaUIManager.activateBuildOption avOwner state slotId optionId).1
  | deactivate (state avOwner slotId) :
    Elsewhere state (PrismaUIManager.deactivateBuildOption avOwner state slotId)
  | swap (state avOwner fromSlotId toSlotId optionId) :
    Elsewhere state
      (PrismaUIManager.swapBuildOption avOwner state fromSlotId toSlotId optionId).1
  | notify (state primaryId secondaryId) :
    Elsewhere state (NotifiedStateStore.markPair state primaryId secondaryId)
  | refund (state avOwner) : Elsewhere state (Rewards.refundRewards avOwner state).1
  | resetForLoad (state) : Elsewhere state (resetForLoad state)
  | migrate (state lookupFormType cleanup) :
    Elsewhere state (processBuildMigrationState lookupFormType cleanup state).1
  | sync (state avOwner) : Elsewhere state (syncCurrentBuildEffectsToPlayer avOwner state).1

/-- Which attempts to register are made; `fun _ _ _ => True` allows all. -/
abbrev Attempts := Listing → Environment Float32 → FormID → Prop

inductive Step (attempts : Attempts) : Listing → Listing → Prop
  | tick (listing clock) (h : listing.clock ≤ clock) :
    Step attempts listing { listing with clock }
  /-- A request that the cache does not answer; one that it answers changes nothing. -/
  | request (listing env offset limit) (h : listing.page env offset limit = none) :
    Step attempts listing { listing with built := listing.build formTypes env :: listing.built }
  | store (listing list before after) (h : listing.built = before ++ list :: after) :
    Step attempts listing { listing.store list with built := before ++ after }
  | register (listing env formId) (h : attempts listing env formId) :
    Step attempts listing (listing.register formTypes env formId)
  | undo (listing env actionId) : Step attempts listing (listing.undo env actionId)
  | saveSettings (listing) : Step attempts listing listing.invalidate
  | revert (listing) :
    Step attempts listing { listing with state := revert listing.state }.invalidate
  | load (listing resolveFormID lookupFormType records) :
    Step attempts listing (listing.load resolveFormID lookupFormType records)
  | elsewhere (listing state) (h : Elsewhere listing.state state) :
    Step attempts listing { listing with state }

/-- The plugin starts with an empty cache, whatever it remembers and whatever the time. -/
def system (attempts : Attempts) : TransitionSystem Listing where
  init listing := ∃ state clock, listing = { state, clock }
  step := Step formTypes attempts

end Listing

/-! ## Coherence -/

section Coherence

variable (formTypes : FormID → FormType)

/-- A page that the cache serves is one of the list of this moment, in the game the cached
list was built in, under the settings of the request. -/
def Coherent (listing : Listing) : Prop :=
  ∀ env offset limit page, listing.page env offset limit = some page →
    ∃ builtIn, listing.cachedIn = some builtIn ∧ builtIn.settings = env.settings ∧
      page = fillQuickListPage (buildQuickListEligibleItems formTypes builtIn
        (snapshotQuickList listing.state)) offset limit

/-- The attempt is refused in one of the two ways that block the item: it has no name, or
it is still there after its removal. -/
def Blocks (env : Environment Float32) (state : RuntimeState Float32) (formId : FormID) : Prop :=
  ∃ message, registrationRefusal formTypes env state formId (getRegisterKey env formId) =
    some (.refuseAndBlock message)

instance (env : Environment Float32) (state : RuntimeState Float32) (formId : FormID) :
    Decidable (Blocks formTypes env state formId) :=
  match h : registrationRefusal formTypes env state formId (getRegisterKey env formId) with
  | some (.refuseAndBlock message) => .isTrue ⟨message, h⟩
  | some (.refuse _) => .isFalse fun ⟨_, hblocks⟩ => nomatch h.symm.trans hblocks
  | none => .isFalse fun ⟨_, hblocks⟩ => nomatch h.symm.trans hblocks

/-- No list of the current generation is cached, or about to be. -/
def NoCurrentList (listing : Listing) : Prop :=
  listing.cache.generation ≠ listing.generation ∧
    ∀ list ∈ listing.built, list.generation ≠ listing.generation

/-- Items are blocked only while no current list is about. -/
def blocksUnlisted : Listing.Attempts := fun listing env formId =>
  Blocks formTypes env listing.state formId → NoCurrentList listing

end Coherence

/-! ## What the list depends on -/

section SameSets

structure SameSets (state state' : RuntimeState Float32) : Prop where
  registered : ∀ id, id ∈ state'.registeredItems ↔ id ∈ state.registeredItems
  blocked : ∀ id, id ∈ state'.blockedItems ↔ id ∈ state.blockedItems

theorem SameSets.of_eq {state state' : RuntimeState Float32}
    (hregistered : state'.registeredItems = state.registeredItems)
    (hblocked : state'.blockedItems = state.blockedItems) : SameSets state state' where
  registered id := by rw [hregistered]
  blocked id := by rw [hblocked]

theorem SameSets.trans {s s' s'' : RuntimeState Float32} (h : SameSets s s')
    (h' : SameSets s' s'') : SameSets s s'' where
  registered id := (h'.registered id).trans (h.registered id)
  blocked id := (h'.blocked id).trans (h.blocked id)

variable {formTypes : FormID → FormType} {state state' : RuntimeState Float32}

theorem SameSets.isExcludedFast_eq (h : SameSets state state') (env : Environment Float32)
    (item : FormID) :
    isExcludedFast env (snapshotQuickList state') item =
      isExcludedFast env (snapshotQuickList state) item := by
  have hblocked : decide (item ∈ (snapshotQuickList state').blockedItems) =
      decide (item ∈ (snapshotQuickList state).blockedItems) :=
    decide_eq_decide.mpr (h.blocked item)
  unfold isExcludedFast
  rw [hblocked]

theorem SameSets.getDiscoveryGroupFast_eq (h : SameSets state state') (env : Environment Float32)
    (item : FormID) :
    getDiscoveryGroupFast formTypes env (snapshotQuickList state') item =
      getDiscoveryGroupFast formTypes env (snapshotQuickList state) item := by
  unfold getDiscoveryGroupFast
  rw [h.isExcludedFast_eq]

theorem SameSets.appendEligibleItem_eq (h : SameSets state state') (env : Environment Float32) :
    appendEligibleItem formTypes env (snapshotQuickList state') =
      appendEligibleItem formTypes env (snapshotQuickList state) := by
  have hlistable : ∀ entry, isListable formTypes env (snapshotQuickList state') entry =
      isListable formTypes env (snapshotQuickList state) entry := by
    intro entry
    have hkey : ∀ id, id ∈ (snapshotQuickList state').registeredKeys ↔
        id ∈ (snapshotQuickList state).registeredKeys := fun id =>
      mem_registeredKeys.trans ((h.registered id).trans mem_registeredKeys.symm)
    unfold isListable
    simp only [h.isExcludedFast_eq, h.getDiscoveryGroupFast_eq, hkey]
  have hitem : ∀ entry, listItem formTypes env (snapshotQuickList state') entry =
      listItem formTypes env (snapshotQuickList state) entry := by
    intro entry
    unfold listItem
    dsimp only
    rw [h.getDiscoveryGroupFast_eq]
  funext scan entry
  unfold appendEligibleItem
  rw [hlistable, hitem]

/-- The list is a matter of the two sets. -/
theorem SameSets.buildQuickListEligibleItems_eq (h : SameSets state state')
    (env : Environment Float32) :
    buildQuickListEligibleItems formTypes env (snapshotQuickList state') =
      buildQuickListEligibleItems formTypes env (snapshotQuickList state) := by
  unfold buildQuickListEligibleItems
  rw [h.appendEligibleItem_eq]

end SameSets

/-! ## What each operation does to the two sets -/

section Operations

variable {formTypes : FormID → FormType} {state state' : RuntimeState Float32}

theorem sameSets_migrate (lookupFormType : FormTypeLookup)
    (cleanup : RuntimeState Float32 → Bool) (state : RuntimeState Float32) :
    SameSets state (processBuildMigrationState lookupFormType cleanup state).1 := by
  have hfinal : ∀ snapshot : RuntimeState Float32,
      SameSets snapshot (tryFinalizePendingMigration (some cleanup) snapshot).1 := by
    intro snapshot
    unfold tryFinalizePendingMigration
    dsimp only
    split_ifs <;> exact .of_eq rfl rfl
  have hnotice : ∀ snapshot : RuntimeState Float32,
      SameSets snapshot (consumeMigrationNotice snapshot).1 := by
    intro snapshot
    unfold consumeMigrationNotice
    split_ifs <;> exact .of_eq rfl rfl
  obtain ⟨hregistered, hblocked⟩ := items_normalize lookupFormType none state
  exact ((SameSets.of_eq hregistered hblocked).trans (hfinal _)).trans (hnotice _)

theorem sameSets_elsewhere (h : Listing.Elsewhere state state') : SameSets state state' := by
  cases h with
  | activate avOwner slotId optionId =>
    obtain ⟨slots, ledger, heq⟩ := PrismaUIManager.activate_frame avOwner state slotId optionId
    rw [heq]
    exact .of_eq rfl rfl
  | deactivate avOwner slotId =>
    obtain ⟨slots, ledger, heq⟩ := PrismaUIManager.deactivate_frame avOwner state slotId
    rw [heq]
    exact .of_eq rfl rfl
  | swap avOwner fromSlotId toSlotId optionId =>
    obtain ⟨slots, ledger, heq⟩ :=
      PrismaUIManager.swap_frame avOwner state fromSlotId toSlotId optionId
    rw [heq]
    exact .of_eq rfl rfl
  | notify primaryId secondaryId =>
    rw [NotifiedStateStore.markPair_frame]
    exact .of_eq rfl rfl
  | refund avOwner =>
    rw [Rewards.refundRewards_frame]
    exact .of_eq rfl rfl
  | resetForLoad => exact .of_eq rfl rfl
  | migrate lookupFormType cleanup => exact sameSets_migrate lookupFormType cleanup state
  | sync avOwner =>
    rw [sync_frame]
    exact .of_eq rfl rfl

/-- An attempt that fails and does not block leaves both sets as they were. -/
theorem sameSets_tryRegisterItem {env : Environment Float32} {formId : FormID}
    (hfails : (tryRegisterItem formTypes env state formId).2.success = false)
    (hblocks : ¬ Blocks formTypes env state formId) :
    SameSets state (tryRegisterItem formTypes env state formId).1 := by
  unfold tryRegisterItem at hfails ⊢
  dsimp only at hfails ⊢
  cases hrefusal : registrationRefusal formTypes env state formId (getRegisterKey env formId) with
  | none =>
    rw [hrefusal] at hfails
    cases hfails
  | some refusal =>
    cases refusal with
    | refuse message => exact .of_eq rfl rfl
    | refuseAndBlock message => exact absurd ⟨message, hrefusal⟩ hblocks

/-- An undo that fails leaves both sets as they were: it puts back the key that it took. -/
theorem sameSets_tryUndoRegistration {env : Environment Float32} {actionId : UInt64}
    (hfails : (tryUndoRegistration env state actionId).2.success = false) :
    SameSets state (tryUndoRegistration env state actionId).1 := by
  rcases tryUndoRegistration_cases env state actionId with
    ⟨-, heq⟩ | ⟨older, record, -, -, ⟨-, -, heq⟩ | ⟨-, hmem, -, heq⟩ | ⟨hsuccess, -⟩⟩
  · rw [heq]; exact .of_eq rfl rfl
  · rw [heq]; exact .of_eq rfl rfl
  · rw [heq]
    refine ⟨fun id => ?_, fun id => Iff.rfl⟩
    show id ∈ UnorderedMap.emplace record.regKey record.group
      (state.registeredItems.erase record.regKey) ↔ _
    rw [UnorderedMap.mem_emplace, AList.mem_erase]
    exact ⟨fun h => h.elim (fun hid => hid ▸ hmem) And.right,
      fun h => (em (id = record.regKey)).imp_right fun hne => ⟨hne, h⟩⟩
  · rw [hsuccess] at hfails
    cases hfails

end Operations

/-! ## Lists of the current generation -/

section Current

variable {formTypes : FormID → FormType} {listing : Listing}

/-- Lists are of this generation or an earlier one, and those of this one are what would
be built now. -/
structure Current (formTypes : FormID → FormType) (listing : Listing) : Prop where
  started : 0 < listing.generation.toNat
  cacheLe : listing.cache.generation.toNat ≤ listing.generation.toNat
  cached : listing.cache.generation = listing.generation → ∃ builtIn,
    listing.cachedIn = some builtIn ∧
      listing.cache.settingsMask = buildQuickListSettingsMask builtIn.settings ∧
      listing.cache.allEligible =
        buildQuickListEligibleItems formTypes builtIn (snapshotQuickList listing.state)
  builtLe : ∀ list ∈ listing.built, list.generation.toNat ≤ listing.generation.toNat
  built : ∀ list ∈ listing.built,
    list.settingsMask = buildQuickListSettingsMask list.env.settings ∧
      (list.generation = listing.generation → list.allEligible =
        buildQuickListEligibleItems formTypes list.env (snapshotQuickList listing.state))

theorem Current.sameSets (h : Current formTypes listing) {state : RuntimeState Float32}
    (hsame : SameSets listing.state state) : Current formTypes { listing with state } where
  started := h.started
  cacheLe := h.cacheLe
  cached hgeneration := by
    obtain ⟨builtIn, hin, hmask, hlist⟩ := h.cached hgeneration
    exact ⟨builtIn, hin, hmask, hlist.trans (hsame.buildQuickListEligibleItems_eq builtIn).symm⟩
  builtLe := h.builtLe
  built list hlist := by
    obtain ⟨hmask, hcurrent⟩ := h.built list hlist
    exact ⟨hmask, fun hgeneration =>
      (hcurrent hgeneration).trans (hsame.buildQuickListEligibleItems_eq list.env).symm⟩

/-- While no list of this generation is about, anything may happen to the two sets. -/
theorem Current.noCurrentList (h : Current formTypes listing) (hnone : NoCurrentList listing)
    (state : RuntimeState Float32) : Current formTypes { listing with state } where
  started := h.started
  cacheLe := h.cacheLe
  cached hgeneration := absurd hgeneration hnone.1
  builtLe := h.builtLe
  built list hlist := ⟨(h.built list hlist).1, fun hgeneration =>
    absurd hgeneration (hnone.2 list hlist)⟩

/-- When a new generation starts, no list is of it. -/
theorem Current.invalidate (h : Current formTypes listing)
    (hnext : listing.generation.toNat + 1 < 2 ^ 64) (state : RuntimeState Float32) :
    Current formTypes { listing with state }.invalidate := by
  have hsucc : (listing.generation + 1).toNat = listing.generation.toNat + 1 := by
    rw [UInt64.toNat_add]
    exact Nat.mod_eq_of_lt hnext
  have hstarted : 0 < (listing.generation + 1).toNat := by omega
  refine ⟨hstarted, Nat.zero_le _, fun hgeneration => ?_, fun list hlist => ?_,
    fun list hlist => ⟨(h.built list hlist).1, fun hgeneration => ?_⟩⟩
  · have hzero : (0 : UInt64) = listing.generation + 1 := hgeneration
    rw [← hzero] at hstarted
    exact absurd hstarted (by decide)
  · exact (h.builtLe list hlist).trans (hsucc ▸ Nat.le_succ _)
  · have hle := h.builtLe list hlist
    have heq : list.generation.toNat = (listing.generation + 1).toNat :=
      congrArg UInt64.toNat hgeneration
    omega

theorem Current.build (h : Current formTypes listing) (env : Environment Float32) :
    Current formTypes { listing with built := listing.build formTypes env :: listing.built } where
  started := h.started
  cacheLe := h.cacheLe
  cached := h.cached
  builtLe list hlist := by
    rcases List.mem_cons.mp hlist with rfl | hlist
    · exact Nat.le_refl _
    · exact h.builtLe list hlist
  built list hlist := by
    rcases List.mem_cons.mp hlist with rfl | hlist
    · exact ⟨rfl, fun _ => rfl⟩
    · exact h.built list hlist

theorem Current.store (h : Current formTypes listing) {list : BuiltList}
    {before after : List BuiltList} (hbuilt : listing.built = before ++ list :: after) :
    Current formTypes { listing.store list with built := before ++ after } := by
  have hmem : list ∈ listing.built := by
    rw [hbuilt]
    exact List.mem_append_right _ List.mem_cons_self
  have hrest : ∀ other ∈ before ++ after, other ∈ listing.built := by
    rw [hbuilt]
    exact fun other hother =>
      ((List.sublist_cons_self list after).append_left before).subset hother
  obtain ⟨hmask, hcurrent⟩ := h.built list hmem
  exact
    { started := h.started
      cacheLe := h.builtLe list hmem
      cached := fun hgeneration => ⟨list.env, rfl, hmask, hcurrent hgeneration⟩
      builtLe := fun other hother => h.builtLe other (hrest other hother)
      built := fun other hother => h.built other (hrest other hother) }

/-! ## Every run -/

/-- Every list is what would be built now, or of an earlier generation, in the runs in which
the generation does not wrap around. -/
theorem invariant_current (formTypes : FormID → FormType) :
    ((Listing.system formTypes (blocksUnlisted formTypes)).restrict
      fun listing _ => listing.generation.toNat + 1 < 2 ^ 64).Invariant (Current formTypes) where
  init listing hinit := by
    obtain ⟨state, clock, rfl⟩ := hinit
    exact
      { started := Nat.zero_lt_one
        cacheLe := Nat.zero_le _
        cached := fun hgeneration =>
          absurd (show (0 : UInt64) = 1 from hgeneration) (by decide)
        builtLe := fun list hlist => absurd hlist List.not_mem_nil
        built := fun list hlist => absurd hlist List.not_mem_nil }
  step listing listing' h hstep := by
    obtain ⟨hstep, hnext⟩ := hstep
    cases hstep with
    | tick clock _ => exact ⟨h.started, h.cacheLe, h.cached, h.builtLe, h.built⟩
    | request env _ _ _ => exact h.build env
    | store list before after hbuilt => exact h.store hbuilt
    | register env formId hattempt =>
      unfold Listing.register
      dsimp only
      cases hsuccess : (tryRegisterItem formTypes env listing.state formId).2.success with
      | true => exact h.invalidate hnext _
      | false =>
        by_cases hblocks : Blocks formTypes env listing.state formId
        · exact h.noCurrentList (hattempt hblocks) _
        · exact h.sameSets (sameSets_tryRegisterItem hsuccess hblocks)
    | undo env actionId =>
      unfold Listing.undo
      dsimp only
      cases hsuccess : (tryUndoRegistration env listing.state actionId).2.success with
      | true => exact h.invalidate hnext _
      | false => exact h.sameSets (sameSets_tryUndoRegistration hsuccess)
    | saveSettings => exact h.invalidate hnext listing.state
    | revert => exact h.invalidate hnext _
    | load resolveFormID lookupFormType records =>
      unfold Listing.load
      split
      · exact h
      · exact h.invalidate hnext _
    | elsewhere state helsewhere => exact h.sameSets (sameSets_elsewhere helsewhere)

end Current

section Coherent

theorem eq_of_settingsMask {settings settings' : Registration.Settings}
    (h : buildQuickListSettingsMask settings = buildQuickListSettingsMask settings') :
    settings = settings' := by
  have hbits : ∀ a b c a' b' c' : Bool,
      buildQuickListSettingsMask ⟨a, b, c⟩ = buildQuickListSettingsMask ⟨a', b', c'⟩ →
        a = a' ∧ b = b' ∧ c = c' := by decide
  obtain ⟨hnormalize, hdisplayed, hfavorites⟩ := hbits _ _ _ _ _ _ h
  obtain ⟨normalize, displayed, favorites⟩ := settings
  subst hnormalize hdisplayed hfavorites
  rfl

/-- What a page from the cache says about the cache. -/
theorem page_eq_some {listing : Listing} {env : Environment Float32} {offset limit : Nat}
    {page : QuickRegisterList} (h : listing.page env offset limit = some page) :
    listing.cache.generation = listing.generation ∧
      listing.cache.settingsMask = buildQuickListSettingsMask env.settings ∧
      page = fillQuickListPage listing.cache.allEligible offset limit := by
  unfold Listing.page tryBuildQuickListFromCache at h
  split_ifs at h with hgeneration hmask
  exact ⟨not_not.mp hgeneration, not_not.mp hmask, (Option.some.inj h).symm⟩

variable {formTypes : FormID → FormType} {listing : Listing}

/-- In every run of list requests, registrations, undos, settings changes and loads, with
fewer than 2⁶⁴ - 1 invalidations, in which no attempt blocks an item while a list of the
current generation is about: a page that the cache serves is one of the list of that
moment. -/
theorem cache_coherent
    (h : ((Listing.system formTypes (blocksUnlisted formTypes)).restrict
      fun listing _ => listing.generation.toNat + 1 < 2 ^ 64).Reachable listing) :
    Coherent formTypes listing := by
  have hcurrent := (invariant_current formTypes).reachable h
  intro env offset limit page hpage
  obtain ⟨hgeneration, hmask, rfl⟩ := page_eq_some hpage
  obtain ⟨builtIn, hin, hbuilt, hlist⟩ := hcurrent.cached hgeneration
  exact ⟨builtIn, hin, eq_of_settingsMask (hbuilt.symm.trans hmask), by rw [hlist]⟩

namespace Listing

/-- The list of a nameless sword, built and stored. -/
def listed : Listing :=
  let start : Listing := { state := {}, clock := 0 }
  start.store (start.build (fun _ => .Weapon) (stall [] [sword]))

/-- Someone tries to register the sword. -/
def refused : Listing := listed.register (fun _ => .Weapon) (stall [] [sword]) 2

theorem reachable_listed (attempts : Attempts) :
    ((system (fun _ => .Weapon) attempts).restrict
      fun listing _ => listing.generation.toNat + 1 < 2 ^ 64).Reachable listed := by
  have hstart : ((system (fun _ => .Weapon) attempts).restrict
      fun listing _ => listing.generation.toNat + 1 < 2 ^ 64).Reachable
        { state := {}, clock := 0 } := .of_init ⟨{}, 0, rfl⟩
  have hbuilt := hstart.step ⟨.request _ (stall [] [sword]) 0 10 rfl, by decide⟩
  exact hbuilt.step ⟨.store _ _ [] [] rfl, by decide⟩

end Listing

theorem cache_coherent_listed : Coherent (fun _ => .Weapon) Listing.listed :=
  cache_coherent (Listing.reachable_listed _)

/-- The sword is blocked, and still served. -/
theorem not_cache_coherent :
    ¬ ∀ (formTypes : FormID → FormType) (listing : Listing),
      ((Listing.system formTypes fun _ _ _ => True).restrict
        fun listing _ => listing.generation.toNat + 1 < 2 ^ 64).Reachable listing →
      Coherent formTypes listing := by
  intro h
  have hrefused := (Listing.reachable_listed fun _ _ _ => True).step
    ⟨.register _ (stall [] [sword]) 2 trivial, by decide⟩
  -- the served list has the sword's row, a fresh one has none
  have hserved : Listing.refused.page (stall [] [sword]) 0 10 =
      some (fillQuickListPage Listing.refused.cache.allEligible 0 10) := rfl
  have hrow : Listing.refused.cache.allEligible.length = 1 :=
    length_buildQuickListEligibleItems.trans (by decide)
  have hnone : (buildQuickListEligibleItems (fun _ => .Weapon) (stall [] [sword])
      (snapshotQuickList Listing.refused.state)).length = 0 :=
    length_buildQuickListEligibleItems.trans (by decide)
  obtain ⟨builtIn, hin, -, hagrees⟩ := h _ _ hrefused _ _ _ _ hserved
  have hbuilt : stall [] [sword] = builtIn := Option.some.inj hin
  rw [← hbuilt] at hagrees
  have htotal : 1 = 0 := hrow.symm.trans ((congrArg QuickRegisterList.total hagrees).trans hnone)
  exact absurd htotal (by decide)

end Coherent

end CodexOfPower
