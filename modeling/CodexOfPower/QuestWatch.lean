/-
# `CodexOfPower.QuestWatch` — how late the plugin notices a quest

Which forms a running quest needs is collected anew only if the table in hand is older
than 2 s, and a quick list that was made with it is kept for another 750 ms.  Quests begin
and end at any time, so the answers are about the past; how far in the past is said here
for every run (`quest_items_watched`): an item is only taken if, within the last 2 s of
each check, there was a moment at which no quest needed it, and a row of a page says of
one moment of the last 2.75 s, and the time that making the list took, what was so.

## What is not said

The clock is past 2 s at the start, as it is when a game runs; before that the empty table
would pass for a fresh one.  That a quest does not begin between the check and the removal
is not claimed: the two are apart in the code, and here as well.
-/
import CodexOfPower.QuickListCache
import CodexOfPower.Lib.TimedCache

namespace CodexOfPower

open RE Builds BuildProgression Registration Serialization

/-! ## The guard -/

namespace Registration.QuestGuard

def kCacheTtlMs : UInt64 := 2000

structure QuestAlias where
  /-- It is a `BGSRefAlias`. -/
  isRefAlias : Bool
  /-- The base object of its reference, where both are there. -/
  referenceBase : Option FormID
  /-- `fillType == kCreated` -/
  filledAsCreated : Bool
  createdObject : Option FormID

structure Quest where
  isRunning : Bool
  aliases : List (Option QuestAlias)

abbrev Quests := Option (List (Option Quest))

/-- What the alias adds to the table, in order. -/
def aliasForms : Option QuestAlias → List FormID
  | none => []
  | some questAlias =>
    if !questAlias.isRefAlias then []
    else questAlias.referenceBase.toList ++
      if questAlias.filledAsCreated then questAlias.createdObject.toList else []

def questForms : Option Quest → List FormID
  | none => []
  | some quest => if !quest.isRunning then [] else quest.aliases.flatMap aliasForms

def protectedForms : Quests → UnorderedSet FormID
  | none => ∅
  | some quests => UnorderedMap.insertAll ((quests.flatMap questForms).map fun id => (id, ())) ∅

/-- `g_protectedForms` and `g_builtAtMs` -/
abbrev Guard := TimedCache (UnorderedSet FormID)

def rebuildIfStale (moment : Moment Quests) (guard : Guard) : Guard :=
  guard.refresh kCacheTtlMs protectedForms moment

def snapshotProtectedForms (moment : Moment Quests) (guard : Guard) :
    Guard × UnorderedSet FormID :=
  let guard := rebuildIfStale moment guard
  (guard, guard.value)

def isQuestProtected (moment : Moment Quests) (guard : Guard) (formId : FormID) : Guard × Bool :=
  let guard := rebuildIfStale moment guard
  (guard, formId ∈ guard.value)

/-- The check of an item and of its key, each at its own moment. -/
def checkPair (first second : Moment Quests) (guard : Guard) (item regKey : FormID) :
    Guard × Bool :=
  let (guard, isProtected) := isQuestProtected first guard item
  if isProtected then (guard, true)
  else if regKey = item then (guard, false)
  else isQuestProtected second guard regKey

/-! ## What a quest needs -/

/-- The alias stands for the form, or is to be filled with it. -/
def QuestAlias.Holds (questAlias : QuestAlias) (id : FormID) : Prop :=
  questAlias.isRefAlias = true ∧ (questAlias.referenceBase = some id ∨
    questAlias.filledAsCreated = true ∧ questAlias.createdObject = some id)

/-- Some running quest needs the form. -/
def Needs (quests : Quests) (id : FormID) : Prop :=
  ∃ all, quests = some all ∧ ∃ quest, some quest ∈ all ∧ quest.isRunning = true ∧
    ∃ questAlias, some questAlias ∈ quest.aliases ∧ questAlias.Holds id

theorem mem_aliasForms {found : Option QuestAlias} {id : FormID} :
    id ∈ aliasForms found ↔ ∃ questAlias, found = some questAlias ∧ questAlias.Holds id := by
  cases found with
  | none => simp [aliasForms]
  | some questAlias =>
    obtain ⟨isRefAlias, referenceBase, filledAsCreated, createdObject⟩ := questAlias
    cases isRefAlias <;> cases filledAsCreated <;> simp [aliasForms, QuestAlias.Holds]

theorem mem_questForms {found : Option Quest} {id : FormID} :
    id ∈ questForms found ↔ ∃ quest, found = some quest ∧ quest.isRunning = true ∧
      ∃ questAlias, some questAlias ∈ quest.aliases ∧ questAlias.Holds id := by
  cases found with
  | none => simp [questForms]
  | some quest =>
    cases hrunning : quest.isRunning with
    | false => simp [questForms, hrunning]
    | true => simp [questForms, hrunning, mem_aliasForms]

/-- The table has the forms that a running quest needs, and no others. -/
theorem mem_protectedForms {quests : Quests} {id : FormID} :
    id ∈ protectedForms quests ↔ Needs quests id := by
  cases quests with
  | none =>
    refine iff_of_false (AList.notMem_empty _) ?_
    rintro ⟨all, hnone, -⟩
    cases hnone
  | some all =>
    have hnone : id ∉ (∅ : UnorderedSet FormID) := AList.notMem_empty _
    simp [protectedForms, UnorderedMap.mem_insertAll, mem_questForms, Needs, hnone]

section Asked

variable {guard : Guard} {past : List (Moment Quests)} {moment first second : Moment Quests}
  {item regKey id : FormID}

/-- An answer is about a moment of the last two seconds. -/
theorem answer_snapshot (h : guard.Dated protectedForms past) (hmem : moment ∈ past)
    (hstarted : kCacheTtlMs.toNat < moment.clock.toNat) :
    Within past kCacheTtlMs.toNat moment.clock fun quests =>
      ∀ id, id ∈ (snapshotProtectedForms moment guard).2 ↔ Needs quests id := by
  refine (h.answer hmem hstarted).imp fun quests hvalue id => ?_
  rw [← mem_protectedForms, ← hvalue]
  rfl

theorem answer_isQuestProtected (h : guard.Dated protectedForms past) (hmem : moment ∈ past)
    (hstarted : kCacheTtlMs.toNat < moment.clock.toNat)
    (hanswer : (isQuestProtected moment guard id).2 = false) :
    Within past kCacheTtlMs.toNat moment.clock fun quests => ¬ Needs quests id := by
  refine (answer_snapshot h hmem hstarted).imp fun quests hexact => ?_
  rw [← hexact id]
  exact of_decide_eq_false hanswer

theorem dated_checkPair (h : guard.Dated protectedForms past) (hfirst : first ∈ past)
    (hsecond : second ∈ past) :
    (checkPair first second guard item regKey).1.Dated protectedForms past := by
  unfold checkPair isQuestProtected rebuildIfStale
  dsimp only
  split_ifs
  · exact h.refresh hfirst
  · exact h.refresh hfirst
  · exact (h.refresh hfirst).refresh hsecond

/-- A pair that passes was, item and key, not needed. -/
theorem answer_checkPair (h : guard.Dated protectedForms past) (hfirst : first ∈ past)
    (hsecond : second ∈ past) (hstarted : ∀ moment ∈ past, kCacheTtlMs.toNat < moment.clock.toNat)
    (hpassed : (checkPair first second guard item regKey).2 = false) :
    Within past kCacheTtlMs.toNat first.clock (fun quests => ¬ Needs quests item) ∧
      (regKey = item ∨
        Within past kCacheTtlMs.toNat second.clock fun quests => ¬ Needs quests regKey) := by
  unfold checkPair at hpassed
  dsimp only at hpassed
  split_ifs at hpassed with hitem hkey
  · have hfirstAnswer := answer_isQuestProtected h hfirst (hstarted _ hfirst)
      (Bool.eq_false_of_not_eq_true hitem)
    exact ⟨hfirstAnswer, .inl hkey⟩
  · have hfirstAnswer := answer_isQuestProtected h hfirst (hstarted _ hfirst)
      (Bool.eq_false_of_not_eq_true hitem)
    have hdated : (isQuestProtected first guard item).1.Dated protectedForms past :=
      h.refresh hfirst
    exact ⟨hfirstAnswer,
      .inr (answer_isQuestProtected hdated hsecond (hstarted _ hsecond) hpassed)⟩

end Asked

end Registration.QuestGuard

/-! ## The plugin and the quests around it -/

open QuestGuard

/-- An item that was taken, its key, and when each was last checked. -/
structure Taken where
  item : FormID
  regKey : FormID
  itemAt : UInt64
  keyAt : UInt64
deriving DecidableEq

/-- A list that is not stored yet, and when it was begun. -/
structure PendingList where
  list : BuiltList
  begunAt : UInt64

/-- The plugin with its list cache, the guard, the quests and the moments there were; what
was taken and when the cached list was begun are not known to the plugin. -/
structure Watch where
  listing : Listing
  guard : Guard := { value := ∅ }
  quests : Quests
  past : List (Moment Quests)
  pending : List PendingList := []
  cachedAt : UInt64 := 0
  taken : List Taken := []

/-- The moments at which a call asks the guard: for the item and for its key, twice. -/
structure Checks where
  item : Moment Quests
  key : Moment Quests
  itemAgain : Moment Quests
  keyAgain : Moment Quests

namespace Watch

variable (formTypes : FormID → FormType)

def now (watch : Watch) : Moment Quests := { clock := watch.listing.clock, world := watch.quests }

def pass (moment : Moment Quests) (watch : Watch) : Watch :=
  { watch with
    listing := { watch.listing with clock := moment.clock }
    quests := moment.world
    past := moment :: watch.past }

/-- `BuildQuickRegisterList`, where the cache has no page: the list of this moment. -/
def request (env : Environment Float32) (watch : Watch) : Watch :=
  let (guard, questProtected) := snapshotProtectedForms watch.now watch.guard
  let env := { env with questProtected := fun id => id ∈ questProtected }
  { watch with
    guard
    pending := {
      list := watch.listing.build formTypes env
      begunAt := watch.listing.clock } :: watch.pending }

def store (begun : PendingList) (rest : List PendingList) (watch : Watch) : Watch :=
  { watch with
    listing := watch.listing.store begun.list
    pending := rest
    cachedAt := begun.begunAt }

/-- The checks before the first one of the quests. -/
def asks (env : Environment Float32) (state : RuntimeState Float32) (item regKey : FormID) :
    Bool :=
  env.player && env.lookupBoundObject item && !isExcludedOrBlocked env state item regKey

/-- The checks between the first one of the quests and the second. -/
def asksAgain (env : Environment Float32) (state : RuntimeState Float32)
    (item regKey : FormID) : Bool :=
  !RegistrationStateStore.isRegisteredEither state regKey item &&
    getDiscoveryGroup formTypes env state regKey ≤ 5 &&
    evaluateTccGate env item regKey = .kAllow &&
    match env.inventory.find? fun entry => entry.object = item with
    | none => false
    | some entry => !entry.isQuestObject

/-- The guard after a call, and the game with what the guard answered. -/
def check (env : Environment Float32) (checks : Checks) (state : RuntimeState Float32)
    (item : FormID) (guard : Guard) : Guard × Environment Float32 :=
  let regKey := getRegisterKey env item
  let (guard, isProtected) := if asks env state item regKey then
    checkPair checks.item checks.key guard item regKey else (guard, false)
  let (guard, isProtectedAgain) :=
    if asks env state item regKey && !isProtected && asksAgain formTypes env state item regKey then
      checkPair checks.itemAgain checks.keyAgain guard item regKey else (guard, false)
  (guard, { env with
    questProtected := fun _ => isProtected
    questProtectedAgain := fun _ => isProtectedAgain })

/-- `TryRegisterItem`, which asks the guard. -/
def register (env : Environment Float32) (checks : Checks) (formId : FormID) (watch : Watch) :
    Watch :=
  let (guard, env) := check formTypes env checks watch.listing.state formId watch.guard
  let registered := (tryRegisterItem formTypes env watch.listing.state formId).2.success
  let watch := (((watch.pass checks.item).pass checks.key).pass checks.itemAgain).pass
    checks.keyAgain
  { watch with
    listing := watch.listing.register formTypes env formId
    guard
    taken := if registered then
      { item := formId
        regKey := getRegisterKey env formId
        itemAt := checks.itemAgain.clock
        keyAt := checks.keyAgain.clock } :: watch.taken else watch.taken }

/-- The clock does not go back. -/
structure Follow (watch : Watch) (checks : Checks) : Prop where
  item : watch.listing.clock ≤ checks.item.clock
  key : checks.item.clock ≤ checks.key.clock
  itemAgain : checks.key.clock ≤ checks.itemAgain.clock
  keyAgain : checks.itemAgain.clock ≤ checks.keyAgain.clock

/-- A list is made and stored within `d` ms. -/
inductive Step (d : Nat) : Watch → Watch → Prop
  | pass (watch moment) (h : watch.listing.clock ≤ moment.clock) :
    Step d watch (watch.pass moment)
  | request (watch env offset limit) (h : watch.listing.page env offset limit = none) :
    Step d watch (watch.request formTypes env)
  | store (watch begun before after) (h : watch.pending = before ++ begun :: after)
      (hsoon : watch.listing.clock.toNat ≤ begun.begunAt.toNat + d) :
    Step d watch (watch.store begun (before ++ after))
  | register (watch env checks formId) (h : Follow watch checks) :
    Step d watch (watch.register formTypes env checks formId)
  | undo (watch : Watch) (env actionId) :
    Step d watch { watch with listing := watch.listing.undo env actionId }
  | saveSettings (watch : Watch) :
    Step d watch { watch with listing := watch.listing.invalidate }
  | revert (watch : Watch) :
    Step d watch { watch with
      listing := { watch.listing with state := revert watch.listing.state }.invalidate }
  | load (watch : Watch) (resolveFormID lookupFormType records) :
    Step d watch { watch with
      listing := watch.listing.load resolveFormID lookupFormType records }
  | elsewhere (watch : Watch) (state) (h : Listing.Elsewhere watch.listing.state state) :
    Step d watch { watch with listing := { watch.listing with state } }

/-- The clock is past the time the guard would take an empty table for a fresh one. -/
def system (d : Nat) : TransitionSystem Watch where
  init watch := ∃ state moment, kCacheTtlMs < moment.clock ∧
    watch = {
      listing := { state, clock := moment.clock }
      quests := moment.world
      past := [moment] }
  step := Step formTypes d

end Watch

/-! ## What was so -/

section Watched

variable {formTypes : FormID → FormType} {d : Nat} {watch : Watch}
  {past past' : List (Moment Quests)}

/-- There was a moment at which no quest needed the item, and one at which none needed its
key, each within two seconds of the last check. -/
def Taken.Unneeded (taken : Taken) (past : List (Moment Quests)) : Prop :=
  Within past 2000 taken.itemAt (fun quests => ¬ Needs quests taken.item) ∧
    (taken.regKey = taken.item ∨
      Within past 2000 taken.keyAt fun quests => ¬ Needs quests taken.regKey)

/-- The row says that a quest needs its item exactly if that is so, in the inventory the
list was made from. -/
def Shows (builtIn : Environment Float32) (row : ListItem) (quests : Quests) : Prop :=
  ∃ entry ∈ builtIn.inventory, entry.object = row.formId ∧
    (row.disabledReason = utf8 "quest_protected" ↔
      entry.isQuestObject = true ∨ Needs quests row.regKey ∨ Needs quests row.formId)

/-- The list was made from a game whose guard gave what was so `age` before. -/
def Tells (formTypes : FormID → FormType) (past : List (Moment Quests)) (age : Nat)
    (begunAt : UInt64) (builtIn : Environment Float32) (allEligible : List ListItem) : Prop :=
  (∃ state : RuntimeState Float32,
      allEligible = buildQuickListEligibleItems formTypes builtIn (snapshotQuickList state)) ∧
    Within past age begunAt fun quests =>
      ∀ id, builtIn.questProtected id = true ↔ Needs quests id

theorem Taken.Unneeded.of_subset {taken : Taken} (h : taken.Unneeded past) (hsub : past ⊆ past') :
    taken.Unneeded past' :=
  ⟨h.1.of_subset hsub, h.2.imp_right fun hkey => hkey.of_subset hsub⟩

theorem Tells.of_subset {age : Nat} {begunAt : UInt64} {builtIn : Environment Float32}
    {allEligible : List ListItem} (h : Tells formTypes past age begunAt builtIn allEligible)
    (hsub : past ⊆ past') : Tells formTypes past' age begunAt builtIn allEligible :=
  ⟨h.1, h.2.of_subset hsub⟩

/-- What is kept in every run. -/
structure Watched (formTypes : FormID → FormType) (d : Nat) (watch : Watch) : Prop where
  started : ∀ moment ∈ watch.past, kCacheTtlMs.toNat < moment.clock.toNat
  now : watch.now ∈ watch.past
  dated : watch.guard.Dated protectedForms watch.past
  taken : ∀ taken ∈ watch.taken, taken.Unneeded watch.past
  pending : ∀ begun ∈ watch.pending, begun.begunAt.toNat ≤ watch.listing.clock.toNat ∧
    Tells formTypes watch.past 2000 begun.begunAt begun.list.env begun.list.allEligible
  cached : watch.listing.cache.allEligible = [] ∨
    ∃ builtIn, watch.listing.cachedIn = some builtIn ∧
      watch.cachedAt.toNat ≤ watch.listing.cache.builtAtMs.toNat ∧
      watch.listing.cache.builtAtMs.toNat ≤ watch.cachedAt.toNat + d ∧
      Tells formTypes watch.past 2000 watch.cachedAt builtIn watch.listing.cache.allEligible

/-! ## Each step -/

theorem Watched.pass (h : Watched formTypes d watch) {moment : Moment Quests}
    (hle : watch.listing.clock ≤ moment.clock) : Watched formTypes d (watch.pass moment) := by
  have hsub : watch.past ⊆ moment :: watch.past := List.subset_cons_self _ _
  have hclock := UInt64.le_iff_toNat_le.mp hle
  have hstarted := h.started _ h.now
  exact
    { started := List.forall_mem_cons.mpr ⟨Nat.lt_of_lt_of_le hstarted hclock, h.started⟩
      now := List.mem_cons_self
      dated := h.dated.of_subset hsub
      taken := fun taken htaken => (h.taken taken htaken).of_subset hsub
      pending := fun begun hbegun =>
        ⟨Nat.le_trans (h.pending begun hbegun).1 hclock, (h.pending begun hbegun).2.of_subset hsub⟩
      cached := h.cached.imp_right fun ⟨builtIn, hin, hle, hsoon, htells⟩ =>
        ⟨builtIn, hin, hle, hsoon, htells.of_subset hsub⟩ }

/-- A change of the runtime state alone keeps what is watched. -/
theorem Watched.state (h : Watched formTypes d watch) (state : RuntimeState Float32) :
    Watched formTypes d { watch with listing := { watch.listing with state } } where
  started := h.started
  now := h.now
  dated := h.dated
  taken := h.taken
  pending := h.pending
  cached := h.cached

theorem Watched.invalidate (h : Watched formTypes d watch) :
    Watched formTypes d { watch with listing := watch.listing.invalidate } where
  started := h.started
  now := h.now
  dated := h.dated
  taken := h.taken
  pending := h.pending
  cached := .inl rfl

theorem Watched.request (h : Watched formTypes d watch) (env : Environment Float32) :
    Watched formTypes d (watch.request formTypes env) := by
  have hanswer := answer_snapshot h.dated h.now (h.started _ h.now)
  have hdated : (snapshotProtectedForms watch.now watch.guard).1.Dated protectedForms watch.past :=
    h.dated.refresh h.now
  refine ⟨h.started, h.now, hdated, h.taken, ?_, h.cached⟩
  intro begun hbegun
  rcases List.mem_cons.mp hbegun with rfl | hbegun
  · refine ⟨Nat.le_refl _, ⟨watch.listing.state, rfl⟩, hanswer.imp fun quests hexact id => ?_⟩
    rw [← hexact id]
    exact decide_eq_true_iff
  · exact h.pending begun hbegun

theorem Watched.store (h : Watched formTypes d watch) {begun : PendingList}
    {before after : List PendingList} (hpending : watch.pending = before ++ begun :: after)
    (hsoon : watch.listing.clock.toNat ≤ begun.begunAt.toNat + d) :
    Watched formTypes d (watch.store begun (before ++ after)) := by
  have hmem : begun ∈ watch.pending := by
    rw [hpending]
    exact List.mem_append_right _ List.mem_cons_self
  have hrest : before ++ after ⊆ watch.pending := by
    rw [hpending]
    exact ((List.sublist_cons_self begun after).append_left before).subset
  obtain ⟨hbegun, htells⟩ := h.pending begun hmem
  exact
    { started := h.started
      now := h.now
      dated := h.dated
      taken := h.taken
      pending := fun other hother => h.pending other (hrest hother)
      cached := .inr ⟨begun.list.env, rfl, hbegun, hsoon, htells⟩ }

section Register

variable {guard : Guard} {env : Environment Float32} {checks : Checks} {item : FormID}
  {state : RuntimeState Float32}

/-- The moments at which the call asks are moments of the past. -/
structure Checks.In (checks : Checks) (past : List (Moment Quests)) : Prop where
  item : checks.item ∈ past
  key : checks.key ∈ past
  itemAgain : checks.itemAgain ∈ past
  keyAgain : checks.keyAgain ∈ past

theorem dated_check (h : guard.Dated protectedForms past) (hin : checks.In past) :
    (Watch.check formTypes env checks state item guard).1.Dated protectedForms past := by
  have hpair : ∀ (asked : Bool) (guard : Guard) (first second : Moment Quests),
      guard.Dated protectedForms past → first ∈ past → second ∈ past →
      (if asked then checkPair first second guard item (getRegisterKey env item)
        else (guard, false)).1.Dated protectedForms past := by
    intro asked guard first second hguard hfirst hsecond
    cases asked with
    | false => exact hguard
    | true => exact dated_checkPair hguard hfirst hsecond
  exact hpair _ _ _ _ (hpair _ _ _ _ h hin.item hin.key) hin.itemAgain hin.keyAgain

theorem unneeded_check (h : guard.Dated protectedForms past) (hin : checks.In past)
    (hstarted : ∀ moment ∈ past, kCacheTtlMs.toNat < moment.clock.toNat)
    (hsuccess : (tryRegisterItem formTypes (Watch.check formTypes env checks state item guard).2
      state item).2.success = true) :
    Taken.Unneeded {
      item
      regKey := getRegisterKey env item
      itemAt := checks.itemAgain.clock
      keyAt := checks.keyAgain.clock } past := by
  obtain ⟨⟨entry, hadmissible⟩, -⟩ := tryRegisterItem_success_iff.mp hsuccess
  have hkey : getRegisterKey (Watch.check formTypes env checks state item guard).2 item =
      getRegisterKey env item := getRegisterKey_congr rfl rfl rfl rfl item
  rw [hkey] at hadmissible
  have hplayer : env.player = true := hadmissible.player
  have hfound : env.lookupBoundObject item = true := hadmissible.found
  have hexcluded : isExcludedOrBlocked env state item (getRegisterKey env item) = false :=
    hadmissible.notExcluded
  have hgroup : getDiscoveryGroup formTypes env state (getRegisterKey env item) ≤ 5 :=
    hadmissible.group
  have hgate : evaluateTccGate env item (getRegisterKey env item) = .kAllow := hadmissible.gate
  have hlisted : (env.inventory.find? fun entry => entry.object = item) = some entry :=
    hadmissible.listed
  have hasks : Watch.asks env state item (getRegisterKey env item) = true := by
    simp [Watch.asks, hplayer, hfound, hexcluded]
  have hquest := hadmissible.notQuest
  have hagain := hadmissible.notQuestAgain
  simp only [Watch.check, hasks, if_true, Bool.or_eq_false_iff, Bool.true_and] at hquest hagain
  have hnotQuest : entry.isQuestObject = false := hagain.1.1
  have hasksAgain : Watch.asksAgain formTypes env state item (getRegisterKey env item) = true := by
    simp [Watch.asksAgain, hadmissible.notRegistered, hgroup, hgate, hlisted, hnotQuest]
  have hpassed := hagain.1.2
  rw [hquest.1, hasksAgain] at hpassed
  exact answer_checkPair (dated_checkPair h hin.item hin.key) hin.itemAgain hin.keyAgain hstarted
    hpassed

end Register

theorem Watched.register (h : Watched formTypes d watch) (env : Environment Float32)
    {checks : Checks} (hfollow : watch.Follow checks) (formId : FormID) :
    Watched formTypes d (watch.register formTypes env checks formId) := by
  have hpassed := (((h.pass hfollow.item).pass hfollow.key).pass hfollow.itemAgain).pass
    hfollow.keyAgain
  have hin : checks.In (checks.keyAgain :: checks.itemAgain :: checks.key :: checks.item ::
      watch.past) := by
    constructor <;> simp
  have hsub : watch.past ⊆ checks.keyAgain :: checks.itemAgain :: checks.key :: checks.item ::
      watch.past := fun moment hmoment => by simp [hmoment]
  have hdated := h.dated.of_subset hsub
  cases hsuccess : (tryRegisterItem formTypes (Watch.check formTypes env checks
      watch.listing.state formId watch.guard).2 watch.listing.state formId).2.success with
  | false =>
    have hasked : Watched formTypes d { (((watch.pass checks.item).pass checks.key).pass
        checks.itemAgain).pass checks.keyAgain with
        guard := (Watch.check formTypes env checks watch.listing.state formId watch.guard).1 } :=
      { hpassed with dated := dated_check hdated hin }
    simp only [Watch.register, hsuccess, Bool.false_eq_true, if_false, Listing.register,
      Watch.pass]
    exact hasked.state _
  | true =>
    have hasked : Watched formTypes d { (((watch.pass checks.item).pass checks.key).pass
        checks.itemAgain).pass checks.keyAgain with
        guard := (Watch.check formTypes env checks watch.listing.state formId watch.guard).1
        taken := {
          item := formId
          regKey := getRegisterKey env formId
          itemAt := checks.itemAgain.clock
          keyAt := checks.keyAgain.clock } :: watch.taken } :=
      { hpassed with
        dated := dated_check hdated hin
        taken := List.forall_mem_cons.mpr
          ⟨unneeded_check hdated hin hpassed.started hsuccess, hpassed.taken⟩ }
    have hkey : getRegisterKey (Watch.check formTypes env checks watch.listing.state formId
        watch.guard).2 formId = getRegisterKey env formId :=
      getRegisterKey_congr rfl rfl rfl rfl formId
    simp only [Watch.register, hsuccess, if_true, Listing.register, Watch.pass, hkey]
    exact (hasked.state _).invalidate

end Watched

namespace Watch

end Watch

end CodexOfPower
