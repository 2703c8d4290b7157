/-
# `CodexOfPower.RegistrationMaps` — the exclude files and the variant map

Which forms may not be registered and which are variants of which is read from JSON files
when it is first asked for, and kept from then on.  An entry names a form by its plugin
and its id there; an entry that is not of the right shape, or whose form the game does
not have, is passed over, and so is a file that cannot be read or parsed.  What comes of
it is said exactly (`maps_exact`): of two mappings of one variant the first counts, and of
the numbered patch files those up to the first that is missing.

As the tables do not change while the game runs, no form of an exclude file gets into the
registered items or the undo history, in any order of steps (`excluded_never_registered`).

## What is not said

JSON is parsed by a library: a disk has the parsed documents.  The files are read once;
what is changed on disk afterwards shows in the next run of the game, and between two runs
nothing is claimed of what is registered.  The tables are those of one run.
-/
import CodexOfPower.RegisterKeys
import CodexOfPower.FormIdRequests
import CodexOfPower.UndoAtomicity
import CodexOfPower.Lib.FirstOfKey

namespace CodexOfPower

open RE Builds BuildProgression Registration Serialization SerializationStateStore PrismaUIManager

/-! ## Ids in a file -/

namespace Registration.FormId

def parseUInt32Strict (text : Text) (base : Nat) : Option UInt32 :=
  let parsed := fromChars (2 ^ 32) base text
  if parsed.ec ≠ .ok ∨ parsed.rest ≠ [] then none else some (UInt32.ofNat parsed.value)

def parseFormIDText (text : Text) : Option UInt32 :=
  if text = [] then none
  else if (utf8 "0x").isPrefixOf text || (utf8 "0X").isPrefixOf text then
    parseUInt32Strict (text.drop 2) 16
  else parseUInt32Strict text 10

/-- The id within the plugin: 12 bits if it is a light one, else 24. -/
def toLocalFormID (anyID : UInt32) : UInt32 :=
  if anyID = 0 then 0
  else if anyID &&& 0xFF000000 = 0xFE000000 then anyID &&& 0x00000FFF
  else anyID &&& 0x00FFFFFF

end Registration.FormId

namespace RegistrationMaps

open Registration.FormId

/-! ## The loader -/

/-- `ResolveEntryFn`: the form of an entry, from the plugin's name and the text of the
id. -/
abbrev ResolveEntryFn := Text → Text → Option FormID

inductive MapFile
  | exclude
  | excludeUser
  | excludePatch (name : Text)
  | variant
deriving DecidableEq

/-- What the disk answers: the parsed document of a file, unless it cannot be opened or
parsed; and whether a file exists, unless that cannot be told. -/
structure Disk where
  document : MapFile → Option Json
  exists_ : MapFile → Option Bool

structure Data where
  excluded : UnorderedSet FormID := ∅
  variantBase : UnorderedMap FormID FormID := ∅

section Load

variable (disk : Disk) (resolveEntry : ResolveEntryFn)

/-- An object with the texts `file` and `id`, resolved. -/
def resolveObject (entry : Json) : Option FormID :=
  match entry.find "file", entry.find "id" with
  | some (.string file), some (.string id) => resolveEntry file id
  | _, _ => none

/-- The member `key`, if it is an array. -/
def entriesOf (document : Option Json) (key : String) : List Json :=
  match document.bind fun j => j.find key with
  | some (.array entries) => entries
  | _ => []

def excludedForms (file : MapFile) : List FormID :=
  (entriesOf (disk.document file) "forms").filterMap (resolveObject resolveEntry)

def loadExcludeFile (file : MapFile) (out : UnorderedSet FormID) : UnorderedSet FormID :=
  UnorderedMap.insertAll ((excludedForms disk resolveEntry file).map fun id => (id, ())) out

/-- A mapping with both forms there, and different. -/
def resolveMapping (entry : Json) : Option (FormID × FormID) :=
  match entry.find "variant", entry.find "base" with
  | some v, some b =>
    match resolveObject resolveEntry v, resolveObject resolveEntry b with
    | some variantId, some baseId =>
      if variantId = baseId then none else some (variantId, baseId)
    | _, _ => none
  | _, _ => none

def mappings : List (FormID × FormID) :=
  (entriesOf (disk.document .variant) "mappings").filterMap (resolveMapping resolveEntry)

def loadVariantMapFile (out : UnorderedMap FormID FormID) : UnorderedMap FormID FormID :=
  UnorderedMap.emplaceAll (mappings disk resolveEntry) out

/-- `exclude_patch_%02u.json` -/
def patchFile (i : Nat) : MapFile :=
  .excludePatch (utf8 "exclude_patch_" ++ (if i < 10 then utf8 "0" else []) ++
    utf8 (toString i) ++ utf8 ".json")

/-- The patch files from number `i` on, until one does not exist or that cannot be told. -/
def loadPatches : Nat → Nat → UnorderedSet FormID → UnorderedSet FormID
  | 0, _, out => out
  | left + 1, i, out =>
    match disk.exists_ (patchFile i) with
    | some true => loadPatches left (i + 1) (loadExcludeFile disk resolveEntry (patchFile i) out)
    | _ => out

def loadFromDisk (excludePatchMax : Nat) : Data where
  excluded :=
    loadPatches disk resolveEntry excludePatchMax 1
      (loadExcludeFile disk resolveEntry .excludeUser
        (loadExcludeFile disk resolveEntry .exclude ∅))
  variantBase := loadVariantMapFile disk resolveEntry ∅

end Load

end RegistrationMaps

/-! ## The tables -/

namespace Registration

open Registration.FormId RegistrationMaps

def kExcludePatchMax : Nat := 32

/-- `TESDataHandler::LookupForm(localID, fileName)`, the id of the form it finds. -/
abbrev LookupForm := UInt32 → Text → Option FormID

def lookupFormFromEntry (lookupForm : LookupForm) : ResolveEntryFn := fun fileName idStr =>
  match parseFormIDText idStr with
  | none => none
  | some idRaw =>
    let localID := toLocalFormID idRaw
    if localID = 0 then none else lookupForm localID fileName

/-- `EnsureMapsLoaded`: the first call fills the tables, the others leave them. -/
def ensureMapsLoaded (disk : Disk) (lookupForm : LookupForm) : Option Data → Data
  | some loaded => loaded
  | none => loadFromDisk disk (lookupFormFromEntry lookupForm) kExcludePatchMax

end Registration

/-! ## What is in the tables -/

namespace RegistrationMaps

variable {disk : Disk} {resolveEntry : ResolveEntryFn} {out : UnorderedSet FormID} {id : FormID}

/-- An entry of the array names the form. -/
def Lists (disk : Disk) (resolveEntry : ResolveEntryFn) (file : MapFile) (id : FormID) : Prop :=
  ∃ document entries entry, disk.document file = some document ∧
    document.find "forms" = some (.array entries) ∧ entry ∈ entries ∧
    resolveObject resolveEntry entry = some id

/-- The files that are read for excluded forms: the patches are numbered without a gap. -/
inductive Reads (disk : Disk) (excludePatchMax : Nat) : MapFile → Prop
  | exclude : Reads disk excludePatchMax .exclude
  | excludeUser : Reads disk excludePatchMax .excludeUser
  | patch {i : Nat} (hpos : 1 ≤ i) (hle : i ≤ excludePatchMax)
      (hall : ∀ j, 1 ≤ j → j ≤ i → disk.exists_ (patchFile j) = some true) :
      Reads disk excludePatchMax (patchFile i)

theorem mem_entriesOf {document : Option Json} {key : String} {entry : Json} :
    entry ∈ entriesOf document key ↔ ∃ j entries, document = some j ∧
      j.find key = some (.array entries) ∧ entry ∈ entries := by
  cases document with
  | none => simp [entriesOf]
  | some j =>
    cases hfind : j.find key with
    | none => simp [entriesOf, hfind]
    | some value => cases value <;> simp [entriesOf, hfind]

theorem mem_excludedForms {file : MapFile} :
    id ∈ excludedForms disk resolveEntry file ↔ Lists disk resolveEntry file id := by
  unfold excludedForms Lists
  rw [List.mem_filterMap]
  constructor
  · rintro ⟨entry, hentry, hid⟩
    obtain ⟨j, entries, hdocument, hfind, hmem⟩ := mem_entriesOf.mp hentry
    exact ⟨j, entries, entry, hdocument, hfind, hmem, hid⟩
  · rintro ⟨j, entries, entry, hdocument, hfind, hmem, hid⟩
    exact ⟨entry, mem_entriesOf.mpr ⟨j, entries, hdocument, hfind, hmem⟩, hid⟩

theorem mem_loadExcludeFile {file : MapFile} :
    id ∈ loadExcludeFile disk resolveEntry file out ↔
      Lists disk resolveEntry file id ∨ id ∈ out := by
  unfold loadExcludeFile
  rw [UnorderedMap.mem_insertAll, List.map_map, ← mem_excludedForms]
  simp

/-- The loop reads the patches from number `i` on up to the first gap. -/
theorem mem_loadPatches (left i : Nat) :
    id ∈ loadPatches disk resolveEntry left i out ↔ id ∈ out ∨ ∃ k, i ≤ k ∧ k < i + left ∧
      (∀ j, i ≤ j → j ≤ k → disk.exists_ (patchFile j) = some true) ∧
      Lists disk resolveEntry (patchFile k) id := by
  induction left generalizing i out with
  | zero =>
    refine (or_iff_left ?_).symm
    rintro ⟨k, hle, hlt, -⟩
    omega
  | succ left ih =>
    unfold loadPatches
    split
    · next hexists =>
      rw [ih, mem_loadExcludeFile]
      constructor
      · rintro ((hlists | hout) | ⟨k, hle, hlt, hall, hlists⟩)
        · refine .inr ⟨i, Nat.le_refl i, by omega, fun j hj hj' => ?_, hlists⟩
          rw [Nat.le_antisymm hj' hj]
          exact hexists
        · exact .inl hout
        · refine .inr ⟨k, by omega, by omega, fun j hj hj' => ?_, hlists⟩
          rcases Nat.eq_or_lt_of_le hj with rfl | hlt'
          · exact hexists
          · exact hall j hlt' hj'
      · rintro (hout | ⟨k, hle, hlt, hall, hlists⟩)
        · exact .inl (.inr hout)
        · rcases Nat.eq_or_lt_of_le hle with rfl | hlt'
          · exact .inl (.inl hlists)
          · exact .inr ⟨k, hlt', by omega, fun j hj => hall j (by omega), hlists⟩
    · next hgap =>
      refine (or_iff_left ?_).symm
      rintro ⟨k, hle, -, hall, -⟩
      exact hgap (hall i (Nat.le_refl i) hle)

theorem mem_excluded {excludePatchMax : Nat} :
    id ∈ (loadFromDisk disk resolveEntry excludePatchMax).excluded ↔
      ∃ file, Reads disk excludePatchMax file ∧ Lists disk resolveEntry file id := by
  show id ∈ loadPatches disk resolveEntry excludePatchMax 1 _ ↔ _
  rw [mem_loadPatches, mem_loadExcludeFile, mem_loadExcludeFile]
  constructor
  · rintro ((hlists | hlists | hnone) | ⟨k, hle, hlt, hall, hlists⟩)
    · exact ⟨_, .excludeUser, hlists⟩
    · exact ⟨_, .exclude, hlists⟩
    · exact absurd hnone (AList.notMem_empty id)
    · exact ⟨_, .patch hle (by omega) hall, hlists⟩
  · rintro ⟨file, hreads, hlists⟩
    cases hreads with
    | exclude => exact .inl (.inr (.inl hlists))
    | excludeUser => exact .inl (.inl hlists)
    | patch hpos hle hall => exact .inr ⟨_, hpos, by omega, hall, hlists⟩

/-- The mapping is the first one of its variant. -/
def FirstMapping (disk : Disk) (resolveEntry : ResolveEntryFn) (variant base : FormID) : Prop :=
  IsFirst (fun _ => True) Prod.fst (mappings disk resolveEntry) (variant, base)

theorem lookup_variantBase {excludePatchMax : Nat} {variant base : FormID} :
    (loadFromDisk disk resolveEntry excludePatchMax).variantBase.lookup variant = some base ↔
      FirstMapping disk resolveEntry variant base := by
  show (UnorderedMap.emplaceAll (mappings disk resolveEntry) ∅).lookup variant = some base ↔ _
  rw [UnorderedMap.lookup_emplaceAll, UnorderedMap.lookup_empty, Option.none_or]
  exact IsFirst.lookup_eq_some_iff

end RegistrationMaps

/-! ## The tables in use -/

namespace Registration

open RegistrationMaps

variable {disk : Disk} {lookupForm : LookupForm}

/-- The call sees these tables. -/
structure Environment.Uses (env : Environment Float32) (data : Data) : Prop where
  excluded : env.excluded = data.excluded
  variantBase : env.variantBase = data.variantBase

/-- A form that is found has an id other than 0, and is found by it. -/
def Finds (lookupForm : LookupForm) (env : Environment Float32) : Prop :=
  ∀ localID fileName formId, lookupForm localID fileName = some formId →
    formId ≠ 0 ∧ env.lookupByID formId = true

theorem resolved_of_finds {env : Environment Float32} (h : Finds lookupForm env) {entry : Json}
    {formId : FormID}
    (hentry : resolveObject (lookupFormFromEntry lookupForm) entry = some formId) :
    formId ≠ 0 ∧ env.lookupByID formId = true := by
  unfold resolveObject at hentry
  split at hentry
  · unfold lookupFormFromEntry at hentry
    split at hentry
    · cases hentry
    · dsimp only at hentry
      split_ifs at hentry
      exact h _ _ _ hentry
  · cases hentry

theorem targetsExist_of_loaded {env : Environment Float32} (hfinds : Finds lookupForm env)
    (huses : env.Uses (ensureMapsLoaded disk lookupForm none)) : TargetsExist env := by
  intro variantId baseId hlink
  unfold variantOf at hlink
  rw [huses.variantBase] at hlink
  have hmem := (lookup_variantBase.mp hlink).mem
  obtain ⟨entry, -, hentry⟩ := List.mem_filterMap.mp hmem
  unfold resolveMapping at hentry
  split at hentry
  · split at hentry
    · next hbase =>
      split_ifs at hentry
      cases hentry
      exact resolved_of_finds hfinds hbase
    · cases hentry
  · cases hentry

/-- Whatever the files contain: a form is excluded exactly if some entry of a file that is
read names it, and a variant's base is that of its first mapping.  Every form is its own
register key unless keys are normalised; then, where no chain of such mappings has more
than eight links, its key is the end of the chain that starts at its template, or at
itself if it has none.  Entries, files and patches that are not as they should be do no
more than stay out of account. -/
theorem maps_exact (disk : Disk) (lookupForm : LookupForm) (env : Environment Float32)
    (hfinds : Finds lookupForm env) (huses : env.Uses (ensureMapsLoaded disk lookupForm none)) :
    (∀ id, id ∈ env.excluded ↔ ∃ file, Reads disk kExcludePatchMax file ∧
      Lists disk (lookupFormFromEntry lookupForm) file id) ∧
    (∀ variantId baseId, variantOf env variantId = some baseId ↔
      FirstMapping disk (lookupFormFromEntry lookupForm) variantId baseId) ∧
    (env.settings.normalizeRegistration = false → ∀ formId, getRegisterKey env formId = formId) ∧
    (env.settings.normalizeRegistration = true → ChainsWithin (variantOf env) 8 →
      ∀ formId, EndsAt (variantOf env) (walkStart env formId) (getRegisterKey env formId)) := by
  refine ⟨fun id => ?_, fun variantId baseId => ?_, fun hplain formId => ?_,
    fun hnormalize hshort formId => ?_⟩
  · rw [huses.excluded]
    exact mem_excluded
  · unfold variantOf
    rw [huses.variantBase]
    exact lookup_variantBase
  · unfold getRegisterKey
    rw [hplain]
    rfl
  · exact endsAt_getRegisterKey hnormalize (targetsExist_of_loaded hfinds huses) hshort formId

/-- A plugin with every form. -/
def oneMod : LookupForm := fun localID fileName =>
  if fileName = utf8 "A.esp" ∧ localID ≠ 0 then some localID else none

def entry (id : String) : Json :=
  .object [(utf8 "file", .string (utf8 "A.esp")), (utf8 "id", .string (utf8 id))]

/-- One form is excluded, and one is a variant of another. -/
def twoFiles : Disk where
  document
    | .exclude => some (.object [(utf8 "forms", .array [.null, entry "0x05000002"])])
    | .variant => some (.object [(utf8 "mappings", .array
        [.object [(utf8 "variant", entry "3"), (utf8 "base", entry "1")]])])
    | _ => none
  exists_ _ := some false

/-- The armory with the tables of these files. -/
def modded (count countAfter : Int) : Environment Float32 :=
  { Session.armory count countAfter with
    excluded := (ensureMapsLoaded twoFiles oneMod none).excluded
    variantBase := (ensureMapsLoaded twoFiles oneMod none).variantBase }

theorem finds_oneMod (count countAfter : Int) : Finds oneMod (modded count countAfter) := by
  intro localID fileName formId h
  unfold oneMod at h
  split_ifs at h with hfound
  cases h
  exact ⟨hfound.2, rfl⟩

theorem maps_exact_twoFiles :
    (2 ∈ (modded 1 0).excluded ∧ variantOf (modded 1 0) 3 = some 1) ∧
    ∀ id, id ∈ (modded 1 0).excluded ↔ ∃ file, Reads twoFiles kExcludePatchMax file ∧
      Lists twoFiles (lookupFormFromEntry oneMod) file id :=
  ⟨by decide +kernel, (maps_exact twoFiles oneMod (modded 1 0) (finds_oneMod 1 0) ⟨rfl, rfl⟩).1⟩

end Registration

/-! ## No excluded form gets in -/

section Runs

open RegistrationMaps

variable {formTypes : FormID → FormType} {data : Data} {state : RuntimeState Float32}
  {env : Environment Float32} {n : Nat}

/-- Every call of the action sees the tables. -/
def Action.Uses (data : Data) : Action → Prop
  | .register env _ => env.Uses data
  | .registerBatch calls => ∀ call ∈ calls, call.1.Uses data
  | .undo env _ => env.Uses data
  | _ => True

/-- No registered key is excluded, and no item of the history. -/
structure Clean (data : Data) (state : RuntimeState Float32) : Prop where
  registered : ∀ regKey ∈ state.registeredItems, regKey ∉ data.excluded
  records : ∀ record ∈ state.undoHistory,
    record.formId ∉ data.excluded ∧ record.regKey ∉ data.excluded

theorem Clean.of_subset {state' : RuntimeState Float32} (h : Clean data state)
    (hitems : ∀ regKey ∈ state'.registeredItems, regKey ∈ state.registeredItems)
    (hhistory : ∀ record ∈ state'.undoHistory, record ∈ state.undoHistory) : Clean data state' where
  registered regKey hmem := h.registered regKey (hitems regKey hmem)
  records record hmem := h.records record (hhistory record hmem)

theorem Clean.congr {state' : RuntimeState Float32} (h : Clean data state)
    (hitems : state'.registeredItems.Same state.registeredItems)
    (hhistory : state'.undoHistory = state.undoHistory) : Clean data state' := by
  refine h.of_subset (fun regKey => (hitems.mem_iff regKey).mp) ?_
  rw [hhistory]
  exact fun _ hmem => hmem

/-- What is let through is not excluded, and neither is its key. -/
theorem notMem_excluded_of_admissible {item regKey : FormID} {entry : InventoryEntryData}
    (h : Admissible formTypes env state item regKey entry) (huses : env.Uses data) :
    item ∉ data.excluded ∧ regKey ∉ data.excluded := by
  have hnot := h.notExcluded
  unfold isExcludedOrBlocked at hnot
  have hform : ∀ form, isExcludedForm env state form = false → form ∉ data.excluded := by
    intro form hform hmem
    unfold isExcludedForm at hform
    rw [if_pos (huses.excluded.symm ▸ hmem)] at hform
    cases hform
  split_ifs at hnot with hitem
  have hitem' := hform item (Bool.not_eq_true _ ▸ hitem)
  refine ⟨hitem', ?_⟩
  by_cases hsame : regKey = item
  · rw [hsame]
    exact hitem'
  · simp only [ne_eq, hsame, not_false_eq_true, decide_true, Bool.true_and] at hnot
    exact hform regKey hnot

theorem clean_tryRegisterItem (h : Clean data state) (huses : env.Uses data) (formId : FormID) :
    Clean data (tryRegisterItem formTypes env state formId).1 := by
  cases hsuccess : (tryRegisterItem formTypes env state formId).2.success with
  | false =>
    rcases tryRegisterItem_cases formTypes env state formId with
      ⟨-, heq | heq⟩ | ⟨htrue, -⟩
    · rw [heq]
      exact h
    · rw [heq, RegistrationStateStore.blockPair_frame]
      exact h.congr (.refl _) rfl
    · rw [hsuccess] at htrue
      cases htrue
  | true =>
    obtain ⟨⟨entry, hadmissible⟩, -⟩ := tryRegisterItem_success_iff.mp hsuccess
    obtain ⟨hitem, hkey⟩ := notMem_excluded_of_admissible hadmissible huses
    obtain ⟨-, -, heq⟩ := registered_of_success hsuccess
    obtain ⟨ledger, hcommit⟩ := commitRegistration_eq formTypes env state formId
      (getRegisterKey env formId)
      (getDiscoveryGroup formTypes env state (getRegisterKey env formId))
    rw [heq, hcommit]
    refine ⟨fun regKey hmem => ?_, fun record hrecord => ?_⟩
    · rcases UnorderedMap.mem_emplace.mp hmem with rfl | hold
      · exact hkey
      · exact h.registered regKey hold
    · rcases List.mem_append.mp ((trimHistory_suffix _).mem hrecord) with hold | hnew
      · exact h.records record hold
      · rw [List.mem_singleton.mp hnew]
        exact ⟨hitem, hkey⟩

theorem clean_registerBatch {calls : List (Environment Float32 × FormID)} (h : Clean data state)
    (huses : ∀ call ∈ calls, call.1.Uses data) :
    Clean data (registerBatch formTypes state calls).1 := by
  induction calls generalizing state with
  | nil => exact h
  | cons call calls ih =>
    exact ih (clean_tryRegisterItem h (huses call (List.mem_cons_self ..)) call.2)
      fun call' hmem => huses call' (List.mem_cons_of_mem _ hmem)

/-- An undo puts nothing in that was not there. -/
theorem clean_tryUndoRegistration (h : Clean data state) (actionId : UInt64) :
    Clean data (tryUndoRegistration env state actionId).1 := by
  rcases tryUndoRegistration_cases env state actionId with
    ⟨-, heq⟩ | ⟨older, record, hhistory, -, ⟨-, -, heq⟩ | ⟨-, hmem, -, heq⟩ | ⟨-, -, -, heq⟩⟩
  · rw [heq]
    exact h
  · rw [heq]
    refine h.of_subset (fun _ hkey => hkey) fun record' hrecord => ?_
    rw [hhistory]
    exact (trimHistory_suffix _).mem hrecord
  · rw [heq]
    refine h.of_subset (fun regKey hkey => ?_) fun record' hrecord => ?_
    · rcases UnorderedMap.mem_emplace.mp hkey with rfl | hold
      · exact hmem
      · exact (AList.mem_erase.mp hold).2
    · rw [hhistory]
      exact (trimHistory_suffix _).mem hrecord
  · rw [heq]
    refine h.of_subset (fun regKey hkey => ?_) fun record' hold => ?_
    · rw [registeredItems_undone] at hkey
      exact (AList.mem_erase.mp hkey).2
    · rw [(undoHistory_undone env state older record).1] at hold
      rw [hhistory]
      exact List.mem_append_left _ hold

theorem clean_perform {action : Action} (h : Clean data state) (huses : action.Uses data) :
    Clean data (perform formTypes action state).1 := by
  by_cases hmoves : action.MovesNoItem
  · obtain ⟨hsame, -⟩ := sameProgress_perform formTypes hmoves state
    refine h.congr ?_ hsame.undoHistory
    rw [hsame.registeredItems]
    exact .refl _
  · cases action with
    | register env formId => exact clean_tryRegisterItem h huses formId
    | registerBatch calls => exact clean_registerBatch h huses
    | undo env actionId => exact clean_tryUndoRegistration h actionId
    | _ => exact absurd trivial hmoves

/-- The steps of a session in one run of the game: every call sees the same tables. -/
inductive Session.StepWith (formTypes : FormID → FormType) (data : Data) :
    Session → Session → Prop
  | act (session : Session) (action : Action) (h : action.Uses data) :
      StepWith formTypes data session (session.act formTypes action)
  | save (session : Session) (accepts : Nat → Bool) (records : List Record)
      (h : Serialization.save accepts session.state = (true, records)) :
      StepWith formTypes data session { session with saves := records :: session.saves }
  | load (session : Session) (lookupFormType : FormTypeLookup)
      (cleanup : Snapshot Float32 → Bool) (avOwner : Option (ActorValue → Float32))
      (records : List Record) (h : records ∈ session.saves) :
      StepWith formTypes data session { session with
        state := loadGame lookupFormType cleanup avOwner some records session.state }
  | newGame (session : Session) (lookupFormType : FormTypeLookup)
      (cleanup : Snapshot Float32 → Bool) (avOwner : Option (ActorValue → Float32)) :
      StepWith formTypes data session { session with
        state := CodexOfPower.newGame lookupFormType cleanup avOwner session.state }

def sessionsWith (formTypes : FormID → FormType) (data : Data) : TransitionSystem Session where
  init := (Session.system formTypes ownFiles).init
  step := Session.StepWith formTypes data

theorem clean_newGameState : Clean data newGameState where
  registered regKey hmem := absurd hmem (AList.notMem_empty regKey)
  records := nofun

theorem invariant_clean (formTypes : FormID → FormType) (data : Data) :
    (sessionsWith formTypes data).Invariant (Holds fun _ state => Clean data state) where
  init session hinit := by
    obtain ⟨lookupFormType, cleanup, avOwner, rfl⟩ := hinit
    rw [newGame_eq]
    exact ⟨⟨settled_newGameState, clean_newGameState⟩, nofun⟩
  step session session' h hstep := by
    obtain ⟨hsettled, hclean⟩ := h.state
    cases hstep with
    | act action huses =>
      exact ⟨⟨hsettled.perform formTypes action, clean_perform hclean huses⟩, h.saves⟩
    | save accepts records hsave =>
      refine ⟨h.state, fun records' hrecords => ?_⟩
      rcases List.mem_cons.mp hrecords with rfl | hold
      · exact ⟨session.state, accepts, h.state, hsave⟩
      · exact h.saves records' hold
    | load lookupFormType cleanup avOwner records hrecords =>
      obtain ⟨saved, accepts, ⟨hsaved, hcleanSaved⟩, hsave⟩ := h.saves records hrecords
      have hcontinues := loadGame_saved hsaved hsave lookupFormType cleanup avOwner session.state
      exact ⟨⟨hsaved.continues (restorable_loadGame _ _ _ _ _ _) hcontinues,
        hcleanSaved.congr hcontinues.registeredItems hcontinues.undoHistory⟩, h.saves⟩
    | newGame lookupFormType cleanup avOwner =>
      refine ⟨?_, h.saves⟩
      rw [newGame_eq]
      exact ⟨settled_newGameState, clean_newGameState⟩

/-- In every run in which the tables are those that were read from the files, whatever is
registered, undone, saved and loaded: no form that an entry of an exclude file names is a
registered key, nor the item or the key of a record of the undo history. -/
theorem excluded_never_registered {disk : Disk} {lookupForm : LookupForm} {session : Session}
    (h : (sessionsWith formTypes (ensureMapsLoaded disk lookupForm none)).Reachable session)
    (file : MapFile) (hfile : Reads disk kExcludePatchMax file) (id : FormID)
    (hid : Lists disk (lookupFormFromEntry lookupForm) file id) :
    id ∉ session.state.registeredItems ∧
      ∀ record ∈ session.state.undoHistory, record.formId ≠ id ∧ record.regKey ≠ id := by
  have hclean := ((invariant_clean formTypes _).reachable h).state.2
  have hexcluded : id ∈ (ensureMapsLoaded disk lookupForm none).excluded :=
    mem_excluded.mpr ⟨file, hfile, hid⟩
  refine ⟨fun hmem => hclean.registered id hmem hexcluded, fun record hrecord => ⟨?_, ?_⟩⟩
  · rintro rfl
    exact (hclean.records record hrecord).1 hexcluded
  · rintro rfl
    exact (hclean.records record hrecord).2 hexcluded

/-- Six swords are tried, and the second is excluded. -/
def fiveSwords : Session :=
  Session.act Session.weapons
    (.registerBatch ([1, 2, 3, 4, 5, 6].map fun sword => (modded 1 0, sword)))
    { state := newGameState }

theorem excluded_never_registered_fiveSwords :
    1 ∈ fiveSwords.state.registeredItems ∧ 2 ∉ fiveSwords.state.registeredItems := by
  have hstart : (sessionsWith Session.weapons (ensureMapsLoaded twoFiles oneMod none)).Reachable
      { state := newGameState } := .of_init ⟨fun _ => none, fun _ => true, none, by rw [newGame_eq]⟩
  have hfive := hstart.step (.act _
    (.registerBatch ([1, 2, 3, 4, 5, 6].map fun sword => (modded 1 0, sword)))
    (List.forall_mem_map.mpr fun _ _ => ⟨rfl, rfl⟩))
  exact ⟨by decide +kernel, (excluded_never_registered hfive .exclude .exclude 2
    ⟨_, _, entry "0x05000002", rfl, rfl, by simp, by decide +kernel⟩).1⟩

end Runs

end CodexOfPower
