/-
# `CodexOfPower.BuildPanel` — what the build panel offers, and what comes of a click

The panel shows the rows of one theme, and of one of them, the focused one, more, with at
most one button: to put the option into the first empty slot that takes it, or to take it
out of the slot it is in.  Every slot that is set has a button too.  Which slots take an
option the panel works out by itself, from what the payload says about each; it keeps the
selection across payloads and repairs it when it does not fit.

What the page has is the catalog again, row by row (`isPageOf_receive`), and the panel's
own rule is the plugin's (`slotSupportsOption_eq`).  So in every state of a session,
whatever was selected before, every button that is shown does what it says: the click
arrives, is accepted outside combat, and changes the one slot it is about; where there is
none, no empty slot would take the option (`panel_offers_build`).

## What is not said

The texts of the panel are left out, and so are the magnitudes and the tiers it prints: no
button depends on them.  The page is taken to be that of the state the click arrives in; a
click on an older page may be refused, or may find another state, and nothing is said of it.
A swap is handled by the page, but no button of the panel asks for one.
-/
import CodexOfPower.InteropBridge
import CodexOfPower.PredictedGain
import CodexOfPower.DerivedTotals
import CodexOfPower.SwapAtomicity

namespace CodexOfPower

open RE Builds PrismaUIManager

/-! ## The selection -/

namespace BuildPanel

open BuildBridge RegisterBatchPanel PrismaUIPayloads

structure BuildSelection where
  discipline : Text := []
  theme : Text := []
  optionId : Text := []
deriving DecidableEq

structure ThemeTab where
  id : Text
  titleKey : Text
  optionCount : UInt32

def disciplines : List Text := [utf8 "attack", utf8 "defense", utf8 "utility"]

/-- `a || b` on texts. -/
def firstText (a b : Text) : Text := if a = [] then b else a

section Selection

variable (library : ScriptLibrary) (build : BuildPage)

def normalizeBuildDisciplineId (value : Text) : Text :=
  let normalized := library.toLowerCase value
  if disciplines.contains normalized then normalized else []

/-- The theme of an option, from its id where the payload has none. -/
def inferBuildThemeId (option : BuildRow) : Text :=
  let explicit := library.toLowerCase option.themeId
  let id := library.toLowerCase option.id
  let has (part : String) : Bool := decide (utf8 part <:+: id)
  if explicit ≠ [] then explicit
  else if has ".attack." then
    if has "precision" || has "vitals" then utf8 "precision"
    else if has "ferocity" then utf8 "devastation"
    else utf8 "fury"
  else if has ".defense." then
    if has "guard" || has "endurance" then utf8 "guard"
    else if has "bastion" then utf8 "bastion"
    else utf8 "resistance"
  else if has ".utility." then
    if has "cache" || has "barter" then utf8 "livelihood"
    else if has "mobility" then utf8 "exploration"
    else utf8 "trickery"
  else []

def themesOf (discipline : Text) : List BuildTheme :=
  (build.groupedCatalog.get? discipline).getD []

def getBuildThemesForDiscipline (nextDiscipline : Text) : List ThemeTab :=
  let discipline := normalizeBuildDisciplineId library nextDiscipline
  ((themesOf build discipline).map fun theme => {
    id := library.toLowerCase theme.id
    titleKey := theme.titleKey
    optionCount :=
      if theme.optionCount ≠ 0 then theme.optionCount else .ofNat theme.rows.length }).filter
    fun tab : ThemeTab => tab.id ≠ []

def getBuildRowsForSelection (selected : BuildSelection) : List BuildRow :=
  let discipline := normalizeBuildDisciplineId library selected.discipline
  let themeId := library.toLowerCase selected.theme
  let payloadDiscipline := normalizeBuildDisciplineId library build.selectedDiscipline
  let payloadThemeId := library.toLowerCase build.selectedTheme
  let groupedThemes := themesOf build discipline
  let rows := build.options.filter fun option =>
    discipline ≠ [] && normalizeBuildDisciplineId library option.discipline = discipline &&
      (themeId = [] || inferBuildThemeId library option = themeId)
  if discipline ≠ [] && discipline = payloadDiscipline && themeId ≠ [] &&
      themeId = payloadThemeId && build.selectedThemeRows ≠ [] then build.selectedThemeRows
  else if groupedThemes.isEmpty then rows
  else if themeId = [] then groupedThemes.flatMap BuildTheme.rows
  else
    match groupedThemes.find? fun theme => library.toLowerCase theme.id = themeId with
    | some theme => theme.rows
    | none => rows

def isActive (row : BuildRow) : Bool :=
  build.activeSlots.any fun slot => textOf library (slot.member "optionId") = row.id

/-- The first discipline with themes, else with options, else the first. -/
def fallbackDiscipline : Text :=
  match disciplines.find? fun candidate =>
      !(getBuildThemesForDiscipline library build candidate).isEmpty with
  | some candidate => candidate
  | none =>
    (disciplines.find? fun candidate => build.options.any fun option =>
      normalizeBuildDisciplineId library option.discipline = candidate).getD (utf8 "attack")

/-- The row that is chosen where none was, or another's. -/
def preferredRow (rows : List BuildRow) : Option BuildRow :=
  match rows.find? (isActive library build) with
  | some row => some row
  | none =>
    match rows.find? BuildRow.unlocked with
    | some row => some row
    | none => rows.head?

/-! `ensureBuildSelection`, one text after the other. -/

def ensuredDiscipline (buildSelection : BuildSelection) : Text :=
  let discipline := normalizeBuildDisciplineId library
    (firstText buildSelection.discipline build.selectedDiscipline)
  if discipline = [] then fallbackDiscipline library build else discipline

def ensuredTheme (discipline : Text) (buildSelection : BuildSelection) : Text :=
  let themes := getBuildThemesForDiscipline library build discipline
  let theme := library.toLowerCase (firstText buildSelection.theme build.selectedTheme)
  if themes.any fun entry => entry.id = theme then theme
  else
    match themes.find? fun entry => 0 < entry.optionCount with
    | some entry => entry.id
    | none => (themes.head?.map ThemeTab.id).getD []

def ensuredOptionId (discipline theme : Text) (buildSelection : BuildSelection) : Text :=
  let filteredRows := getBuildRowsForSelection library build { discipline, theme }
  let optionId := firstText buildSelection.optionId build.selectedOptionId
  if filteredRows.any fun row => row.id = optionId then optionId
  else ((preferredRow library build filteredRows).map BuildRow.id).getD []

def ensureBuildSelection (buildSelection : BuildSelection) : BuildSelection :=
  let discipline := ensuredDiscipline library build buildSelection
  let theme := ensuredTheme library build discipline buildSelection
  { discipline
    theme
    optionId := ensuredOptionId library build discipline theme buildSelection }

/-- What a click patches; a member that is not mentioned is `none`. -/
structure SelectionPatch where
  discipline : Option Text := none
  theme : Option Text := none
  optionId : Option Text := none

def setBuildSelection (patch : SelectionPatch) (buildSelection : BuildSelection) :
    BuildSelection :=
  ensureBuildSelection library build {
    discipline :=
      if patch.discipline = some [] then []
      else firstText (normalizeBuildDisciplineId library
        (patch.discipline.getD buildSelection.discipline)) buildSelection.discipline
    theme := match patch.theme with
      | none => buildSelection.theme
      | some theme => library.toLowerCase theme
    optionId := patch.optionId.getD buildSelection.optionId }

inductive Selected
  | discipline (discipline : Text)
  | theme (theme : Text)
  | option (optionId : Text)

/-- The part of `onBuildPanelClick` about tabs and rows. -/
def onSelectClick (buildSelection : BuildSelection) : Selected → BuildSelection
  | .discipline discipline =>
    if discipline = [] then buildSelection
    else setBuildSelection library build
      { discipline := some discipline, theme := some [], optionId := some [] } buildSelection
  | .theme theme =>
    if theme = [] then buildSelection
    else setBuildSelection library build { theme := some theme, optionId := some [] } buildSelection
  | .option optionId =>
    if optionId = [] then buildSelection
    else setBuildSelection library build { optionId := some optionId } buildSelection

end Selection

/-! ## The view of an option -/

/-- What the focused option's place for a button shows. -/
inductive Action
  | hint
  | activate (optionId slotId : Text)
  | deactivate (slotId : Text)
deriving DecidableEq

structure OptionView where
  optionId : Text
  stateClass : Text
  activeSlot : Option ScriptValue
  emptySlot : Option ScriptValue
  action : Action

section View

variable (library : ScriptLibrary)

def slotSupportsOption (slot : ScriptValue) (option : BuildRow) : Bool :=
  let slotKind := library.toLowerCase (textOf library (slot.member "slotKind"))
  let discipline := library.toLowerCase option.discipline
  let rule :=
    library.toLowerCase (firstText option.slotCompatibility (utf8 "same_or_wildcard"))
  if slotKind = [] || discipline = [] then false
  else if rule = utf8 "wildcard_only" then slotKind = utf8 "wildcard"
  else if rule = utf8 "same_discipline_only" then slotKind = discipline
  else slotKind = discipline || slotKind = utf8 "wildcard"

/-- `slot.optionId === optionId` -/
def holdsOption (optionId : Text) (slot : ScriptValue) : Bool :=
  match slot.member "optionId" with
  | .string held => held = optionId
  | _ => false

def buildOptionView (option : BuildRow) (activeSlots : List ScriptValue) : OptionView :=
  let compatibleSlots := activeSlots.filter fun slot => slotSupportsOption library slot option
  let activeSlot := compatibleSlots.find? (holdsOption option.id)
  let emptySlot := compatibleSlots.find? fun slot => !(slot.member "optionId").truthy
  { optionId := option.id
    stateClass :=
      if activeSlot.isSome then utf8 "isActive"
      else if option.unlocked then utf8 "isUnlocked" else utf8 "isLocked"
    activeSlot
    emptySlot
    action :=
      if !option.unlocked then .hint
      else
        match activeSlot, emptySlot with
        | some slot, _ => .deactivate (textOf library (slot.member "slotId"))
        | none, some slot => .activate option.id (textOf library (slot.member "slotId"))
        | none, none => .hint }

end View

/-! ## The focused option -/

section Focus

variable (library : ScriptLibrary) (build : BuildPage)

/-- The themes of the options, where the payload has no list of themes. -/
def derivedThemeIds (discipline : Text) : List Text :=
  build.options.foldl (fun seen option =>
    let themeId := library.toLowerCase option.themeId
    if library.toLowerCase option.discipline ≠ discipline then seen
    else if themeId = [] || seen.contains themeId then seen
    else seen ++ [themeId]) []

/-- `normalizeThemeMap`, the ids. -/
def normalizeThemeMap : ByDiscipline (List Text) :=
  build.themeMap.map fun discipline themes =>
    if themes.isEmpty then derivedThemeIds library build discipline
    else themes.map fun theme => textOf library (theme.member "id")

def resolveSelectedDiscipline (selectedDiscipline : Text) : Text :=
  let themeMap := normalizeThemeMap library build
  let requested := library.toLowerCase selectedDiscipline
  if disciplines.contains requested then requested
  else if !themeMap.attack.isEmpty then utf8 "attack"
  else if !themeMap.defense.isEmpty then utf8 "defense"
  else if !themeMap.utility.isEmpty then utf8 "utility"
  else utf8 "attack"

def resolveSelectedTheme (selectedTheme selectedDiscipline : Text) : Text :=
  let requested := library.toLowerCase selectedTheme
  let themes := ((normalizeThemeMap library build).get? selectedDiscipline).getD []
  if requested ≠ [] && themes.contains requested then requested else themes.head?.getD []

def shownRows (selectedDiscipline selectedTheme : Text) : List BuildRow :=
  let payloadDiscipline := resolveSelectedDiscipline library build build.selectedDiscipline
  let payloadTheme := resolveSelectedTheme library build build.selectedTheme payloadDiscipline
  let groupedTheme := (themesOf build selectedDiscipline).find? fun theme =>
    library.toLowerCase (library.toLowerCase theme.id) = selectedTheme
  let groupedRows := (groupedTheme.map BuildTheme.rows).getD []
  if selectedDiscipline = payloadDiscipline && selectedTheme = payloadTheme &&
      build.selectedThemeRows ≠ [] then build.selectedThemeRows
  else if groupedRows ≠ [] then groupedRows
  else build.options.filter fun option =>
    library.toLowerCase option.discipline = selectedDiscipline &&
      (selectedTheme = [] || library.toLowerCase option.themeId = selectedTheme)

/-- The payload's detail, while its own theme is shown. -/
def selectedOptionDetail (selectedDiscipline selectedTheme : Text) : Option BuildRow :=
  let payloadDiscipline := resolveSelectedDiscipline library build build.selectedDiscipline
  if selectedDiscipline = payloadDiscipline &&
      selectedTheme = resolveSelectedTheme library build build.selectedTheme payloadDiscipline then
    build.selectedOptionDetail
  else none

def focusedSourceOption (buildSelection : BuildSelection) : Option BuildRow :=
  let selectedDiscipline := resolveSelectedDiscipline library build buildSelection.discipline
  let selectedTheme := resolveSelectedTheme library build buildSelection.theme selectedDiscipline
  let activeOptionId := buildSelection.optionId
  let rows := shownRows library build selectedDiscipline selectedTheme
  let detail := selectedOptionDetail library build selectedDiscipline selectedTheme
  (detail.filter fun row => row.id = activeOptionId) <|>
    (rows.find? fun row => row.id = activeOptionId) <|>
    (detail.filter fun _ => activeOptionId = []) <|>
    rows.find? (isActive library build) <|>
    rows.find? BuildRow.unlocked <|>
    rows.head? <|>
    build.options.find? (isActive library build) <|>
    build.options.find? BuildRow.unlocked <|>
    build.options.head?

def focusedView (buildSelection : BuildSelection) : Option OptionView :=
  (focusedSourceOption library build buildSelection).map fun row =>
    buildOptionView library row build.activeSlots

/-- The button of a slot: it empties the slot, where the slot has an option of the list. -/
def slotAction (slot : ScriptValue) : Action :=
  if build.options.any fun row => ScriptValue.toText library (slot.member "optionId") = row.id then
    .deactivate (textOf library (slot.member "slotId"))
  else .hint

end Focus

/-! ## The click -/

inductive Call
  | activateBuildOption (payload : Json)
  | deactivateBuildOption (payload : Json)

/-- The part of `onBuildPanelClick` about buttons that call the plugin. -/
def onBuildPanelClick : Action → Option Call
  | .hint => none
  | .activate optionId slotId =>
    if optionId ≠ [] && slotId ≠ [] then
      some (.activateBuildOption (.object [
        (utf8 "optionId", .string optionId),
        (utf8 "slotId", .string slotId)]))
    else none
  | .deactivate slotId =>
    if slotId ≠ [] then
      some (.deactivateBuildOption (.object [(utf8 "slotId", .string slotId)]))
    else none

end BuildPanel

/-! ## The request -/

namespace PrismaUIManager

structure BuildActivationRequest where
  optionId : Text
  slotId : BuildSlotId

def kSlotNames : List (Text × BuildSlotId) :=
  [(utf8 "attack_1", .Attack1), (utf8 "attack_2", .Attack2), (utf8 "defense_1", .Defense1),
   (utf8 "utility_1", .Utility1), (utf8 "utility_2", .Utility2),
   (utf8 "wildcard_1", .Wildcard1)]

def parseBuildSlotId (raw : Text) : Option BuildSlotId :=
  (kSlotNames.find? fun entry => entry.1 = raw).map Prod.snd

/-- A slot that a payload names: the one of an activation or a deactivation, or one of the two
of a swap. -/
def slotMember (payload : Json) (key : String) : Option BuildSlotId :=
  match payload.find key with
  | some (.string raw) => parseBuildSlotId raw
  | _ => none

def parseBuildActivateRequest (payload : Json) : Option BuildActivationRequest :=
  match payload.find "optionId", slotMember payload "slotId" with
  | some (.string optionId), some slotId =>
    if optionId = [] then none else some { optionId, slotId }
  | _, _ => none

def parseBuildDeactivateRequest (payload : Json) : Option BuildSlotId :=
  slotMember payload "slotId"

inductive BuildMutationGuard
  | kAllowed
  | kInvalidPayload
  | kCombatLocked
deriving DecidableEq

def validateBuildMutationRequest (inCombat payloadValid : Bool) : BuildMutationGuard :=
  if !payloadValid then .kInvalidPayload
  else if inCombat then .kCombatLocked
  else .kAllowed

section Handle

variable {F : Type} [FloatType F] (avOwner : Option (ActorValue → F)) (inCombat : Bool)

/-- `HandleActivateBuildOptionRequest` with the main task it queues: the state, and whether
the option was put into the slot. -/
def handleActivateBuildOptionRequest (payload : Json) (state : RuntimeState F) :
    RuntimeState F × Bool :=
  let requestOpt := parseBuildActivateRequest payload
  match validateBuildMutationRequest inCombat requestOpt.isSome, requestOpt with
  | .kAllowed, some request => activateBuildOption avOwner state request.slotId request.optionId
  | _, _ => (state, false)

/-- `HandleDeactivateBuildOptionRequest` with the main task it queues: the state, and whether
the request was carried out. -/
def handleDeactivateBuildOptionRequest (payload : Json) (state : RuntimeState F) :
    RuntimeState F × Bool :=
  let requestOpt := parseBuildDeactivateRequest payload
  match validateBuildMutationRequest inCombat requestOpt.isSome, requestOpt with
  | .kAllowed, some slotId => (deactivateBuildOption avOwner state slotId, true)
  | _, _ => (state, false)

def handleCall (call : BuildPanel.Call) (state : RuntimeState F) : RuntimeState F × Bool :=
  match call with
  | .activateBuildOption payload =>
    handleActivateBuildOptionRequest avOwner inCombat payload state
  | .deactivateBuildOption payload =>
    handleDeactivateBuildOptionRequest avOwner inCombat payload state

end Handle

end PrismaUIManager

/-! ## The page of a state -/

namespace BuildPanel

open BuildBridge RegisterBatchPanel PrismaUIPayloads

/-- What the panel reads of a payload that went through both bridges. -/
def receive (library : ScriptLibrary) (state : RuntimeState Float32) : BuildPage :=
  readBuildPayload library (InteropBridge.normalizeBuildPayload library
    (InteropBridge.normalizeBuildPayload library (parse library (buildBuildPayload state))))

def rowOf (state : RuntimeState Float32) (option : BuildOptionDef Float32) : BuildRow where
  id := option.id
  discipline := disciplineToJs option.discipline
  themeId := themeId option
  hierarchy := hierarchy option
  unlocked := option.unlockPointsCenti ≤ state.pointsCenti option.discipline
  state := optionStateToJs (option.unlockPointsCenti ≤ state.pointsCenti option.discipline)
    (findActiveSlotForOption state option.id).isSome
  slotCompatibility := slotCompatibilityToJs option.slotCompatibility
  compatibleSlots := (getInitialBuildSlotLayout.filter fun slotId =>
    PrismaUIPayloads.isSlotCompatible option slotId).map slotIdToJs
  activeSlotId := (findActiveSlotForOption state option.id).map slotIdToJs
  currentTier := getBuildPointsTier (state.pointsCenti option.discipline)

section Page

variable {library : ScriptLibrary} {state : RuntimeState Float32}
  {option : BuildOptionDef Float32}

theorem slotIdToJs_ne_nil (slotId : BuildSlotId) : slotIdToJs slotId ≠ [] := by
  cases slotId <;> decide

theorem activeSlotId_parse (slotId : Option BuildSlotId) :
    (match parse library (activeSlotIdJson slotId) with
      | .string slotId => some slotId
      | .null | .undefined => none
      | _ => some []) = slotId.map slotIdToJs := by
  cases slotId <;> rfl

theorem compatibleSlots_parse (option : BuildOptionDef Float32) :
    ((parse library (compatibleSlotIdsJson option)).items.map (textOf library)).filter
        (fun slotId => slotId ≠ []) =
      (getInitialBuildSlotLayout.filter fun slotId =>
        PrismaUIPayloads.isSlotCompatible option slotId).map slotIdToJs := by
  have hitems : (parse library (compatibleSlotIdsJson option)).items =
      parseItems library ((getInitialBuildSlotLayout.filter fun slotId =>
        PrismaUIPayloads.isSlotCompatible option slotId).map fun slotId =>
          .string (slotIdToJs slotId)) := rfl
  have htext : ∀ slotId, textOf library (parse library (.string (slotIdToJs slotId))) =
      slotIdToJs slotId := fun slotId => textOf_string (slotIdToJs slotId)
  rw [hitems, parseItems_eq_map, List.map_map, List.map_map, List.filter_eq_self.mpr]
  · exact List.map_congr_left fun slotId _ => htext slotId
  · intro text htext'
    obtain ⟨slotId, -, rfl⟩ := List.mem_map.mp htext'
    rw [decide_eq_true_iff, Function.comp_apply, Function.comp_apply, htext]
    exact slotIdToJs_ne_nil slotId

theorem normalize_rowMembers (score : UInt32) (more : Text × Json) :
    readBuildOption library (parse library (.object (rowMembers state option score
      (state.pointsCenti option.discipline) ++ [more]))) = some (rowOf state option) := by
  have hread : readBuildOption library (parse library (.object (rowMembers state option score
      (state.pointsCenti option.discipline) ++ [more]))) = some { rowOf state option with
        compatibleSlots := ((parse library (compatibleSlotIdsJson option)).items.map
          (textOf library)).filter fun slotId => slotId ≠ []
        activeSlotId := match parse library (activeSlotIdJson
            (findActiveSlotForOption state option.id)) with
          | .string slotId => some slotId
          | .null | .undefined => none
          | _ => some []
        currentTier := countOf library (.number
          (getBuildPointsTier (state.pointsCenti option.discipline)).toUInt64.toNat) } := rfl
  rw [hread, compatibleSlots_parse, activeSlotId_parse, UInt32.toNat_toUInt64, countOf_number]
  rfl

theorem filterMap_map_of_some {α β γ : Type} {f : β → Option γ} {g : α → β} {h : α → γ}
    {l : List α} (hsome : ∀ x ∈ l, f (g x) = some (h x)) : (l.map g).filterMap f = l.map h := by
  induction l with
  | nil => rfl
  | cons x rest ih =>
    simp only [List.map_cons, List.filterMap_cons, hsome x List.mem_cons_self]
    rw [ih fun y hy => hsome y (List.mem_cons_of_mem _ hy)]

theorem mem_collectThemeRows {discipline : BuildDiscipline} {theme : Text} :
    option ∈ collectThemeRows (F := Float32) discipline theme ↔
      option ∈ getBuildOptionCatalog (F := Float32) ∧ option.discipline = discipline ∧
        themeId option = theme := by
  simp [collectThemeRows]

theorem rows_parse (discipline : BuildDiscipline) (theme : Text) :
    (parseItems library (themeRowsJson state discipline theme)).filterMap
        (readBuildOption library) =
      (collectThemeRows discipline theme).map (rowOf state) := by
  unfold themeRowsJson
  rw [parseItems_eq_map, List.map_map]
  refine filterMap_map_of_some fun option hoption => ?_
  obtain ⟨-, rfl, -⟩ := mem_collectThemeRows.mp hoption
  exact normalize_rowMembers _ _

def themeOf (library : ScriptLibrary) (state : RuntimeState Float32)
    (discipline : BuildDiscipline) (theme : ThemeDef) : BuildTheme where
  id := theme.id
  titleKey := theme.titleKey
  optionCount := countOf library (.number
    (UInt64.ofNat (collectThemeRows (F := Float32) discipline theme.id).length).toNat)
  rows := (collectThemeRows discipline theme.id).map (rowOf state)

theorem themes_parse (discipline : BuildDiscipline) :
    (arrayOf? ((parse library (groupedCatalogJson state discipline)).member "themes")).map
        (fun themes => themes.map (readBuildTheme library)) =
      some ((themeCatalog discipline).map (themeOf library state discipline)) := by
  have hread : arrayOf? ((parse library (groupedCatalogJson state discipline)).member "themes") =
      some (parseItems library ((themeCatalog discipline).map fun theme => .object [
        (utf8 "id", .string theme.id),
        (utf8 "optionCount", .numberUnsigned
          (.ofNat (collectThemeRows (F := Float32) discipline theme.id).length)),
        (utf8 "rows", .array (themeRowsJson state discipline theme.id)),
        (utf8 "titleKey", .string theme.titleKey)])) := rfl
  have htheme : ∀ theme : ThemeDef, readBuildTheme library (parse library (.object [
      (utf8 "id", .string theme.id),
      (utf8 "optionCount", .numberUnsigned
        (.ofNat (collectThemeRows (F := Float32) discipline theme.id).length)),
      (utf8 "rows", .array (themeRowsJson state discipline theme.id)),
      (utf8 "titleKey", .string theme.titleKey)])) = { themeOf library state discipline theme with
        rows := (parseItems library (themeRowsJson state discipline theme.id)).filterMap
          (readBuildOption library) } := fun _ => rfl
  rw [hread, Option.map_some, parseItems_eq_map, List.map_map, List.map_map]
  refine congrArg some (List.map_congr_left fun theme _ => ?_)
  rw [Function.comp_apply, Function.comp_apply, htheme, rows_parse]
  rfl

theorem groupedCatalog_parse (themeMap : ByDiscipline (List ScriptValue))
    (options : List BuildRow) :
    readBuildGroupedCatalog library (parse library (.object [
        (utf8 "attack", groupedCatalogJson state .Attack),
        (utf8 "defense", groupedCatalogJson state .Defense),
        (utf8 "utility", groupedCatalogJson state .Utility)])) themeMap options = {
      attack := kAttackThemes.map (themeOf library state .Attack)
      defense := kDefenseThemes.map (themeOf library state .Defense)
      utility := kUtilityThemes.map (themeOf library state .Utility) } := by
  have hparsed : ∀ discipline, ∃ themes, arrayOf? ((parse library
      (groupedCatalogJson state discipline)).member "themes") = some themes ∧
      themes.map (readBuildTheme library) =
        (themeCatalog discipline).map (themeOf library state discipline) :=
    fun discipline => Option.map_eq_some_iff.mp (themes_parse discipline)
  obtain ⟨attack, hattack, hattackMap⟩ := hparsed .Attack
  obtain ⟨defense, hdefense, hdefenseMap⟩ := hparsed .Defense
  obtain ⟨utility, hutility, hutilityMap⟩ := hparsed .Utility
  have hread : readBuildGroupedCatalog library (parse library (.object [
      (utf8 "attack", groupedCatalogJson state .Attack),
      (utf8 "defense", groupedCatalogJson state .Defense),
      (utf8 "utility", groupedCatalogJson state .Utility)])) themeMap options = {
      attack := attack.map (readBuildTheme library)
      defense := defense.map (readBuildTheme library)
      utility := utility.map (readBuildTheme library) } := by
    have ha := Option.some.inj hattack
    have hd := Option.some.inj hdefense
    have hu := Option.some.inj hutility
    subst ha hd hu
    rfl
  rw [hread, hattackMap, hdefenseMap, hutilityMap]
  rfl

/-- The slot as the page has it. -/
structure ReadsSlot (state : RuntimeState Float32) (id : BuildSlotId) (slot : ScriptValue) :
    Prop where
  slotId : slot.member "slotId" = .string (slotIdToJs id)
  slotKind : slot.member "slotKind" = .string (slotKindToJs id)
  optionId : slot.member "optionId" =
    if state.activeBuildSlots id = [] then .null else .string (state.activeBuildSlots id)

/-- What the page of a state has. -/
structure IsPageOf (library : ScriptLibrary) (state : RuntimeState Float32) (page : BuildPage) :
    Prop where
  themeMap : normalizeThemeMap library page = {
    attack := kAttackThemes.map ThemeDef.id
    defense := kDefenseThemes.map ThemeDef.id
    utility := kUtilityThemes.map ThemeDef.id }
  groupedCatalog : page.groupedCatalog = {
    attack := kAttackThemes.map (themeOf library state .Attack)
    defense := kDefenseThemes.map (themeOf library state .Defense)
    utility := kUtilityThemes.map (themeOf library state .Utility) }
  selectedDiscipline : page.selectedDiscipline = utf8 "attack"
  selectedTheme : page.selectedTheme = selectDefaultThemeId (F := Float32) .Attack
  selectedThemeRows : page.selectedThemeRows =
    (collectThemeRows .Attack (selectDefaultThemeId (F := Float32) .Attack)).map (rowOf state)
  selectedOptionDetail : page.selectedOptionDetail =
    (selectDefaultOption state .Attack (selectDefaultThemeId (F := Float32) .Attack)).map
      (rowOf state)
  options : page.options = getBuildOptionCatalog.map (rowOf state)
  activeSlots : List.Forall₂ (ReadsSlot state) getInitialBuildSlotLayout page.activeSlots

theorem themeMap_parse (library : ScriptLibrary) (discipline : BuildDiscipline) :
    ((arrayOf? (parse library (themeMapJson (F := Float32) discipline))).map fun themes =>
        themes.map fun theme => textOf library (theme.member "id")) =
      some ((themeCatalog discipline).map ThemeDef.id) := by
  have hread : arrayOf? (parse library (themeMapJson (F := Float32) discipline)) =
      some (parseItems library ((themeCatalog discipline).map fun theme => .object [
        (utf8 "id", .string theme.id),
        (utf8 "optionCount", .numberUnsigned
          (.ofNat (collectThemeRows (F := Float32) discipline theme.id).length)),
        (utf8 "titleKey", .string theme.titleKey)])) := rfl
  rw [hread, Option.map_some, parseItems_eq_map, List.map_map, List.map_map]
  exact congrArg some (List.map_congr_left fun theme _ => textOf_string theme.id)

theorem slotIdToJs_injective {id other : BuildSlotId} (h : slotIdToJs id = slotIdToJs other) :
    id = other := by
  cases id <;> cases other <;> first | rfl | exact absurd h (by decide)

/-- A slot of the payload is found by its id, and nothing of it is lost. -/
theorem readsSlot_normalizedSlot (id : BuildSlotId) {slot : String × String}
    (hid : utf8 slot.1 = slotIdToJs id) :
    ReadsSlot state id (normalizedSlot
      (parse library (.array (getInitialBuildSlotLayout.map (activeSlotJson state)))) slot) := by
  have hitems : (parse library (.array (getInitialBuildSlotLayout.map
      (activeSlotJson state)))).items =
      getInitialBuildSlotLayout.map fun id => parse library (activeSlotJson state id) := by
    show parseItems library _ = _
    rw [parseItems_eq_map, List.map_map]
    rfl
  have hfound : slotById (getInitialBuildSlotLayout.map fun id =>
      parse library (activeSlotJson state id)) (.string (slotIdToJs id)) =
      some (parse library (activeSlotJson state id)) := by
    refine slotById_of_unique (List.mem_map_of_mem (mem_getInitialBuildSlotLayout id)) rfl rfl ?_
    intro other hother hsame
    obtain ⟨otherId, -, rfl⟩ := List.mem_map.mp hother
    have hids : slotIdToJs otherId = slotIdToJs id := ScriptValue.string.inj hsame
    rw [slotIdToJs_injective hids]
  unfold normalizedSlot
  rw [hitems, hid, hfound]
  refine ⟨rfl, rfl, ?_⟩
  by_cases hempty : state.activeBuildSlots id = []
  · rw [if_pos hempty]
    have hnone := BuildStateStore.getActiveSlot_eq_none hempty
    simp only [activeSlotJson, hnone]
    rfl
  · rw [if_neg hempty]
    have hsome := BuildStateStore.getActiveSlot_eq_some hempty
    simp only [activeSlotJson, hsome]
    rfl

theorem normalizeThemeMap_parse {page : BuildPage} {attack defense utility : List ScriptValue}
    (hpage : page.themeMap = { attack, defense, utility })
    (hattack : arrayOf? (parse library (themeMapJson (F := Float32) .Attack)) = some attack)
    (hdefense : arrayOf? (parse library (themeMapJson (F := Float32) .Defense)) = some defense)
    (hutility : arrayOf? (parse library (themeMapJson (F := Float32) .Utility)) = some utility) :
    normalizeThemeMap library page = {
      attack := kAttackThemes.map ThemeDef.id
      defense := kDefenseThemes.map ThemeDef.id
      utility := kUtilityThemes.map ThemeDef.id } := by
  have hids : ∀ {discipline : BuildDiscipline} {themes : List ScriptValue} (derived : List Text),
      arrayOf? (parse library (themeMapJson (F := Float32) discipline)) = some themes →
      themeCatalog discipline ≠ [] →
      (if themes.isEmpty then derived
        else themes.map fun theme => textOf library (theme.member "id")) =
        (themeCatalog discipline).map ThemeDef.id := by
    intro discipline themes derived hparse hne
    have hmap := themeMap_parse library discipline
    rw [hparse, Option.map_some] at hmap
    have hthemes := Option.some.inj hmap
    cases themes with
    | nil => exact absurd (List.map_eq_nil_iff.mp hthemes.symm) hne
    | cons theme rest => exact hthemes
  unfold normalizeThemeMap ByDiscipline.map
  rw [hpage]
  dsimp only
  rw [hids _ hattack (by decide), hids _ hdefense (by decide), hids _ hutility (by decide)]
  rfl

theorem mem_of_selectDefaultOption {discipline : BuildDiscipline} {theme : Text}
    (h : selectDefaultOption state discipline theme = some option) :
    option ∈ collectThemeRows (F := Float32) discipline theme := by
  unfold selectDefaultOption at h
  dsimp only at h
  split at h
  · cases h
    exact List.mem_of_find?_eq_some ‹_›
  · split at h
    · cases h
      exact List.mem_of_find?_eq_some ‹_›
    · exact List.mem_of_mem_head? h

theorem isPageOf_receive (library : ScriptLibrary) (state : RuntimeState Float32) :
    IsPageOf library state (receive library state) := by
  unfold receive
  rw [InteropBridge.read_normalizeBuildPayload, InteropBridge.read_normalizeBuildPayload]
  refine ⟨normalizeThemeMap_parse rfl rfl rfl rfl, ?_, rfl, rfl, rows_parse _ _, ?_, ?_, ?_⟩
  · exact groupedCatalog_parse
      (readBuildPayload library (parse library (buildBuildPayload state))).themeMap
      (readBuildPayload library (parse library (buildBuildPayload state))).options
  · show readBuildOption library (parse library (selectedOptionJson state .Attack
      (selectDefaultOption state .Attack (selectDefaultThemeId (F := Float32) .Attack)))) = _
    cases hselected : selectDefaultOption state .Attack
        (selectDefaultThemeId (F := Float32) .Attack) with
    | none => rfl
    | some option =>
      obtain ⟨-, hdiscipline, -⟩ :=
        mem_collectThemeRows.mp (mem_of_selectDefaultOption hselected)
      rw [← hdiscipline]
      exact normalize_rowMembers _ _
  · show (parseItems library _).filterMap _ = _
    rw [parseItems_eq_map, List.map_map]
    exact filterMap_map_of_some fun option _ => normalize_rowMembers _ _
  · show List.Forall₂ _ _ (normalizeActiveSlots _)
    rw [normalizeActiveSlots_eq]
    exact .cons (readsSlot_normalizedSlot .Attack1 rfl)
      (.cons (readsSlot_normalizedSlot .Attack2 rfl)
        (.cons (readsSlot_normalizedSlot .Defense1 rfl)
          (.cons (readsSlot_normalizedSlot .Utility1 rfl)
            (.cons (readsSlot_normalizedSlot .Utility2 rfl)
              (.cons (readsSlot_normalizedSlot .Wildcard1 rfl) .nil)))))

end Page

/-! ## The button of a row -/

section Button

variable {library : ScriptLibrary} {state : RuntimeState Float32}
  {option : BuildOptionDef Float32} {slotId : BuildSlotId} {slot : ScriptValue}

/-- The button of a row of the option is right. -/
inductive Offers (avOwner : Option (ActorValue → Float32)) (state : RuntimeState Float32)
    (option : BuildOptionDef Float32) : Action → Prop
  /-- The button empties the slot that the option is in. -/
  | deactivate (slotId : BuildSlotId) (call : Call)
      (hactive : state.activeBuildSlots slotId = option.id)
      (hclick : onBuildPanelClick (.deactivate (slotIdToJs slotId)) = some call)
      (hdone : ∃ ledger, handleCall avOwner false call state =
        ({ state with
            activeBuildSlots := state.activeBuildSlots.set slotId []
            buildAppliedEffectTotals := ledger }, true)) :
      Offers avOwner state option (.deactivate (slotIdToJs slotId))
  /-- The button puts the option, which is in no slot, into an empty one. -/
  | activate (slotId : BuildSlotId) (call : Call)
      (hidle : ∀ other, state.activeBuildSlots other ≠ option.id)
      (hempty : state.activeBuildSlots slotId = [])
      (hclick : onBuildPanelClick (.activate option.id (slotIdToJs slotId)) = some call)
      (hdone : ∃ ledger, handleCall avOwner false call state =
        ({ state with
            activeBuildSlots := state.activeBuildSlots.set slotId option.id
            buildAppliedEffectTotals := ledger }, true)) :
      Offers avOwner state option (.activate option.id (slotIdToJs slotId))
  /-- There is no button: the option is in no slot, and no empty slot would take it. -/
  | hint (hidle : ∀ other, state.activeBuildSlots other ≠ option.id)
      (hfull : ∀ other, state.activeBuildSlots other = [] →
        BuildStateStore.setActiveSlot state other option.id = (state, false)) :
      Offers avOwner state option .hint

theorem declared_of_mem_catalog (h : option ∈ getBuildOptionCatalog) :
    option.id ≠ [] ∧ option.discipline.IsDeclared := by
  have hall : ∀ option ∈ getBuildOptionCatalog (F := Float32), option.id ≠ [] ∧
      (option.discipline = .Attack ∨ option.discipline = .Defense ∨
        option.discipline = .Utility) := by decide +kernel
  obtain ⟨hid, hdiscipline⟩ := hall option h
  refine ⟨hid, ?_⟩
  rcases hdiscipline with h | h | h <;> rw [h] <;> trivial

/-- The panel's own rule is that of the plugin. -/
theorem slotSupportsOption_eq (h : ReadsSlot state slotId slot)
    (hdeclared : option.discipline.IsDeclared) :
    slotSupportsOption library slot (rowOf state option) =
      Builds.isSlotCompatible option slotId := by
  have hkind : library.toLowerCase (slotKindToJs slotId) = slotKindToJs slotId := by
    cases slotId <;> rfl
  have hdiscipline : library.toLowerCase (disciplineToJs option.discipline) =
      disciplineToJs option.discipline := by
    cases option.discipline <;> rfl
  have hrule : library.toLowerCase (firstText (slotCompatibilityToJs option.slotCompatibility)
      (utf8 "same_or_wildcard")) = slotCompatibilityToJs option.slotCompatibility := by
    cases option.slotCompatibility <;> rfl
  obtain ⟨id, discipline, unlock, compatibility, effectType, key, magnitude, perTier, rule⟩ :=
    option
  unfold slotSupportsOption
  dsimp only [rowOf] at hdiscipline hrule ⊢
  rw [h.slotKind, textOf_string, hkind, hdiscipline, hrule]
  cases discipline with
  | unnamed value => cases hdeclared
  | _ => cases compatibility <;> cases slotId <;> rfl

theorem find?_of_forall₂ {α β : Type} {R : α → β → Prop} {l : List α} {l' : List β}
    (h : List.Forall₂ R l l') {p : α → Bool} {p' : β → Bool} (hp : ∀ a b, R a b → p' b = p a) :
    (l.find? p = none ∧ l'.find? p' = none) ∨
      ∃ a b, l.find? p = some a ∧ l'.find? p' = some b ∧ R a b := by
  induction h with
  | nil => exact .inl ⟨rfl, rfl⟩
  | @cons a b rest rest' hab _ ih =>
    rw [List.find?_cons, List.find?_cons, hp a b hab]
    cases p a with
    | true => exact .inr ⟨a, b, rfl, rfl, hab⟩
    | false => exact ih

/-- A call about a slot arrives as one about that slot. -/
theorem parseBuildSlotId_slotIdToJs (slotId : BuildSlotId) :
    parseBuildSlotId (slotIdToJs slotId) = some slotId := by
  cases slotId <;> rfl

theorem handle_deactivate (avOwner : Option (ActorValue → Float32)) (state : RuntimeState Float32)
    (slotId : BuildSlotId) :
    ∃ call, onBuildPanelClick (.deactivate (slotIdToJs slotId)) = some call ∧
      ∃ ledger, handleCall avOwner false call state =
        ({ state with
            activeBuildSlots := state.activeBuildSlots.set slotId []
            buildAppliedEffectTotals := ledger }, true) := by
  refine ⟨.deactivateBuildOption (.object [(utf8 "slotId", .string (slotIdToJs slotId))]), ?_, ?_⟩
  · simp [onBuildPanelClick, slotIdToJs_ne_nil]
  · have hparse : parseBuildDeactivateRequest
        (.object [(utf8 "slotId", .string (slotIdToJs slotId))]) = some slotId :=
      parseBuildSlotId_slotIdToJs slotId
    simp only [handleCall, handleDeactivateBuildOptionRequest, hparse, Option.isSome_some,
      validateBuildMutationRequest, Bool.not_true, Bool.false_eq_true, if_false,
      deactivateBuildOption]
    rw [sync_frame]
    exact ⟨_, rfl⟩

theorem handle_activate (avOwner : Option (ActorValue → Float32))
    (haccepts : Accepts state slotId option.id) (hid : option.id ≠ []) :
    ∃ call, onBuildPanelClick (.activate option.id (slotIdToJs slotId)) = some call ∧
      ∃ ledger, handleCall avOwner false call state =
        ({ state with
            activeBuildSlots := state.activeBuildSlots.set slotId option.id
            buildAppliedEffectTotals := ledger }, true) := by
  refine ⟨.activateBuildOption (.object [
    (utf8 "optionId", .string option.id), (utf8 "slotId", .string (slotIdToJs slotId))]), ?_, ?_⟩
  · simp [onBuildPanelClick, slotIdToJs_ne_nil, hid]
  · have hslot : slotMember (.object [(utf8 "optionId", .string option.id),
        (utf8 "slotId", .string (slotIdToJs slotId))]) "slotId" = some slotId :=
      parseBuildSlotId_slotIdToJs slotId
    have hparse : parseBuildActivateRequest (.object [(utf8 "optionId", .string option.id),
        (utf8 "slotId", .string (slotIdToJs slotId))]) =
        some { optionId := option.id, slotId } := by
      unfold parseBuildActivateRequest
      rw [hslot]
      exact if_neg hid
    simp only [handleCall, handleActivateBuildOptionRequest, hparse, Option.isSome_some,
      validateBuildMutationRequest, Bool.not_true, Bool.false_eq_true, if_false,
      activateBuildOption, setActiveSlot_of_accepts haccepts, if_true]
    rw [sync_frame]
    exact ⟨_, rfl⟩

theorem holdsOption_eq (h : ReadsSlot state slotId slot) (hid : option.id ≠ []) :
    holdsOption option.id slot = decide (state.activeBuildSlots slotId = option.id) := by
  unfold holdsOption
  rw [h.optionId]
  split_ifs with hempty
  · have hne : state.activeBuildSlots slotId ≠ option.id := fun heq => hid (heq.symm.trans hempty)
    exact (decide_eq_false hne).symm
  · rfl

theorem isEmpty_eq (h : ReadsSlot state slotId slot) :
    (!(slot.member "optionId").truthy) = decide (state.activeBuildSlots slotId = []) := by
  rw [h.optionId]
  split_ifs with hempty
  · exact (decide_eq_true hempty).symm
  · simp [ScriptValue.truthy, hempty]

/-- What stands in a slot may stand there. -/
theorem mayHold_iff (h : option ∈ getBuildOptionCatalog) :
    MayHold state slotId option.id ↔ Builds.isSlotCompatible option slotId = true ∧
      option.unlockPointsCenti ≤ state.pointsCenti option.discipline := by
  have hfind := findOption_of_mem_catalog h
  constructor
  · rintro ⟨found, hfound, hcompatible, hunlocked⟩
    obtain rfl := Option.some.inj (hfind.symm.trans hfound)
    exact ⟨hcompatible, hunlocked⟩
  · rintro ⟨hcompatible, hunlocked⟩
    exact ⟨option, hfind, hcompatible, hunlocked⟩

theorem mayHold_of_active (hslots : SlotsValid state) (h : option ∈ getBuildOptionCatalog)
    (hactive : state.activeBuildSlots slotId = option.id) :
    Builds.isSlotCompatible option slotId = true ∧
      option.unlockPointsCenti ≤ state.pointsCenti option.discipline := by
  have hmay := (hslots slotId).resolve_left fun hempty =>
    (declared_of_mem_catalog h).1 (hactive.symm.trans hempty)
  rw [hactive] at hmay
  exact (mayHold_iff h).mp hmay

/-- The slot that the panel finds, and the one that the plugin would. -/
theorem find?_compatible {slots : List ScriptValue} (h : option ∈ getBuildOptionCatalog)
    (hslots : List.Forall₂ (ReadsSlot state) getInitialBuildSlotLayout slots)
    {p : BuildSlotId → Bool} {p' : ScriptValue → Bool}
    (hp : ∀ slotId slot, ReadsSlot state slotId slot → p' slot = p slotId) :
    ((∀ slotId, Builds.isSlotCompatible option slotId = true → p slotId = false) ∧
        (slots.filter fun slot => slotSupportsOption library slot (rowOf state option)).find? p' =
          none) ∨
      ∃ slotId slot, Builds.isSlotCompatible option slotId = true ∧ p slotId = true ∧
        (slots.filter fun slot => slotSupportsOption library slot (rowOf state option)).find? p' =
          some slot ∧
        slot.member "slotId" = .string (slotIdToJs slotId) := by
  have hboth : ∀ slotId slot, ReadsSlot state slotId slot →
      decide (slotSupportsOption library slot (rowOf state option) = true ∧ p' slot = true) =
        (Builds.isSlotCompatible option slotId && p slotId) := by
    intro slotId slot hslot
    rw [slotSupportsOption_eq hslot (declared_of_mem_catalog h).2, hp slotId slot hslot]
    simp
  rw [List.find?_filter]
  rcases find?_of_forall₂ hslots hboth with ⟨hnone, hnone'⟩ | ⟨slotId, slot, hsome, hsome', hslot⟩
  · refine .inl ⟨fun slotId hcompatible => ?_, hnone'⟩
    have hnot := List.find?_eq_none.mp hnone slotId (mem_getInitialBuildSlotLayout slotId)
    simpa [hcompatible] using hnot
  · have hfound := List.find?_some hsome
    rw [Bool.and_eq_true] at hfound
    exact .inr ⟨slotId, slot, hfound.1, hfound.2, hsome', hslot.slotId⟩

/-- Where the slots are valid and read as they are, the button of every option is right. -/
theorem offers_of_slots {slots : List ScriptValue} (avOwner : Option (ActorValue → Float32))
    (hvalid : SlotsValid state) (hcomplete : state.buildMigrationState ≠ .kPendingCleanup)
    (h : option ∈ getBuildOptionCatalog)
    (hslots : List.Forall₂ (ReadsSlot state) getInitialBuildSlotLayout slots) :
    Offers avOwner state option (buildOptionView library (rowOf state option) slots).action := by
  have hname := (declared_of_mem_catalog h).1
  unfold buildOptionView
  dsimp only
  by_cases hunlocked : option.unlockPointsCenti ≤ state.pointsCenti option.discipline
  case neg =>
    have hlocked : (rowOf state option).unlocked = false := decide_eq_false hunlocked
    rw [hlocked]
    refine .hint (fun other hactive => ?_) fun other _ => ?_
    · exact hunlocked (mayHold_of_active hvalid h hactive).2
    · exact setActiveSlot_of_not_accepts fun haccepts =>
        hunlocked ((mayHold_iff h).mp haccepts.2).2
  have hopen : (rowOf state option).unlocked = true := decide_eq_true hunlocked
  rw [hopen, Bool.not_true, if_neg Bool.false_ne_true]
  have hholds : ∀ slotId slot, ReadsSlot state slotId slot →
      holdsOption (rowOf state option).id slot =
        decide (state.activeBuildSlots slotId = option.id) :=
    fun _ _ hslot => holdsOption_eq hslot hname
  have hfree : ∀ slotId slot, ReadsSlot state slotId slot →
      (!(slot.member "optionId").truthy) = decide (state.activeBuildSlots slotId = []) :=
    fun _ _ hslot => isEmpty_eq hslot
  rcases find?_compatible h hslots hholds with
    ⟨hnone, hfind⟩ | ⟨slotId, slot, -, hactive, hfind, hid⟩
  case inr =>
    have hslot : state.activeBuildSlots slotId = option.id := of_decide_eq_true hactive
    obtain ⟨call, hclick, hdone⟩ := handle_deactivate avOwner state slotId
    rw [hfind]
    dsimp only
    rw [hid, textOf_string]
    exact .deactivate slotId call hslot hclick hdone
  have hidle : ∀ other, state.activeBuildSlots other ≠ option.id := by
    intro other hactive
    have hnot := hnone other (mayHold_of_active hvalid h hactive).1
    exact of_decide_eq_false hnot hactive
  rw [hfind]
  rcases find?_compatible h hslots hfree with
    ⟨hnone, hfind⟩ | ⟨slotId, slot, hcompatible, hempty, hfind, hid⟩
  · rw [hfind]
    refine .hint hidle fun other hempty => setActiveSlot_of_not_accepts fun haccepts => ?_
    have hnot := hnone other ((mayHold_iff h).mp haccepts.2).1
    exact of_decide_eq_false hnot hempty
  · have hslot : state.activeBuildSlots slotId = [] := of_decide_eq_true hempty
    have haccepts : Accepts state slotId option.id :=
      ⟨hcomplete, (mayHold_iff h).mpr ⟨hcompatible, hunlocked⟩⟩
    obtain ⟨call, hclick, hdone⟩ := handle_activate avOwner haccepts hname
    rw [hfind]
    dsimp only
    rw [hid, textOf_string]
    exact .activate slotId call hidle hslot hclick hdone

/-- The button of a slot: an empty slot has none, and any other's empties it. -/
def SlotOffers (avOwner : Option (ActorValue → Float32)) (state : RuntimeState Float32)
    (slotId : BuildSlotId) (action : Action) : Prop :=
  if state.activeBuildSlots slotId = [] then action = .hint
  else action = .deactivate (slotIdToJs slotId) ∧
    ∃ option ∈ getBuildOptionCatalog, Offers avOwner state option action

theorem slotOffers_page {page : BuildPage} (avOwner : Option (ActorValue → Float32))
    (hnull : library.textOf .null = utf8 "null") (hvalid : SlotsValid state)
    (hpage : IsPageOf library state page) (h : ReadsSlot state slotId slot) :
    SlotOffers avOwner state slotId (slotAction library page slot) := by
  unfold SlotOffers slotAction
  rw [h.optionId, hpage.options]
  split_ifs with hempty hany hany
  · -- the text of `null` is no option's id
    have hne : ∀ option ∈ getBuildOptionCatalog (F := Float32), utf8 "null" ≠ option.id := by
      decide +kernel
    obtain ⟨row, hrow, hid⟩ := List.any_eq_true.mp hany
    obtain ⟨option, hoption, rfl⟩ := List.mem_map.mp hrow
    have hsame : library.textOf .null = option.id := of_decide_eq_true hid
    exact absurd (hnull.symm.trans hsame) (hne option hoption)
  · rfl
  · obtain ⟨option, hfind, -⟩ := (hvalid slotId).resolve_left hempty
    obtain ⟨call, hclick, hdone⟩ := handle_deactivate avOwner state slotId
    rw [h.slotId, textOf_string]
    exact ⟨rfl, option, mem_catalog_of_findOption hfind,
      .deactivate slotId call (id_of_findOption hfind).symm hclick hdone⟩
  · obtain ⟨option, hfind, -⟩ := (hvalid slotId).resolve_left hempty
    refine absurd (List.any_eq_true.mpr ⟨rowOf state option,
      List.mem_map_of_mem (mem_catalog_of_findOption hfind), ?_⟩) hany
    exact decide_eq_true (id_of_findOption hfind).symm

end Button

/-! ## The selection on the page of a state -/

section Selected

variable {library : ScriptLibrary} {state : RuntimeState Float32} {page : BuildPage}
  {discipline : BuildDiscipline} {theme : Text} {option : BuildOptionDef Float32}

def IsThemeOf (discipline : BuildDiscipline) (theme : Text) : Prop :=
  theme ∈ (themeCatalog discipline).map ThemeDef.id

theorem toLowerCase_disciplineToJs (discipline : BuildDiscipline) :
    library.toLowerCase (disciplineToJs discipline) = disciplineToJs discipline := by
  cases discipline <;> rfl

theorem toLowerCase_theme (h : IsThemeOf discipline theme) : library.toLowerCase theme = theme := by
  cases discipline with
  | unnamed value => cases h
  | _ =>
    obtain ⟨themeDef, hmem, rfl⟩ := List.mem_map.mp h
    rcases List.mem_cons.mp hmem with rfl | hmem
    · rfl
    · rcases List.mem_cons.mp hmem with rfl | hmem
      · rfl
      · rw [List.mem_singleton.mp hmem]
        rfl

theorem mem_disciplines {text : Text} : text ∈ disciplines ↔
    ∃ discipline : BuildDiscipline, discipline.IsDeclared ∧ text = disciplineToJs discipline := by
  constructor
  · intro h
    rcases List.mem_cons.mp h with rfl | h
    · exact ⟨.Attack, trivial, rfl⟩
    · rcases List.mem_cons.mp h with rfl | h
      · exact ⟨.Defense, trivial, rfl⟩
      · exact ⟨.Utility, trivial, List.mem_singleton.mp h⟩
  · rintro ⟨discipline, hdeclared, rfl⟩
    cases discipline with
    | unnamed value => cases hdeclared
    | _ => decide

theorem contains_disciplineToJs (h : discipline.IsDeclared) :
    disciplines.contains (disciplineToJs discipline) = true :=
  List.contains_iff_mem.mpr (mem_disciplines.mpr ⟨discipline, h, rfl⟩)

theorem disciplineToJs_injective {other : BuildDiscipline} (h : discipline.IsDeclared)
    (hother : other.IsDeclared) (heq : disciplineToJs discipline = disciplineToJs other) :
    discipline = other := by
  cases discipline <;> cases other <;>
    first | rfl | exact False.elim h | exact False.elim hother | exact absurd heq (by decide)

theorem normalizeBuildDisciplineId_disciplineToJs (h : discipline.IsDeclared) :
    normalizeBuildDisciplineId library (disciplineToJs discipline) = disciplineToJs discipline := by
  unfold normalizeBuildDisciplineId
  rw [toLowerCase_disciplineToJs]
  exact if_pos (contains_disciplineToJs h)

/-- No tab is empty, and every option is under one. -/
theorem exists_row (h : IsThemeOf discipline theme) :
    ∃ option, option ∈ collectThemeRows (F := Float32) discipline theme := by
  have hall : ∀ discipline ∈ [BuildDiscipline.Attack, .Defense, .Utility],
      ∀ themeDef ∈ themeCatalog discipline, ∃ option ∈ getBuildOptionCatalog (F := Float32),
        option.discipline = discipline ∧ themeId option = themeDef.id := by decide +kernel
  obtain ⟨themeDef, hmem, rfl⟩ := List.mem_map.mp h
  have hdiscipline : discipline ∈ [BuildDiscipline.Attack, .Defense, .Utility] := by
    cases discipline with
    | unnamed value => cases hmem
    | _ => decide
  obtain ⟨option, hoption, hrow⟩ := hall discipline hdiscipline themeDef hmem
  exact ⟨option, mem_collectThemeRows.mpr ⟨hoption, hrow⟩⟩

theorem isThemeOf_themeId (h : option ∈ getBuildOptionCatalog) :
    IsThemeOf option.discipline (themeId option) := by
  have hall : ∀ option ∈ getBuildOptionCatalog (F := Float32),
      themeId option ∈ (themeCatalog option.discipline).map ThemeDef.id := by decide +kernel
  exact hall option h

theorem nonempty_of_isThemeOf (hdeclared : discipline.IsDeclared)
    (h : IsThemeOf discipline theme) : theme ≠ [] := by
  have hne : ∀ discipline ∈ [BuildDiscipline.Attack, .Defense, .Utility],
      [] ∉ (themeCatalog discipline).map ThemeDef.id := by decide
  rintro rfl
  refine hne discipline ?_ h
  cases discipline with
  | unnamed value => exact False.elim hdeclared
  | _ => decide

theorem isThemeOf_default : IsThemeOf .Attack (selectDefaultThemeId (F := Float32) .Attack) := by
  unfold IsThemeOf
  decide +kernel

theorem find?_themeOf (library : ScriptLibrary) (state : RuntimeState Float32)
    {lower : Text → Text} (hlower : ∀ theme, IsThemeOf discipline theme → lower theme = theme)
    (h : IsThemeOf discipline theme) :
    ∃ themeDef : ThemeDef, themeDef.id = theme ∧
      ((themeCatalog discipline).map (themeOf library state discipline)).find?
        (fun found => lower found.id = theme) =
        some (themeOf library state discipline themeDef) := by
  cases hfind : ((themeCatalog discipline).map (themeOf library state discipline)).find?
      fun found => lower found.id = theme with
  | none =>
    obtain ⟨themeDef, hmem, rfl⟩ := List.mem_map.mp h
    have hnot := List.find?_eq_none.mp hfind _ (List.mem_map_of_mem hmem)
    exact absurd (decide_eq_true (hlower _ h)) hnot
  | some found =>
    obtain ⟨themeDef, hmem, rfl⟩ := List.mem_map.mp (List.mem_of_find?_eq_some hfind)
    have hfound : lower (themeOf library state discipline themeDef).id = theme := by
      simpa using List.find?_some hfind
    have hid : lower themeDef.id = theme := hfound
    rw [hlower _ (List.mem_map_of_mem hmem)] at hid
    exact ⟨themeDef, hid, rfl⟩

theorem themesOf_page (h : IsPageOf library state page) (hdeclared : discipline.IsDeclared) :
    themesOf page (disciplineToJs discipline) =
      (themeCatalog discipline).map (themeOf library state discipline) := by
  unfold themesOf
  rw [h.groupedCatalog]
  cases discipline with
  | unnamed value => exact False.elim hdeclared
  | _ => rfl

/-- The tabs are those of the catalog. -/
theorem tabs_page (h : IsPageOf library state page) (hdeclared : discipline.IsDeclared) :
    (getBuildThemesForDiscipline library page (disciplineToJs discipline)).map ThemeTab.id =
      (themeCatalog discipline).map ThemeDef.id := by
  unfold getBuildThemesForDiscipline
  dsimp only
  rw [normalizeBuildDisciplineId_disciplineToJs hdeclared, themesOf_page h hdeclared,
    List.map_map, List.filter_eq_self.mpr]
  · rw [List.map_map]
    exact List.map_congr_left fun themeDef hmem =>
      toLowerCase_theme (List.mem_map_of_mem hmem)
  · have hne : ∀ discipline ∈ [BuildDiscipline.Attack, .Defense, .Utility],
        ∀ themeDef ∈ themeCatalog discipline, themeDef.id ≠ [] := by decide
    intro tab htab
    obtain ⟨themeDef, hmem, rfl⟩ := List.mem_map.mp htab
    have hid : library.toLowerCase themeDef.id ≠ [] := by
      rw [toLowerCase_theme (List.mem_map_of_mem hmem)]
      refine hne discipline ?_ themeDef hmem
      cases discipline with
      | unnamed value => exact False.elim hdeclared
      | _ => decide
    exact decide_eq_true hid

theorem ensuredDiscipline_mem (library : ScriptLibrary) (page : BuildPage)
    (selection : BuildSelection) :
    ensuredDiscipline library page selection ∈ disciplines := by
  have hfallback : fallbackDiscipline library page ∈ disciplines := by
    unfold fallbackDiscipline
    split
    · exact List.mem_of_find?_eq_some ‹_›
    · cases hfind : disciplines.find? fun candidate => page.options.any fun option =>
          normalizeBuildDisciplineId library option.discipline = candidate with
      | none => decide
      | some candidate => exact List.mem_of_find?_eq_some hfind
  unfold ensuredDiscipline
  dsimp only
  split_ifs with hempty
  · exact hfallback
  · unfold normalizeBuildDisciplineId at hempty ⊢
    dsimp only at hempty ⊢
    split_ifs at hempty ⊢ with hmem
    · exact List.contains_iff_mem.mp hmem
    · exact absurd rfl hempty

theorem disciplineToJs_ne_nil (discipline : BuildDiscipline) : disciplineToJs discipline ≠ [] := by
  cases discipline with
  | unnamed value =>
    show utf8 "utility" ≠ []
    decide
  | _ => decide

/-- A discipline that is selected stays selected. -/
theorem ensuredDiscipline_eq {selection : BuildSelection} (hdeclared : discipline.IsDeclared)
    (hselected : selection.discipline = disciplineToJs discipline) :
    ensuredDiscipline library page selection = disciplineToJs discipline := by
  have hne := disciplineToJs_ne_nil discipline
  unfold ensuredDiscipline firstText
  rw [hselected, if_neg hne, normalizeBuildDisciplineId_disciplineToJs hdeclared]
  exact if_neg hne

theorem ensuredTheme_isThemeOf (h : IsPageOf library state page)
    (hdeclared : discipline.IsDeclared) (selection : BuildSelection) :
    IsThemeOf discipline
      (ensuredTheme library page (disciplineToJs discipline) selection) := by
  have htabs := tabs_page h hdeclared
  unfold IsThemeOf ensuredTheme
  rw [← htabs]
  generalize getBuildThemesForDiscipline library page (disciplineToJs discipline) = tabs at htabs
  dsimp only
  split_ifs with hany
  · obtain ⟨tab, htab, hid⟩ := List.any_eq_true.mp hany
    rw [← of_decide_eq_true hid]
    exact List.mem_map_of_mem htab
  · split
    · exact List.mem_map_of_mem (List.mem_of_find?_eq_some ‹_›)
    · cases tabs with
      | cons tab rest => exact List.mem_cons_self
      | nil =>
        cases discipline with
        | unnamed value => exact False.elim hdeclared
        | _ => cases htabs

/-- A theme that is selected stays selected, where it is one of the discipline. -/
theorem ensuredTheme_eq (h : IsPageOf library state page) (hdeclared : discipline.IsDeclared)
    (htheme : IsThemeOf discipline theme) {selection : BuildSelection}
    (hselected : selection.theme = theme) :
    ensuredTheme library page (disciplineToJs discipline) selection = theme := by
  unfold ensuredTheme firstText
  rw [hselected, if_neg (nonempty_of_isThemeOf hdeclared htheme), toLowerCase_theme htheme]
  refine if_pos (List.any_eq_true.mpr ?_)
  have hmem := htheme
  rw [IsThemeOf, ← tabs_page h hdeclared] at hmem
  obtain ⟨tab, htab, hid⟩ := List.mem_map.mp hmem
  exact ⟨tab, htab, decide_eq_true hid⟩

/-- The page has the rows of every theme, in their order. -/
theorem rows_page (h : IsPageOf library state page) (hdeclared : discipline.IsDeclared)
    (htheme : IsThemeOf discipline theme) :
    getBuildRowsForSelection library page { discipline := disciplineToJs discipline, theme } =
      (collectThemeRows discipline theme).map (rowOf state) := by
  have hne := nonempty_of_isThemeOf hdeclared htheme
  have hlower : ∀ theme, IsThemeOf discipline theme → library.toLowerCase theme = theme :=
    fun _ htheme => toLowerCase_theme htheme
  obtain ⟨themeDef, rfl, hfind⟩ := find?_themeOf library state hlower htheme
  unfold getBuildRowsForSelection
  dsimp only
  rw [normalizeBuildDisciplineId_disciplineToJs hdeclared, toLowerCase_theme htheme,
    h.selectedDiscipline, h.selectedTheme, h.selectedThemeRows, themesOf_page h hdeclared]
  have hdeclaredAttack : BuildDiscipline.Attack.IsDeclared := trivial
  have hattack : normalizeBuildDisciplineId library (utf8 "attack") = disciplineToJs .Attack :=
    normalizeBuildDisciplineId_disciplineToJs hdeclaredAttack
  rw [hattack, toLowerCase_theme isThemeOf_default]
  split_ifs with hpayload hempty
  · simp only [Bool.and_eq_true, decide_eq_true_eq] at hpayload
    obtain ⟨⟨⟨⟨-, hdiscipline⟩, -⟩, hsame⟩, -⟩ := hpayload
    rw [disciplineToJs_injective hdeclared hdeclaredAttack hdiscipline, hsame]
  · rw [List.isEmpty_iff, List.map_eq_nil_iff] at hempty
    rw [IsThemeOf, hempty] at htheme
    exact absurd htheme List.not_mem_nil
  · rw [hfind]
    rfl

theorem id_mem_rows {rows : List (BuildOptionDef Float32)} (h : option ∈ rows) :
    ((rows.map (rowOf state)).any fun row => row.id = option.id) = true :=
  List.any_eq_true.mpr ⟨rowOf state option, List.mem_map_of_mem h, decide_eq_true rfl⟩

theorem ensuredOptionId_mem (h : IsPageOf library state page) (hdeclared : discipline.IsDeclared)
    (htheme : IsThemeOf discipline theme) (selection : BuildSelection) :
    ∃ option ∈ collectThemeRows (F := Float32) discipline theme,
      ensuredOptionId library page (disciplineToJs discipline) theme selection = option.id := by
  obtain ⟨first, hfirst⟩ := exists_row htheme
  unfold ensuredOptionId
  rw [rows_page h hdeclared htheme]
  generalize collectThemeRows (F := Float32) discipline theme = rows at hfirst
  have hpreferred : ∃ option ∈ rows,
      preferredRow library page (rows.map (rowOf state)) = some (rowOf state option) := by
    have hmem : ∃ row ∈ rows.map (rowOf state),
        preferredRow library page (rows.map (rowOf state)) = some row := by
      unfold preferredRow
      split
      · exact ⟨_, List.mem_of_find?_eq_some ‹_›, rfl⟩
      · split
        · exact ⟨_, List.mem_of_find?_eq_some ‹_›, rfl⟩
        · cases rows with
          | nil => exact absurd hfirst List.not_mem_nil
          | cons option rest => exact ⟨_, List.mem_cons_self, rfl⟩
    obtain ⟨row, hrow, heq⟩ := hmem
    obtain ⟨option, hoption, rfl⟩ := List.mem_map.mp hrow
    exact ⟨option, hoption, heq⟩
  dsimp only
  split_ifs with hany
  · obtain ⟨row, hrow, hid⟩ := List.any_eq_true.mp hany
    obtain ⟨option, hoption, rfl⟩ := List.mem_map.mp hrow
    exact ⟨option, hoption, (of_decide_eq_true hid).symm⟩
  · obtain ⟨option, hoption, heq⟩ := hpreferred
    rw [heq]
    exact ⟨option, hoption, rfl⟩

/-- An option that is selected stays selected, where it is one of the theme. -/
theorem ensuredOptionId_eq (h : IsPageOf library state page) (hdeclared : discipline.IsDeclared)
    (htheme : IsThemeOf discipline theme)
    (hoption : option ∈ collectThemeRows (F := Float32) discipline theme)
    {selection : BuildSelection} (hselected : selection.optionId = option.id) :
    ensuredOptionId library page (disciplineToJs discipline) theme selection = option.id := by
  have hname := (declared_of_mem_catalog (mem_collectThemeRows.mp hoption).1).1
  unfold ensuredOptionId firstText
  rw [rows_page h hdeclared htheme, hselected, if_neg hname]
  exact if_pos (id_mem_rows hoption)

theorem eq_of_id_eq {other : BuildOptionDef Float32} (h : option ∈ getBuildOptionCatalog)
    (hother : other ∈ getBuildOptionCatalog) (hid : other.id = option.id) : other = option := by
  have hfind := findOption_of_mem_catalog hother
  rw [hid] at hfind
  exact Option.some.inj (hfind.symm.trans (findOption_of_mem_catalog h))

theorem find?_rowOf (h : option ∈ collectThemeRows (F := Float32) discipline theme) :
    ((collectThemeRows discipline theme).map (rowOf state)).find? (fun row => row.id = option.id) =
      some (rowOf state option) := by
  have hcatalog := (mem_collectThemeRows.mp h).1
  cases hfind : ((collectThemeRows discipline theme).map (rowOf state)).find?
      fun row => row.id = option.id with
  | none =>
    have hnot := List.find?_eq_none.mp hfind _ (List.mem_map_of_mem h)
    exact absurd (decide_eq_true rfl) hnot
  | some row =>
    obtain ⟨other, hother, rfl⟩ := List.mem_map.mp (List.mem_of_find?_eq_some hfind)
    have hid : (rowOf state other).id = option.id := by simpa using List.find?_some hfind
    rw [eq_of_id_eq hcatalog (mem_collectThemeRows.mp hother).1 hid]

theorem resolveSelectedDiscipline_page (hdeclared : discipline.IsDeclared) :
    resolveSelectedDiscipline library page (disciplineToJs discipline) =
      disciplineToJs discipline := by
  unfold resolveSelectedDiscipline
  dsimp only
  rw [toLowerCase_disciplineToJs]
  exact if_pos (contains_disciplineToJs hdeclared)

theorem resolveSelectedTheme_page (h : IsPageOf library state page)
    (hdeclared : discipline.IsDeclared) (htheme : IsThemeOf discipline theme) :
    resolveSelectedTheme library page theme (disciplineToJs discipline) = theme := by
  have hthemes : ((normalizeThemeMap library page).get? (disciplineToJs discipline)).getD [] =
      (themeCatalog discipline).map ThemeDef.id := by
    rw [h.themeMap]
    cases discipline with
    | unnamed value => exact False.elim hdeclared
    | _ => rfl
  have hmem : ((themeCatalog discipline).map ThemeDef.id).contains theme = true :=
    List.contains_iff_mem.mpr htheme
  unfold resolveSelectedTheme
  dsimp only
  rw [hthemes, toLowerCase_theme htheme]
  simp only [ne_eq, nonempty_of_isThemeOf hdeclared htheme, hmem, not_false_eq_true,
    decide_true, Bool.and_self, if_true]

theorem payloadTheme_page (h : IsPageOf library state page) :
    resolveSelectedDiscipline library page page.selectedDiscipline = disciplineToJs .Attack ∧
      resolveSelectedTheme library page page.selectedTheme (disciplineToJs .Attack) =
        selectDefaultThemeId (F := Float32) .Attack := by
  have hdeclared : BuildDiscipline.Attack.IsDeclared := trivial
  rw [h.selectedDiscipline, h.selectedTheme]
  exact ⟨resolveSelectedDiscipline_page hdeclared,
    resolveSelectedTheme_page h hdeclared isThemeOf_default⟩

theorem shownRows_page (h : IsPageOf library state page) (hdeclared : discipline.IsDeclared)
    (htheme : IsThemeOf discipline theme) :
    shownRows library page (disciplineToJs discipline) theme =
      (collectThemeRows discipline theme).map (rowOf state) := by
  obtain ⟨hdiscipline, hselected⟩ := payloadTheme_page h
  have hattack : BuildDiscipline.Attack.IsDeclared := trivial
  have htwice : ∀ theme, IsThemeOf discipline theme →
      library.toLowerCase (library.toLowerCase theme) = theme := by
    intro theme htheme
    rw [toLowerCase_theme htheme, toLowerCase_theme htheme]
  obtain ⟨themeDef, rfl, hfind⟩ := find?_themeOf library state htwice htheme
  unfold shownRows
  dsimp only
  rw [hdiscipline, hselected, h.selectedThemeRows, themesOf_page h hdeclared, hfind]
  split_ifs with hpayload hgrouped
  · simp only [Bool.and_eq_true, decide_eq_true_eq] at hpayload
    obtain ⟨⟨hsame, hdefault⟩, -⟩ := hpayload
    rw [disciplineToJs_injective hdeclared hattack hsame, hdefault]
  · rfl
  · -- no theme is without rows
    obtain ⟨option, hoption⟩ := exists_row htheme
    have hnil : (collectThemeRows discipline themeDef.id).map (rowOf state) = [] :=
      not_not.mp hgrouped
    rw [List.map_eq_nil_iff.mp hnil] at hoption
    exact absurd hoption List.not_mem_nil

/-- The option that is selected is the one that is shown in detail. -/
theorem focused_page (h : IsPageOf library state page) (hdeclared : discipline.IsDeclared)
    (htheme : IsThemeOf discipline theme)
    (hoption : option ∈ collectThemeRows (F := Float32) discipline theme) :
    focusedSourceOption library page {
        discipline := disciplineToJs discipline, theme, optionId := option.id } =
      some (rowOf state option) := by
  have hcatalog := (mem_collectThemeRows.mp hoption).1
  have hdetail : ∀ row, selectedOptionDetail library page (disciplineToJs discipline) theme =
      some row → row.id = option.id → row = rowOf state option := by
    intro row hrow hid
    unfold selectedOptionDetail at hrow
    dsimp only at hrow
    split_ifs at hrow
    rw [h.selectedOptionDetail] at hrow
    obtain ⟨other, hother, rfl⟩ := Option.map_eq_some_iff.mp hrow
    rw [eq_of_id_eq hcatalog (mem_collectThemeRows.mp (mem_of_selectDefaultOption hother)).1 hid]
  unfold focusedSourceOption
  dsimp only
  rw [resolveSelectedDiscipline_page hdeclared, resolveSelectedTheme_page h hdeclared htheme,
    shownRows_page h hdeclared htheme, find?_rowOf hoption]
  cases hfilter : (selectedOptionDetail library page (disciplineToJs discipline) theme).filter
      fun row => row.id = option.id with
  | none => rfl
  | some row =>
    obtain ⟨hrow, hid⟩ := Option.filter_eq_some_iff.mp hfilter
    rw [hdetail row hrow (of_decide_eq_true hid)]
    rfl

/-- What a selection becomes, by what of it fits. -/
theorem ensured_page (h : IsPageOf library state page) (selection : BuildSelection) :
    ∃ (discipline : BuildDiscipline) (theme : Text), discipline.IsDeclared ∧
      IsThemeOf discipline theme ∧ ∃ option ∈ collectThemeRows (F := Float32) discipline theme,
      ensureBuildSelection library page selection =
        { discipline := disciplineToJs discipline, theme, optionId := option.id } := by
  obtain ⟨discipline, hdeclared, hdiscipline⟩ :=
    mem_disciplines.mp (ensuredDiscipline_mem library page selection)
  have htheme := ensuredTheme_isThemeOf h hdeclared selection
  obtain ⟨option, hoption, hid⟩ := ensuredOptionId_mem h hdeclared htheme selection
  refine ⟨discipline, _, hdeclared, htheme, option, hoption, ?_⟩
  unfold ensureBuildSelection
  dsimp only
  rw [hdiscipline, hid]

theorem theme_ensured (h : IsPageOf library state page) (hdeclared : discipline.IsDeclared)
    (htheme : IsThemeOf discipline theme) {selection : BuildSelection}
    (hdiscipline : selection.discipline = disciplineToJs discipline)
    (hselected : selection.theme = theme) :
    (ensureBuildSelection library page selection).theme = theme := by
  show ensuredTheme library page (ensuredDiscipline library page selection) selection = theme
  rw [ensuredDiscipline_eq hdeclared hdiscipline]
  exact ensuredTheme_eq h hdeclared htheme hselected

/-- A selection that fits is kept. -/
theorem ensured_of_row (h : IsPageOf library state page) (hdeclared : discipline.IsDeclared)
    (htheme : IsThemeOf discipline theme)
    (hoption : option ∈ collectThemeRows (F := Float32) discipline theme) :
    ensureBuildSelection library page {
        discipline := disciplineToJs discipline, theme, optionId := option.id } =
      { discipline := disciplineToJs discipline, theme, optionId := option.id } := by
  unfold ensureBuildSelection
  dsimp only
  rw [ensuredDiscipline_eq hdeclared rfl, ensuredTheme_eq h hdeclared htheme rfl,
    ensuredOptionId_eq h hdeclared htheme hoption rfl]

/-- Three clicks lead to every option. -/
theorem clicked_page (h : IsPageOf library state page) (hoption : option ∈ getBuildOptionCatalog)
    (selection : BuildSelection) :
    [Selected.discipline (disciplineToJs option.discipline), .theme (themeId option),
        .option option.id].foldl (onSelectClick library page) selection =
      { discipline := disciplineToJs option.discipline
        theme := themeId option
        optionId := option.id } := by
  obtain ⟨hname, hdeclared⟩ := declared_of_mem_catalog hoption
  have htheme := isThemeOf_themeId hoption
  have hjs := disciplineToJs_ne_nil option.discipline
  have hrow : option ∈ collectThemeRows (F := Float32) option.discipline (themeId option) :=
    mem_collectThemeRows.mpr ⟨hoption, rfl, rfl⟩
  have hnormal : normalizeBuildDisciplineId library (disciplineToJs option.discipline) =
      disciplineToJs option.discipline := normalizeBuildDisciplineId_disciplineToJs hdeclared
  have hfirst : (onSelectClick library page selection
      (.discipline (disciplineToJs option.discipline))).discipline =
        disciplineToJs option.discipline := by
    unfold onSelectClick
    dsimp only
    rw [if_neg hjs]
    refine ensuredDiscipline_eq hdeclared ?_
    simp [hjs, hnormal, firstText]
  have hsecond : ∀ selection : BuildSelection,
      selection.discipline = disciplineToJs option.discipline →
      (onSelectClick library page selection (.theme (themeId option))).discipline =
          disciplineToJs option.discipline ∧
        (onSelectClick library page selection (.theme (themeId option))).theme =
          themeId option := by
    intro selection hselected
    unfold onSelectClick
    dsimp only
    rw [if_neg (nonempty_of_isThemeOf hdeclared htheme)]
    refine ⟨ensuredDiscipline_eq hdeclared ?_, theme_ensured h hdeclared htheme ?_ ?_⟩
    · simp [hselected, hjs, hnormal, firstText]
    · simp [hselected, hjs, hnormal, firstText]
    · exact toLowerCase_theme htheme
  have hthird : ∀ selection : BuildSelection,
      selection.discipline = disciplineToJs option.discipline →
      selection.theme = themeId option →
      onSelectClick library page selection (.option option.id) =
        { discipline := disciplineToJs option.discipline
          theme := themeId option
          optionId := option.id } := by
    intro selection hdiscipline hselected
    unfold onSelectClick
    dsimp only
    rw [if_neg hname, ← ensured_of_row h hdeclared htheme hrow]
    unfold setBuildSelection
    congr 1
    simp [hdiscipline, hselected, hjs, hnormal, firstText]
  exact hthird _ (hsecond _ hfirst).1 (hsecond _ hfirst).2

/-- The option that is selected is shown with its button. -/
theorem view_page (hpage : IsPageOf library state page) (hvalid : SlotsValid state)
    (hcomplete : state.buildMigrationState ≠ .kPendingCleanup)
    (avOwner : Option (ActorValue → Float32)) (hdeclared : discipline.IsDeclared)
    (htheme : IsThemeOf discipline theme)
    (hoption : option ∈ collectThemeRows (F := Float32) discipline theme) :
    ∃ view, focusedView library page
        { discipline := disciplineToJs discipline, theme, optionId := option.id } = some view ∧
      view.optionId = option.id ∧ Offers avOwner state option view.action := by
  unfold focusedView
  rw [focused_page hpage hdeclared htheme hoption]
  exact ⟨_, rfl, rfl, offers_of_slots avOwner hvalid hcomplete
    (mem_collectThemeRows.mp hoption).1 hpage.activeSlots⟩

/-- Whatever was selected, some option is shown in detail, with the right button. -/
theorem focused_offers (hpage : IsPageOf library state page) (hvalid : SlotsValid state)
    (hcomplete : state.buildMigrationState ≠ .kPendingCleanup)
    (avOwner : Option (ActorValue → Float32)) (selection : BuildSelection) :
    ∃ option ∈ getBuildOptionCatalog (F := Float32), ∃ view,
      focusedView library page (ensureBuildSelection library page selection) = some view ∧
      view.optionId = option.id ∧ Offers avOwner state option view.action := by
  obtain ⟨discipline, theme, hdeclared, htheme, option, hoption, hensured⟩ :=
    ensured_page hpage selection
  rw [hensured]
  exact ⟨option, (mem_collectThemeRows.mp hoption).1,
    view_page hpage hvalid hcomplete avOwner hdeclared htheme hoption⟩

end Selected

theorem not_pending_of_settled {state : RuntimeState Float32} (h : Settled state) :
    state.buildMigrationState ≠ .kPendingCleanup := by
  rw [h.buildMigrationState]
  exact nofun

/-- In every state of a session, whatever was selected before: the panel shows an option of
the catalog in detail with the right button, so does every slot, and three clicks lead to
any other option. -/
theorem panel_offers_build {formTypes : FormID → FormType} {session : Session}
    (h : (Session.system formTypes ownFiles).Reachable session)
    (avOwner : Option (ActorValue → Float32)) (library : ScriptLibrary)
    (hnull : library.textOf .null = utf8 "null") (selection : BuildSelection) :
    (∃ option ∈ getBuildOptionCatalog (F := Float32), ∃ view,
      focusedView library (receive library session.state) (ensureBuildSelection library
        (receive library session.state) selection) = some view ∧
      view.optionId = option.id ∧ Offers avOwner session.state option view.action) ∧
    List.Forall₂ (fun slotId slot => SlotOffers avOwner session.state slotId
      (slotAction library (receive library session.state) slot))
      getInitialBuildSlotLayout (receive library session.state).activeSlots ∧
    ∀ option ∈ getBuildOptionCatalog (F := Float32), ∃ view,
      focusedView library (receive library session.state)
        ([Selected.discipline (disciplineToJs option.discipline), .theme (themeId option),
          .option option.id].foldl (onSelectClick library (receive library session.state))
          selection) = some view ∧
      view.optionId = option.id ∧ Offers avOwner session.state option view.action := by
  have hpage := isPageOf_receive library session.state
  have hsettled := settled_of_reachable h
  have hcomplete := not_pending_of_settled hsettled
  refine ⟨focused_offers hpage hsettled.slots hcomplete avOwner selection,
    hpage.activeSlots.imp fun _ _ => slotOffers_page avOwner hnull hsettled.slots hpage, ?_⟩
  intro option hoption
  rw [clicked_page hpage hoption]
  exact view_page hpage hsettled.slots hcomplete avOwner (declared_of_mem_catalog hoption).2
    (isThemeOf_themeId hoption) (mem_collectThemeRows.mpr ⟨hoption, rfl, rfl⟩)

/-- A library that knows the text of `null`. -/
def nullLibrary : ScriptLibrary where
  numberOf := fun _ => none
  textOf := fun value => match value with
    | .null => utf8 "null"
    | _ => []
  trim := id
  lowerCase := id
  ofFloat := fun _ => .nan

/-- A session after six swords, with the first attack option in a slot. -/
theorem panel_offers_build_armed :
    armed.state.activeBuildSlots .Attack1 = utf8 "build.attack.ferocity" ∧
    (∃ option ∈ getBuildOptionCatalog (F := Float32), ∃ view,
      focusedView nullLibrary (receive nullLibrary armed.state) (ensureBuildSelection nullLibrary
        (receive nullLibrary armed.state) {}) = some view ∧
      view.optionId = option.id ∧ Offers none armed.state option view.action) ∧
    List.Forall₂ (fun slotId slot => SlotOffers none armed.state slotId
      (slotAction nullLibrary (receive nullLibrary armed.state) slot))
      getInitialBuildSlotLayout (receive nullLibrary armed.state).activeSlots ∧
    ∀ option ∈ getBuildOptionCatalog (F := Float32), ∃ view,
      focusedView nullLibrary (receive nullLibrary armed.state)
        ([Selected.discipline (disciplineToJs option.discipline), .theme (themeId option),
          .option option.id].foldl (onSelectClick nullLibrary (receive nullLibrary armed.state))
          {}) = some view ∧
      view.optionId = option.id ∧ Offers none armed.state option view.action :=
  ⟨by decide +kernel, panel_offers_build
    (((Session.reachable_newGame ownFiles).step (.act _ _)).step (.act _ _)) none nullLibrary rfl
    {}⟩

end BuildPanel

end CodexOfPower
