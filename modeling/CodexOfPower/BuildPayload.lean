/-
# `CodexOfPower.BuildPayload` — the build panel's data, from the plugin to the page

`BuildBuildPayload` writes the catalog as JSON three times over: as a list, as the rows of
each theme, sorted, and as the rows of the theme that is shown first; every row says
whether it is unlocked and where it is active.  On the page the payload passes two bridges,
which put it into shape (`CodexOfPower.InteropBridge`), and the panel reads what is left.

The second part is this reading, with a type for each member that the panel relies on
(`BuildPage`).  The defaults are those of the bridges, so that it is the same whether it is
done before them or after; that is proved there.  The slots are merged into a fixed layout
by their ids, which is the same done twice (`normalizeActiveSlots_twice`).

## What is not said

The plugin sends more of a row than is written here: its points, magnitudes, tiers and the
keys of its texts.  Of the payload, the scores of the disciplines, the order of the
hierarchies and the notice of a migration are left out.  None of it decides which option
is shown or what a button does; what the bridges make of these members is in
`CodexOfPower.InteropBridge`.
-/
import CodexOfPower.RegisterBatchPanel
import CodexOfPower.StateStores

namespace CodexOfPower

open RE Builds PrismaUIManager

/-! ## The payload -/

namespace PrismaUIPayloads

structure ThemeDef where
  id : Text
  titleKey : Text
deriving DecidableEq

def makeTheme (id titleKey : String) : ThemeDef := { id := utf8 id, titleKey := utf8 titleKey }

def kAttackThemes : List ThemeDef :=
  [makeTheme "devastation" "build.theme.attack.devastation",
   makeTheme "precision" "build.theme.attack.precision",
   makeTheme "fury" "build.theme.attack.fury"]

def kDefenseThemes : List ThemeDef :=
  [makeTheme "guard" "build.theme.defense.guard",
   makeTheme "bastion" "build.theme.defense.bastion",
   makeTheme "resistance" "build.theme.defense.resistance"]

def kUtilityThemes : List ThemeDef :=
  [makeTheme "livelihood" "build.theme.utility.livelihood",
   makeTheme "exploration" "build.theme.utility.exploration",
   makeTheme "trickery" "build.theme.utility.trickery"]

def kHierarchyOrder : List Text := [utf8 "signpost", utf8 "standard", utf8 "special"]

def themeCatalog : BuildDiscipline → List ThemeDef
  | .Attack => kAttackThemes
  | .Defense => kDefenseThemes
  | .Utility => kUtilityThemes
  | .unnamed _ => []

/-- The `themeId` and the `hierarchy` of each option of the catalog. -/
def optionThemes : List (String × String × String) :=
  [
    ("build.attack.ferocity", "devastation", "signpost"),
    ("build.attack.brawler", "devastation", "special"),
    ("build.attack.destruction", "devastation", "special"),
    ("build.attack.precision", "precision", "standard"),
    ("build.attack.pinpoint", "precision", "standard"),
    ("build.attack.vitals", "precision", "special"),
    ("build.attack.reserve", "fury", "signpost"),
    ("build.attack.secondwind", "fury", "standard"),
    ("build.defense.guard", "guard", "signpost"),
    ("build.defense.bulwark", "guard", "standard"),
    ("build.defense.recovery", "guard", "standard"),
    ("build.defense.restoration", "guard", "special"),
    ("build.defense.bastion", "bastion", "standard"),
    ("build.defense.reprisal", "bastion", "special"),
    ("build.defense.alteration", "bastion", "special"),
    ("build.defense.endurance", "guard", "special"),
    ("build.defense.warding", "resistance", "signpost"),
    ("build.defense.elementalWard", "resistance", "standard"),
    ("build.defense.purification", "resistance", "standard"),
    ("build.defense.absorption", "resistance", "special"),
    ("build.utility.cache", "livelihood", "signpost"),
    ("build.utility.barter", "livelihood", "standard"),
    ("build.utility.smithing", "livelihood", "standard"),
    ("build.utility.alchemy", "livelihood", "standard"),
    ("build.utility.meditation", "livelihood", "standard"),
    ("build.utility.enchanting", "livelihood", "special"),
    ("build.utility.magicka", "livelihood", "special"),
    ("build.utility.hauler", "livelihood", "standard"),
    ("build.utility.mobility", "exploration", "signpost"),
    ("build.utility.wayfinder", "exploration", "standard"),
    ("build.utility.echo", "exploration", "special"),
    ("build.utility.sneak", "trickery", "signpost"),
    ("build.utility.lockpicking", "trickery", "standard"),
    ("build.utility.pickpocket", "trickery", "standard"),
    ("build.utility.conjuration", "trickery", "special"),
    ("build.utility.illusion", "trickery", "special")
  ]

def disciplineToJs : BuildDiscipline → Text
  | .Attack => utf8 "attack"
  | .Defense => utf8 "defense"
  | .Utility => utf8 "utility"
  | .unnamed _ => utf8 "utility"

def slotKindToJs : BuildSlotId → Text
  | .Attack1 | .Attack2 => utf8 "attack"
  | .Defense1 => utf8 "defense"
  | .Utility1 | .Utility2 => utf8 "utility"
  | .Wildcard1 => utf8 "wildcard"

def slotIdToJs : BuildSlotId → Text
  | .Attack1 => utf8 "attack_1"
  | .Attack2 => utf8 "attack_2"
  | .Defense1 => utf8 "defense_1"
  | .Utility1 => utf8 "utility_1"
  | .Utility2 => utf8 "utility_2"
  | .Wildcard1 => utf8 "wildcard_1"

def slotCompatibilityToJs : BuildSlotCompatibility → Text
  | .SameDisciplineOnly => utf8 "same_discipline_only"
  | .WildcardOnly => utf8 "wildcard_only"
  | .SameOrWildcard => utf8 "same_or_wildcard"

def slotMatchesDiscipline (discipline : BuildDiscipline) (slotId : BuildSlotId) : Bool :=
  match discipline with
  | .Attack => slotId = .Attack1 || slotId = .Attack2
  | .Defense => slotId = .Defense1
  | .Utility => slotId = .Utility1 || slotId = .Utility2
  | .unnamed _ => false

section Rows

variable {F : Type} [FloatType F] (state : RuntimeState F)

def themeId (option : BuildOptionDef F) : Text :=
  ((optionThemes.find? fun entry => utf8 entry.1 = option.id).map fun entry =>
    utf8 entry.2.1).getD []

def hierarchy (option : BuildOptionDef F) : Text :=
  ((optionThemes.find? fun entry => utf8 entry.1 = option.id).map fun entry =>
    utf8 entry.2.2).getD []

/-- The fourth copy of `IsSlotCompatible`, by the rule instead of by the slot. -/
def isSlotCompatible (option : BuildOptionDef F) (slotId : BuildSlotId) : Bool :=
  match option.slotCompatibility with
  | .SameDisciplineOnly => slotMatchesDiscipline option.discipline slotId
  | .WildcardOnly => slotId = .Wildcard1
  | .SameOrWildcard => slotMatchesDiscipline option.discipline slotId || slotId = .Wildcard1

def findActiveSlotForOption (optionId : Text) : Option BuildSlotId :=
  getInitialBuildSlotLayout.find? fun slotId =>
    BuildStateStore.getActiveSlot state slotId = some optionId

def countOptionsForTheme (discipline : BuildDiscipline) (theme : Text) : Nat :=
  ((getBuildOptionCatalog (F := F)).filter fun option =>
    option.discipline = discipline && themeId option = theme).length

def hierarchyRank (hierarchy : Text) : Nat := kHierarchyOrder.idxOf hierarchy

def optionStateToJs (unlocked active : Bool) : Text :=
  if active then utf8 "active" else if unlocked then utf8 "unlocked" else utf8 "locked"

def compatibleSlotIdsJson (option : BuildOptionDef F) : Json :=
  .array ((getInitialBuildSlotLayout.filter fun slotId => isSlotCompatible option slotId).map
    fun slotId => .string (slotIdToJs slotId))

def activeSlotIdJson (activeSlotId : Option BuildSlotId) : Json :=
  match activeSlotId with
  | some slotId => .string (slotIdToJs slotId)
  | none => .null

/-- What a row of a theme and an entry of `options` have in common. -/
def rowMembers (option : BuildOptionDef F) (activeScore : UInt32)
    (activeBuildPointsCenti : BuildPointCenti) : List (Text × Json) :=
  let unlocked : Bool := option.unlockPointsCenti ≤ activeBuildPointsCenti
  let activeSlotId := findActiveSlotForOption state option.id
  [
    (utf8 "activeSlotId", activeSlotIdJson activeSlotId),
    (utf8 "compatibleSlots", compatibleSlotIdsJson option),
    (utf8 "currentTier", .numberUnsigned (getBuildPointsTier activeBuildPointsCenti).toUInt64),
    (utf8 "discipline", .string (disciplineToJs option.discipline)),
    (utf8 "hierarchy", .string (hierarchy option)),
    (utf8 "id", .string option.id),
    (utf8 "recordCount", .numberUnsigned activeScore.toUInt64),
    (utf8 "slotCompatibility", .string (slotCompatibilityToJs option.slotCompatibility)),
    (utf8 "state", .string (optionStateToJs unlocked activeSlotId.isSome)),
    (utf8 "themeId", .string (themeId option)),
    (utf8 "unlockPointsCenti", .numberUnsigned option.unlockPointsCenti.toUInt64),
    (utf8 "unlocked", .boolean unlocked)]

def buildCatalogRowPayload (option : BuildOptionDef F) (activeScore : UInt32)
    (activeBuildPointsCenti : BuildPointCenti) : Json :=
  .object (rowMembers state option activeScore activeBuildPointsCenti ++
    [(utf8 "optionId", .string option.id)])

/-- An entry of `options`. -/
def optionPayload (option : BuildOptionDef F) : Json :=
  .object (rowMembers state option (BuildStateStore.scoreForDiscipline state option.discipline)
    (BuildStateStore.buildPointsForDiscipline state option.discipline) ++
    [(utf8 "layer", .string (utf8 "slotted"))])

/-- The order of the options within a theme. -/
def precedesInTheme (lhs rhs : BuildOptionDef F) : Bool :=
  let lhsRank := hierarchyRank (hierarchy lhs)
  let rhsRank := hierarchyRank (hierarchy rhs)
  if lhsRank ≠ rhsRank then lhsRank < rhsRank
  else if lhs.unlockPointsCenti ≠ rhs.unlockPointsCenti then
    lhs.unlockPointsCenti < rhs.unlockPointsCenti
  else lhs.id < rhs.id

def collectThemeRows (discipline : BuildDiscipline) (theme : Text) : List (BuildOptionDef F) :=
  (getBuildOptionCatalog.filter fun option =>
    option.discipline = discipline && themeId option = theme).mergeSort fun lhs rhs =>
      !precedesInTheme rhs lhs

def selectDefaultThemeId (discipline : BuildDiscipline) : Text :=
  let themeDefs := themeCatalog discipline
  match themeDefs.find? fun theme => 0 < countOptionsForTheme (F := F) discipline theme.id with
  | some theme => theme.id
  | none => (themeDefs.head?.map ThemeDef.id).getD []

def selectDefaultOption (discipline : BuildDiscipline) (theme : Text) :
    Option (BuildOptionDef F) :=
  let activeBuildPointsCenti := BuildStateStore.buildPointsForDiscipline state discipline
  let rows := collectThemeRows discipline theme
  match rows.find? fun option => (findActiveSlotForOption state option.id).isSome with
  | some option => some option
  | none =>
    match rows.find? fun option => option.unlockPointsCenti ≤ activeBuildPointsCenti with
    | some option => some option
    | none => rows.head?

def themeRowsJson (discipline : BuildDiscipline) (theme : Text) : List Json :=
  (collectThemeRows discipline theme).map fun option =>
    buildCatalogRowPayload state option (BuildStateStore.scoreForDiscipline state discipline)
      (BuildStateStore.buildPointsForDiscipline state discipline)

def themeMapJson (discipline : BuildDiscipline) : Json :=
  .array ((themeCatalog discipline).map fun theme => .object [
    (utf8 "id", .string theme.id),
    (utf8 "optionCount", .numberUnsigned
      (.ofNat (collectThemeRows (F := F) discipline theme.id).length)),
    (utf8 "titleKey", .string theme.titleKey)])

def groupedCatalogJson (discipline : BuildDiscipline) : Json :=
  .object [
    (utf8 "discipline", .string (disciplineToJs discipline)),
    (utf8 "themes", .array ((themeCatalog discipline).map fun theme => .object [
      (utf8 "id", .string theme.id),
      (utf8 "optionCount", .numberUnsigned
        (.ofNat (collectThemeRows (F := F) discipline theme.id).length)),
      (utf8 "rows", .array (themeRowsJson state discipline theme.id)),
      (utf8 "titleKey", .string theme.titleKey)]))]

def activeSlotJson (slotId : BuildSlotId) : Json :=
  let activeOption := BuildStateStore.getActiveSlot state slotId
  .object [
    (utf8 "occupied", .boolean activeOption.isSome),
    (utf8 "optionId", match activeOption with
      | some optionId => .string optionId
      | none => .null),
    (utf8 "slotId", .string (slotIdToJs slotId)),
    (utf8 "slotKind", .string (slotKindToJs slotId))]

def selectedOptionJson (discipline : BuildDiscipline) (selected : Option (BuildOptionDef F)) :
    Json :=
  match selected with
  | some option => buildCatalogRowPayload state option
      (BuildStateStore.scoreForDiscipline state discipline)
      (BuildStateStore.buildPointsForDiscipline state discipline)
  | none => .null

def buildBuildPayload : Json :=
  let defaultDiscipline := BuildDiscipline.Attack
  let selectedThemeId := selectDefaultThemeId (F := F) defaultDiscipline
  let selectedOption := selectDefaultOption state defaultDiscipline selectedThemeId
  .object [
    (utf8 "activeSlots", .array (getInitialBuildSlotLayout.map (activeSlotJson state))),
    (utf8 "groupedCatalog", .object [
      (utf8 "attack", groupedCatalogJson state .Attack),
      (utf8 "defense", groupedCatalogJson state .Defense),
      (utf8 "utility", groupedCatalogJson state .Utility)]),
    (utf8 "options", .array (getBuildOptionCatalog.map (optionPayload state))),
    (utf8 "selectedDiscipline", .string (disciplineToJs defaultDiscipline)),
    (utf8 "selectedOptionDetail", selectedOptionJson state defaultDiscipline selectedOption),
    (utf8 "selectedOptionId", .string ((selectedOption.map BuildOptionDef.id).getD [])),
    (utf8 "selectedTheme", .string selectedThemeId),
    (utf8 "selectedThemeRows", .array (themeRowsJson state defaultDiscipline selectedThemeId)),
    (utf8 "themeMap", .object [
      (utf8 "attack", themeMapJson (F := F) .Attack),
      (utf8 "defense", themeMapJson (F := F) .Defense),
      (utf8 "utility", themeMapJson (F := F) .Utility)])]

end Rows

end PrismaUIPayloads

/-! ## The panel's reading of it -/

namespace BuildBridge

open PrismaUIPayloads RegisterBatchPanel

/-- One value for each of `attack`, `defense` and `utility`. -/
structure ByDiscipline (α : Type) where
  attack : α
  defense : α
  utility : α

def ByDiscipline.map {α β : Type} (f : Text → α → β) (values : ByDiscipline α) :
    ByDiscipline β where
  attack := f (utf8 "attack") values.attack
  defense := f (utf8 "defense") values.defense
  utility := f (utf8 "utility") values.utility

/-- `values[key]`, where that is one of the three. -/
def ByDiscipline.get? {α : Type} (values : ByDiscipline α) (key : Text) : Option α :=
  if key = utf8 "attack" then some values.attack
  else if key = utf8 "defense" then some values.defense
  else if key = utf8 "utility" then some values.utility
  else none

structure BuildRow where
  id : Text
  discipline : Text
  themeId : Text
  hierarchy : Text
  unlocked : Bool
  state : Text
  slotCompatibility : Text
  compatibleSlots : List Text
  activeSlotId : Option Text
  currentTier : UInt32
deriving DecidableEq

structure BuildTheme where
  id : Text
  titleKey : Text
  optionCount : UInt32
  rows : List BuildRow

structure BuildPage where
  themeMap : ByDiscipline (List ScriptValue)
  groupedCatalog : ByDiscipline (List BuildTheme)
  selectedDiscipline : Text
  selectedTheme : Text
  selectedOptionId : Text
  selectedThemeRows : List BuildRow
  selectedOptionDetail : Option BuildRow
  options : List BuildRow
  activeSlots : List ScriptValue

section Read

variable (library : ScriptLibrary)

/-- `typeof value === "string" ? value : fallback` -/
def textOr (value : ScriptValue) (fallback : Text) : Text :=
  match value with
  | .string text => text
  | _ => fallback

/-- `value && typeof value === "object"` -/
def isObject : ScriptValue → Bool
  | .array _ | .object _ => true
  | _ => false

/-- `Array.isArray(value) ? value : null` -/
def arrayOf? : ScriptValue → Option (List ScriptValue)
  | .array items => some items
  | _ => none

/-- `String(value || "")` -/
def textOf (value : ScriptValue) : Text := (value.orElse (.string [])).toText library

/-- `Number(value || 0) >>> 0` -/
def countOf (value : ScriptValue) : UInt32 := (value.orElse (.number 0)).toUInt32 library

def membersOf : ScriptValue → List (Text × ScriptValue)
  | .object members => members
  | _ => []

/-- `Object.assign({}, target, source)` -/
def assign (target source : ScriptValue) : ScriptValue :=
  .object (membersOf source ++ (membersOf target).filter fun entry =>
    !((membersOf source).map Prod.fst).contains entry.1)

/-- What the panel reads of a row; only an object is one. -/
def readBuildOption (option : ScriptValue) : Option BuildRow :=
  if !isObject option then none
  else some {
    id := textOr (option.member "id") []
    discipline := textOr (option.member "discipline") []
    themeId := textOr (option.member "themeId") []
    hierarchy := textOr (option.member "hierarchy") (utf8 "standard")
    unlocked := (option.member "unlocked").truthy
    state := textOr (option.member "state") []
    slotCompatibility := textOr (option.member "slotCompatibility") []
    compatibleSlots := ((option.member "compatibleSlots").items.map (textOf library)).filter
      fun slotId => slotId ≠ []
    activeSlotId := match option.member "activeSlotId" with
      | .string slotId => some slotId
      | .null | .undefined => none
      | _ => some []
    currentTier := countOf library (option.member "currentTier") }

def readBuildTheme (theme : ScriptValue) : BuildTheme where
  id := textOr (theme.asObject.member "id") []
  titleKey := textOr (theme.asObject.member "titleKey") []
  optionCount := countOf library (theme.asObject.member "optionCount")
  rows := (theme.asObject.member "rows").items.filterMap (readBuildOption library)

/-- The themes of a discipline, from the options. -/
def deriveThemes (options : List BuildRow) (discipline : Text) (themes : List ScriptValue) :
    List BuildTheme :=
  themes.map fun theme =>
    let id := textOf library (theme.member "id")
    let rows := options.filter fun option =>
      library.toLowerCase option.discipline = discipline &&
        library.toLowerCase option.themeId = library.toLowerCase id
    { id
      titleKey := textOf library (theme.member "titleKey")
      optionCount := countOf library ((theme.member "optionCount").orElse (.number rows.length))
      rows }

def deriveGroupedCatalog (themeMap : ByDiscipline (List ScriptValue)) (options : List BuildRow) :
    ByDiscipline (List BuildTheme) :=
  themeMap.map (deriveThemes library options)

def readBuildGroupedCatalog (groupedCatalog : ScriptValue)
    (themeMap : ByDiscipline (List ScriptValue)) (options : List BuildRow) :
    ByDiscipline (List BuildTheme) :=
  if !isObject groupedCatalog then deriveGroupedCatalog library themeMap options
  else
    let themes (key : String) (derived : List BuildTheme) : List BuildTheme :=
      match arrayOf? ((groupedCatalog.member key).member "themes") with
      | some themes => themes.map (readBuildTheme library)
      | none => derived
    let derived := deriveGroupedCatalog library themeMap options
    { attack := themes "attack" derived.attack
      defense := themes "defense" derived.defense
      utility := themes "utility" derived.utility }

/-- An entry of `DEFAULT_BUILD_SLOT_LAYOUT` -/
def defaultSlot (slotId slotKind : String) : ScriptValue :=
  .object [
    (utf8 "occupied", .boolean false),
    (utf8 "optionId", .null),
    (utf8 "slotId", .string (utf8 slotId)),
    (utf8 "slotKind", .string (utf8 slotKind))]

def defaultSlots : List (String × String) :=
  [("attack_1", "attack"), ("attack_2", "attack"), ("defense_1", "defense"),
   ("utility_1", "utility"), ("utility_2", "utility"), ("wildcard_1", "wildcard")]

def defaultBuildSlotLayout : List ScriptValue :=
  defaultSlots.map fun (slotId, slotKind) => defaultSlot slotId slotKind

def defaultTheme (theme : ThemeDef) : ScriptValue :=
  .object [
    (utf8 "id", .string theme.id),
    (utf8 "optionCount", .number 0),
    (utf8 "titleKey", .string theme.titleKey)]

/-- `DEFAULT_BUILD_THEME_MAP` has the themes of the plugin. -/
def defaultBuildThemeMap : ByDiscipline (List ScriptValue) where
  attack := kAttackThemes.map defaultTheme
  defense := kDefenseThemes.map defaultTheme
  utility := kUtilityThemes.map defaultTheme

/-- `bySlotId.get(slotId)`: the last slot of that id. -/
def slotById (slots : List ScriptValue) (slotId : ScriptValue) : Option ScriptValue :=
  slots.reverse.find? fun slot =>
    isObject slot && match slot.member "slotId", slotId with
      | .string id, .string wanted => id = wanted
      | _, _ => false

def normalizeActiveSlots (activeSlots : ScriptValue) : List ScriptValue :=
  defaultBuildSlotLayout.map fun slot =>
    assign slot ((slotById activeSlots.items (slot.member "slotId")).getD (.object []))

/-- What the panel reads of a payload. -/
def readBuildPayload (payload : ScriptValue) : BuildPage :=
  let source := payload.asObject
  let themeMap := source.member "themeMap"
  let normalizedThemeMap : ByDiscipline (List ScriptValue) := {
    attack := (arrayOf? (themeMap.member "attack")).getD defaultBuildThemeMap.attack
    defense := (arrayOf? (themeMap.member "defense")).getD defaultBuildThemeMap.defense
    utility := (arrayOf? (themeMap.member "utility")).getD defaultBuildThemeMap.utility }
  let options := (source.member "options").items.filterMap (readBuildOption library)
  let groupedCatalog := readBuildGroupedCatalog library (source.member "groupedCatalog")
    normalizedThemeMap options
  let selectedDiscipline := textOr (source.member "selectedDiscipline") []
  let selectedTheme := textOr (source.member "selectedTheme") []
  let derivedSelectedTheme := ((groupedCatalog.get? (library.toLowerCase selectedDiscipline)).getD
    []).find? fun theme => library.toLowerCase theme.id = library.toLowerCase selectedTheme
  { themeMap := normalizedThemeMap
    groupedCatalog
    selectedDiscipline
    selectedTheme
    selectedOptionId := textOr (source.member "selectedOptionId") []
    selectedThemeRows := match arrayOf? (source.member "selectedThemeRows") with
      | some rows => rows.filterMap (readBuildOption library)
      | none => (derivedSelectedTheme.map BuildTheme.rows).getD []
    selectedOptionDetail := readBuildOption library (source.member "selectedOptionDetail")
    options
    activeSlots := normalizeActiveSlots (source.member "activeSlots") }

end Read

theorem textOf_string {library : ScriptLibrary} (text : Text) :
    textOf library (.string text) = text :=
  ScriptValue.toText_string_orElse_nil library text

theorem countOf_number {library : ScriptLibrary} (n : UInt32) :
    countOf library (.number n.toNat) = n :=
  ScriptValue.toUInt32_number_orElse_zero n

/-! ## The slots, twice -/

theorem lookup_filter_notMem {members target : List (Text × ScriptValue)} {key : Text}
    (h : key ∉ members.map Prod.fst) :
    (target.filter fun entry => !(members.map Prod.fst).contains entry.1).lookup key =
      target.lookup key := by
  induction target with
  | nil => rfl
  | cons entry rest ih =>
    obtain ⟨other, value⟩ := entry
    by_cases hkey : key = other
    · subst hkey
      simp [h]
    · have hne : (key == other) = false := beq_false_of_ne hkey
      rw [List.lookup_cons, hne, ← ih, List.filter_cons]
      split_ifs
      · rw [List.lookup_cons, hne]
      · rfl

theorem lookup_eq_none_iff_notMem {members : List (Text × ScriptValue)} {key : Text} :
    members.lookup key = none ↔ key ∉ members.map Prod.fst := by
  rw [List.lookup_eq_none_iff]
  constructor
  · intro h hmem
    obtain ⟨entry, hentry, rfl⟩ := List.mem_map.mp hmem
    simpa using h entry hentry
  · intro h entry hentry
    rw [bne_iff_ne]
    rintro rfl
    exact h (List.mem_map_of_mem hentry)

/-- A member of the result is that of the source, or else that of the target. -/
theorem member_assign {target source : ScriptValue} {key : String} :
    (assign target source).member key =
      if utf8 key ∈ (membersOf source).map Prod.fst then source.member key
      else target.member key := by
  have hmember : ∀ value : ScriptValue, value.member key =
      ((membersOf value).lookup (utf8 key)).getD .undefined := by
    intro value
    cases value <;> rfl
  have hassign : membersOf (assign target source) = membersOf source ++
      (membersOf target).filter fun entry =>
        !((membersOf source).map Prod.fst).contains entry.1 := rfl
  rw [hmember, hmember, hmember, hassign, List.lookup_append]
  split_ifs with hkey
  · cases hlookup : (membersOf source).lookup (utf8 key) with
    | some found => rfl
    | none => exact absurd hkey (lookup_eq_none_iff_notMem.mp hlookup)
  · rw [lookup_eq_none_iff_notMem.mpr hkey, Option.none_or, lookup_filter_notMem hkey]

/-- Assigning the result to the same target again changes nothing. -/
theorem assign_assign (target source : ScriptValue) :
    assign target (assign target source) = assign target source := by
  have hall : ∀ entry ∈ membersOf target,
      entry.1 ∈ (membersOf (assign target source)).map Prod.fst := by
    intro entry hentry
    by_cases hkey : entry.1 ∈ (membersOf source).map Prod.fst
    · obtain ⟨found, hfound, heq⟩ := List.mem_map.mp hkey
      exact heq ▸ List.mem_map_of_mem (List.mem_append_left _ hfound)
    · refine List.mem_map_of_mem (List.mem_append_right _ (List.mem_filter.mpr ⟨hentry, ?_⟩))
      rw [Bool.not_eq_true', Bool.eq_false_iff]
      exact mt List.contains_iff_mem.mp hkey
  have hnone : (membersOf target).filter (fun entry =>
      !((membersOf (assign target source)).map Prod.fst).contains entry.1) = [] := by
    rw [List.filter_eq_nil_iff]
    intro entry hentry
    rw [List.contains_iff_mem.mpr (hall entry hentry)]
    exact Bool.false_ne_true
  have hmembers : assign target source = .object (membersOf (assign target source)) := rfl
  rw [assign, hnone, List.append_nil]
  exact hmembers.symm

theorem slotById_eq_some {slots : List ScriptValue} {slot : ScriptValue} {slotId : Text}
    (h : slotById slots (.string slotId) = some slot) :
    slot ∈ slots ∧ isObject slot = true ∧ slot.member "slotId" = .string slotId := by
  have hmem := List.mem_reverse.mp (List.mem_of_find?_eq_some h)
  have hfound := List.find?_some h
  rw [Bool.and_eq_true] at hfound
  refine ⟨hmem, hfound.1, ?_⟩
  cases hmember : slot.member "slotId" with
  | string id =>
    rw [hmember] at hfound
    rw [of_decide_eq_true hfound.2]
  | _ =>
    rw [hmember] at hfound
    cases hfound.2

theorem slotById_of_unique {slots : List ScriptValue} {slot : ScriptValue} {slotId : Text}
    (hmem : slot ∈ slots) (hobject : isObject slot = true)
    (hid : slot.member "slotId" = .string slotId)
    (hunique : ∀ other ∈ slots, other.member "slotId" = .string slotId → other = slot) :
    slotById slots (.string slotId) = some slot := by
  cases hfind : slotById slots (.string slotId) with
  | some other =>
    obtain ⟨hother, -, hsame⟩ := slotById_eq_some hfind
    rw [hunique other hother hsame]
  | none =>
    unfold slotById at hfind
    rw [List.find?_eq_none] at hfind
    have hnot := hfind slot (List.mem_reverse.mpr hmem)
    simp [hobject, hid] at hnot

def normalizedSlot (activeSlots : ScriptValue) (slot : String × String) : ScriptValue :=
  assign (defaultSlot slot.1 slot.2)
    ((slotById activeSlots.items (.string (utf8 slot.1))).getD (.object []))

theorem normalizeActiveSlots_eq (activeSlots : ScriptValue) :
    normalizeActiveSlots activeSlots = defaultSlots.map (normalizedSlot activeSlots) := by
  unfold normalizeActiveSlots defaultBuildSlotLayout
  rw [List.map_map]
  rfl

theorem slotId_normalizedSlot (activeSlots : ScriptValue) (slot : String × String) :
    (normalizedSlot activeSlots slot).member "slotId" = .string (utf8 slot.1) := by
  unfold normalizedSlot
  rw [member_assign]
  split_ifs with hkey
  · cases hfound : slotById activeSlots.items (.string (utf8 slot.1)) with
    | none =>
      rw [hfound] at hkey
      exact absurd hkey List.not_mem_nil
    | some found => exact (slotById_eq_some hfound).2.2
  · rfl

theorem normalizeActiveSlots_twice (activeSlots : ScriptValue) :
    normalizeActiveSlots (.array (normalizeActiveSlots activeSlots)) =
      normalizeActiveSlots activeSlots := by
  have hids : ∀ slot ∈ defaultSlots, ∀ other ∈ defaultSlots,
      utf8 other.1 = utf8 slot.1 → other = slot := by decide
  rw [normalizeActiveSlots_eq (.array _), normalizeActiveSlots_eq]
  refine List.map_congr_left fun slot hslot => ?_
  have hfound : slotById (defaultSlots.map (normalizedSlot activeSlots)) (.string (utf8 slot.1)) =
      some (normalizedSlot activeSlots slot) := by
    refine slotById_of_unique (List.mem_map_of_mem hslot) rfl
      (slotId_normalizedSlot activeSlots slot) ?_
    intro other hother hid
    obtain ⟨entry, hentry, rfl⟩ := List.mem_map.mp hother
    rw [slotId_normalizedSlot] at hid
    rw [hids slot hslot entry hentry (ScriptValue.string.inj hid)]
  have hread : normalizedSlot (.array (defaultSlots.map (normalizedSlot activeSlots))) slot =
      assign (defaultSlot slot.1 slot.2) ((slotById (defaultSlots.map
        (normalizedSlot activeSlots)) (.string (utf8 slot.1))).getD (.object [])) := rfl
  rw [hread, hfound]
  exact assign_assign _ _

end BuildBridge

end CodexOfPower
