/-
# `CodexOfPower.InteropBridge` — the build panel's data, normalised twice

A payload of the build panel passes two bridges, and each of them normalises it: members of
the wrong type are replaced by a default, numbers are converted, a grouped catalog that is
missing is derived from the list of options, and the slots are merged into the layout.  The
two scripts have the same text, so there is one definition here.

Every member is made by a rule from the member of that name, and a few from others as well:
a number of points from the score of an older payload, the rows of the selected theme from
the catalog.  Each rule leaves alone what it has made (`settled_optionRules`,
`settled_pageRules`), so whatever the payload is, the second bridge changes nothing
(`normalizeBuildPayload_twice`).

`CodexOfPower.BuildPayload` has the part of this that the panel reads, with the types that
the panel relies on: reading it from the normalised payload or from the payload itself is
the same (`read_normalizeBuildPayload`).

## What is not said

Numbers are exact, and `-0` is `0`.  The order of the members is not that of the script,
which puts the ones of the source first.  A payload is what `JSON.parse` may give, so that
an array has no members but its items; a member named `__proto__`, which `Object.assign`
takes for the prototype, is like any other here.  A conversion gives what the library says
and never throws, as it would for an object whose `toString` is no function.
-/
import CodexOfPower.Lib.ObjectRules
import CodexOfPower.BuildPayload

namespace CodexOfPower

open Builds (Text)

namespace InteropBridge

open BuildBridge (textOr isObject arrayOf? textOf countOf normalizeActiveSlots
  defaultBuildThemeMap countOf_number textOf_string)

section Normalize

variable (library : ScriptLibrary)

/-- `normalizeNumber(value, 0)` -/
def normalizeNumber (value : ScriptValue) : ScriptValue :=
  .number ((value.toNumber library).getD 0)

/-! ### The kinds of rules -/

/-- `key: typeof source.key === "string" ? source.key : fallback` -/
def textRule (key fallback : String) : MemberRule where
  key
  value own _ := .string (textOr own (utf8 fallback))

/-- `key: !!source.key` -/
def flagRule (key : String) : MemberRule where
  key
  value own _ := .boolean own.truthy

/-- `key: Number(source.key || 0) >>> 0` -/
def countRule (key : String) : MemberRule where
  key
  value own _ := .number (countOf library own).toNat

/-- `key: normalizeNumber(source.key != null ? source.key : source.other, 0)` -/
def numberRule (key other : String) : MemberRule where
  key
  value own source := normalizeNumber library (own.coalesce (source.member other))

/-- `key: source.key && typeof source.key === "object" ? Object.assign({}, source.key) :
source.key` -/
def copyRule (key : String) : MemberRule where
  key
  value own _ := own.copy

/-! ### The rows -/

/-- `normalized.effectType`, where the part has one. -/
def effectTypeMember (part : ScriptValue) : List (Text × ScriptValue) :=
  match part.member "effectType" with
  | .string text => if text = [] then [] else [(utf8 "effectType", .string text)]
  | _ => []

/-- Of the part `""` the `effectKey` is not a text; it is filtered out like an empty one. -/
def normalizeEffectPart (part : ScriptValue) : ScriptValue :=
  .object ([
    (utf8 "effectKey", .string (textOr (part.member "effectKey") [])),
    (utf8 "magnitude", if part.truthy then (part.member "magnitude").copy else .number 0)] ++
    effectTypeMember part)

def normalizeEffectParts (parts : ScriptValue) : List ScriptValue :=
  (parts.items.map normalizeEffectPart).filter fun part => (part.member "effectKey").truthy

def effectPartsRule (key : String) : MemberRule where
  key
  value own _ := .array (normalizeEffectParts own)

def compatibleSlotsRule : MemberRule where
  key := "compatibleSlots"
  value own _ := .array (((own.items.map (textOf library)).filter fun slotId =>
    slotId ≠ []).map .string)

def activeSlotIdRule : MemberRule where
  key := "activeSlotId"
  value own _ := match own with
    | .string slotId => .string slotId
    | .null | .undefined => .null
    | _ => .string []

def optionRules : List MemberRule :=
  [
    textRule "id" "",
    textRule "discipline" "",
    textRule "themeId" "",
    textRule "themeTitleKey" "",
    textRule "hierarchy" "standard",
    textRule "layer" "",
    numberRule library "unlockPoints" "unlockScore",
    numberRule library "unlockScore" "unlockPoints",
    flagRule "unlocked",
    textRule "state" "",
    textRule "slotCompatibility" "",
    compatibleSlotsRule library,
    activeSlotIdRule,
    textRule "effectType" "",
    textRule "effectKey" "",
    copyRule "magnitude",
    copyRule "baseMagnitude",
    copyRule "magnitudePerTier",
    copyRule "currentMagnitude",
    copyRule "nextMagnitude",
    effectPartsRule "effectParts",
    effectPartsRule "nextEffectParts",
    countRule library "currentTier",
    numberRule library "nextTierPoints" "nextTierScore",
    numberRule library "pointsToNextTier" "scoreToNextTier",
    numberRule library "nextTierScore" "nextTierPoints",
    numberRule library "scoreToNextTier" "pointsToNextTier",
    textRule "exclusivityGroup" "",
    textRule "titleKey" "",
    textRule "descriptionKey" ""
  ]

def normalizeBuildOption (option : ScriptValue) : ScriptValue :=
  if isObject option then ObjectRules.assign (optionRules library) option else .null

/-- `Array.isArray(rows) ? rows.map(normalizeBuildOption).filter(Boolean) : []` -/
def normalizeBuildRows (rows : ScriptValue) : List ScriptValue :=
  (rows.items.map (normalizeBuildOption library)).filter ScriptValue.truthy

/-! ### The themes -/

def rowsRule (key : String) : MemberRule where
  key
  value own _ := .array (normalizeBuildRows library own)

def themeRules : List MemberRule :=
  [textRule "id" "", textRule "titleKey" "", countRule library "optionCount",
   rowsRule library "rows"]

def normalizeBuildTheme (theme : ScriptValue) : ScriptValue :=
  ObjectRules.make (themeRules library) theme.asObject

/-- An object with a member for each discipline. -/
def byDiscipline (value : String → ScriptValue) : ScriptValue :=
  .object [
    (utf8 "attack", value "attack"),
    (utf8 "defense", value "defense"),
    (utf8 "utility", value "utility")]

def catalogEntry (discipline : String) (themes : List ScriptValue) : ScriptValue :=
  .object [
    (utf8 "discipline", .string (utf8 discipline)),
    (utf8 "themes", .array themes)]

/-- The themes of a discipline, with the options that name them. -/
def deriveThemes (themeMap : ScriptValue) (options : List ScriptValue) (discipline : String) :
    List ScriptValue :=
  (themeMap.member discipline).items.map fun theme =>
    let themeId := textOf library (theme.member "id")
    let rows := options.filter fun option =>
      library.toLowerCase (textOf library (option.member "discipline")) = utf8 discipline &&
        library.toLowerCase (textOf library (option.member "themeId")) =
          library.toLowerCase themeId
    .object [
      (utf8 "id", .string themeId),
      (utf8 "titleKey", .string (textOf library (theme.member "titleKey"))),
      (utf8 "optionCount", .number (countOf library
        ((theme.member "optionCount").orElse (.number rows.length))).toNat),
      (utf8 "rows", .array rows)]

def deriveGroupedCatalog (themeMap : ScriptValue) (options : List ScriptValue) : ScriptValue :=
  byDiscipline fun discipline =>
    catalogEntry discipline (deriveThemes library themeMap options discipline)

def normalizeBuildGroupedCatalog (groupedCatalog themeMap : ScriptValue)
    (options : List ScriptValue) : ScriptValue :=
  if !isObject groupedCatalog then deriveGroupedCatalog library themeMap options
  else byDiscipline fun discipline => catalogEntry discipline
    (match arrayOf? ((groupedCatalog.member discipline).member "themes") with
    | some themes => themes.map (normalizeBuildTheme library)
    | none => deriveThemes library themeMap options discipline)

def defaultThemes : String → List ScriptValue
  | "attack" => defaultBuildThemeMap.attack
  | "defense" => defaultBuildThemeMap.defense
  | _ => defaultBuildThemeMap.utility

/-- `normalizedThemeMap` -/
def normalizeThemeMap (themeMap : ScriptValue) : ScriptValue :=
  byDiscipline fun discipline =>
    .array ((arrayOf? (themeMap.member discipline)).getD (defaultThemes discipline))

/-! ### The payload -/

def recordCountRule : MemberRule where
  key := "recordCount"
  value own source := .number (countOf library (own.coalesce (source.member "score"))).toNat

/-- One entry of `disciplines`. -/
def disciplineRules : List MemberRule :=
  [
    countRule library "score",
    recordCountRule library,
    numberRule library "buildPoints" "score",
    countRule library "currentTier",
    numberRule library "nextTierPoints" "nextTierScore",
    numberRule library "pointsToNextTier" "scoreToNextTier",
    numberRule library "nextTierScore" "nextTierPoints",
    numberRule library "scoreToNextTier" "pointsToNextTier"
  ]

def noticeRules : List MemberRule :=
  [flagRule "needsNotice", flagRule "legacyRewardsMigrated",
   countRule library "unresolvedHistoricalRegistrations"]

/-- `normalizedGroupedCatalog`, where `own` is the catalog of the source. -/
def groupedCatalogOf (own source : ScriptValue) : ScriptValue :=
  normalizeBuildGroupedCatalog library own (normalizeThemeMap (source.member "themeMap"))
    (normalizeBuildRows library (source.member "options"))

/-- `value[key]` -/
def memberAt (value : ScriptValue) (key : Text) : ScriptValue :=
  match value with
  | .object members => (members.lookup key).getD .undefined
  | _ => .undefined

/-- `derivedSelectedRows`: the rows of the theme that is selected. -/
def derivedSelectedRows (source : ScriptValue) : List ScriptValue :=
  let catalog := groupedCatalogOf library (source.member "groupedCatalog") source
  let selectedDiscipline := textOr (source.member "selectedDiscipline") []
  let selectedTheme := textOr (source.member "selectedTheme") []
  let themes := ((memberAt catalog (library.toLowerCase selectedDiscipline)).member
    "themes").items
  let selected := themes.find? fun theme =>
    library.toLowerCase (textOf library (theme.member "id")) = library.toLowerCase selectedTheme
  ((selected.getD .undefined).member "rows").items

def disciplinesRule : MemberRule where
  key := "disciplines"
  value own _ := byDiscipline fun discipline =>
    ObjectRules.make (disciplineRules library) (own.member discipline)

def themeMapRule : MemberRule where
  key := "themeMap"
  value own _ := normalizeThemeMap own

def groupedCatalogRule : MemberRule where
  key := "groupedCatalog"
  value := groupedCatalogOf library

def selectedThemeRowsRule : MemberRule where
  key := "selectedThemeRows"
  value own source := .array (match own with
    | .array rows => normalizeBuildRows library (.array rows)
    | _ => derivedSelectedRows library source)

def selectedOptionDetailRule : MemberRule where
  key := "selectedOptionDetail"
  value own _ := normalizeBuildOption library own

def activeSlotsRule : MemberRule where
  key := "activeSlots"
  value own _ := .array (normalizeActiveSlots own)

/-- Without a notice the rules give the defaults. -/
def migrationNoticeRule : MemberRule where
  key := "migrationNotice"
  value own _ := ObjectRules.make (noticeRules library) own.asObject

def pageRules : List MemberRule :=
  [
    disciplinesRule library,
    themeMapRule,
    groupedCatalogRule library,
    textRule "selectedDiscipline" "",
    textRule "selectedTheme" "",
    textRule "selectedOptionId" "",
    selectedThemeRowsRule library,
    selectedOptionDetailRule library,
    rowsRule library "options",
    activeSlotsRule,
    migrationNoticeRule library
  ]

def normalizeBuildPayload (payload : ScriptValue) : ScriptValue :=
  ObjectRules.make (pageRules library) payload.asObject

end Normalize

/-! ## The rules are settled -/

section Settled

variable {library : ScriptLibrary} {value own source : ScriptValue}

theorem settled_textRule (key fallback : String) : (textRule key fallback).Settled :=
  fun _ _ _ => rfl

theorem settled_flagRule (key : String) : (flagRule key).Settled := fun _ _ _ => rfl

theorem settled_countRule (key : String) : (countRule library key).Settled := by
  intro own source source'
  show ScriptValue.number (countOf library (.number (countOf library own).toNat)).toNat = _
  rw [countOf_number]
  rfl

/-- A number that was made is not `null`, so the other member is not asked again. -/
theorem settled_numberRule (key other : String) : (numberRule library key other).Settled :=
  fun _ _ _ => rfl

theorem settled_copyRule (key : String) : (copyRule key).Settled := fun own _ _ => own.copy_copy

theorem map_textOf_string (slotIds : List Text) :
    (slotIds.map ScriptValue.string).map (textOf library) = slotIds := by
  rw [List.map_map]
  exact (List.map_congr_left fun text _ => textOf_string text).trans (List.map_id slotIds)

/-- The slots that were kept are texts, and none of them is empty. -/
theorem filter_textOf_string (slotIds : List Text) :
    (((slotIds.filter fun slotId => slotId ≠ []).map ScriptValue.string).map
      (textOf library)).filter (fun slotId => slotId ≠ []) =
        slotIds.filter fun slotId => slotId ≠ [] := by
  rw [map_textOf_string, List.filter_filter]
  simp only [Bool.and_self]

theorem settled_compatibleSlotsRule : (compatibleSlotsRule library).Settled :=
  fun own _ _ => congrArg (fun slotIds : List Text => ScriptValue.array
    (slotIds.map ScriptValue.string)) (filter_textOf_string (own.items.map (textOf library)))

theorem settled_activeSlotIdRule : activeSlotIdRule.Settled := by
  intro own source source'
  cases own <;> rfl

theorem effectTypeMember_twice (effectKey magnitude part : ScriptValue) :
    effectTypeMember (.object ([(utf8 "effectKey", effectKey), (utf8 "magnitude", magnitude)] ++
      effectTypeMember part)) = effectTypeMember part := by
  have hmember : ScriptValue.member (.object ([(utf8 "effectKey", effectKey),
      (utf8 "magnitude", magnitude)] ++ effectTypeMember part)) "effectType" =
      ((effectTypeMember part).lookup (utf8 "effectType")).getD .undefined := rfl
  rw [effectTypeMember, hmember, effectTypeMember]
  cases part.member "effectType" with
  | string text =>
    by_cases htext : text = []
    · simp only [htext, if_true]
      rfl
    · simp only [htext, if_false, List.lookup_cons_self, Option.getD_some]
  | _ => rfl

/-- A part that was made has a text for its key, and a copy for its magnitude. -/
theorem normalizeEffectPart_twice (part : ScriptValue) :
    normalizeEffectPart (normalizeEffectPart part) = normalizeEffectPart part := by
  have hmagnitude : (if part.truthy then (part.member "magnitude").copy
      else ScriptValue.number 0).copy =
      if part.truthy then (part.member "magnitude").copy else .number 0 := by
    split_ifs
    · exact ScriptValue.copy_copy _
    · rfl
  show ScriptValue.object ([(utf8 "effectKey", ScriptValue.string (textOr (part.member
    "effectKey") [])), (utf8 "magnitude", ScriptValue.copy _)] ++ effectTypeMember _) = _
  rw [normalizeEffectPart, effectTypeMember_twice]
  exact congrArg (fun magnitude => ScriptValue.object ([(utf8 "effectKey",
    ScriptValue.string (textOr (part.member "effectKey") [])), (utf8 "magnitude", magnitude)] ++
    effectTypeMember part)) hmagnitude

theorem settled_effectPartsRule (key : String) : (effectPartsRule key).Settled := by
  intro own source source'
  show ScriptValue.array ((((own.items.map normalizeEffectPart).filter _).map
    normalizeEffectPart).filter _) = ScriptValue.array _
  have hmap : ((own.items.map normalizeEffectPart).filter fun part =>
      (part.member "effectKey").truthy).map normalizeEffectPart =
      (own.items.map normalizeEffectPart).filter fun part =>
        (part.member "effectKey").truthy := by
    refine (List.map_congr_left fun part hmem => ?_).trans (List.map_id _)
    obtain ⟨given, -, rfl⟩ := List.mem_map.mp (List.mem_of_mem_filter hmem)
    exact normalizeEffectPart_twice given
  rw [hmap, List.filter_filter]
  simp only [Bool.and_self]
  rfl

/-! ### Rows and themes -/

theorem settled_optionRules (library : ScriptLibrary) :
    ObjectRules.Settled (optionRules library) where
  distinct := by
    simp only [optionRules, List.map_cons, List.map_nil, textRule, numberRule, flagRule, countRule,
      copyRule, effectPartsRule, compatibleSlotsRule, activeSlotIdRule]
    decide
  each := by
    simp only [optionRules, List.forall_mem_cons, settled_textRule, settled_flagRule,
      settled_countRule, settled_numberRule, settled_copyRule, settled_compatibleSlotsRule,
      settled_activeSlotIdRule, settled_effectPartsRule, true_and, List.not_mem_nil,
      false_implies, implies_true]

/-- A row, as the bridge makes it. -/
def IsRow (library : ScriptLibrary) (row : ScriptValue) : Prop :=
  row.truthy = true ∧ normalizeBuildOption library row = row

theorem normalizeBuildOption_twice (option : ScriptValue) :
    normalizeBuildOption library (normalizeBuildOption library option) =
      normalizeBuildOption library option := by
  by_cases hoption : isObject option = true
  · have hmade : normalizeBuildOption library option =
        ObjectRules.assign (optionRules library) option := if_pos hoption
    rw [hmade]
    exact ObjectRules.assign_assign (settled_optionRules library) option
  · have hmade : normalizeBuildOption library option = .null := if_neg hoption
    rw [hmade]
    rfl

theorem isRow_of_mem {rows : ScriptValue} (h : value ∈ normalizeBuildRows library rows) :
    IsRow library value := by
  obtain ⟨hmem, htruthy⟩ := List.mem_filter.mp h
  obtain ⟨given, -, rfl⟩ := List.mem_map.mp hmem
  exact ⟨htruthy, normalizeBuildOption_twice given⟩

/-- Rows that were made once are left alone. -/
theorem normalizeBuildRows_of_isRow {rows : List ScriptValue}
    (h : ∀ row ∈ rows, IsRow library row) : normalizeBuildRows library (.array rows) = rows := by
  have hmap : rows.map (normalizeBuildOption library) = rows :=
    (List.map_congr_left fun row hrow => (h row hrow).2).trans (List.map_id rows)
  show (rows.map (normalizeBuildOption library)).filter ScriptValue.truthy = rows
  rw [hmap]
  exact List.filter_eq_self.mpr fun row hrow => (h row hrow).1

theorem settled_rowsRule (key : String) : (rowsRule library key).Settled :=
  fun _ _ _ => congrArg ScriptValue.array (normalizeBuildRows_of_isRow fun _ => isRow_of_mem)

theorem settled_themeRules (library : ScriptLibrary) :
    ObjectRules.Settled (themeRules library) where
  distinct := by
    simp only [themeRules, List.map_cons, List.map_nil, textRule, countRule, rowsRule]
    decide
  each := by
    simp only [themeRules, List.forall_mem_cons, settled_textRule, settled_countRule,
      settled_rowsRule, true_and, List.not_mem_nil, false_implies, implies_true]

/-- A theme, as the bridge makes it. -/
def IsTheme (library : ScriptLibrary) (theme : ScriptValue) : Prop :=
  normalizeBuildTheme library theme = theme

theorem isTheme_normalizeBuildTheme (theme : ScriptValue) :
    IsTheme library (normalizeBuildTheme library theme) :=
  ObjectRules.make_make (settled_themeRules library) theme.asObject

/-- The rows of a derived theme are options, so it is one that the bridge could have made. -/
theorem isTheme_of_mem_deriveThemes {themeMap : ScriptValue} {options : List ScriptValue}
    {discipline : String} (hoptions : ∀ option ∈ options, IsRow library option)
    (h : value ∈ deriveThemes library themeMap options discipline) : IsTheme library value := by
  obtain ⟨theme, -, rfl⟩ := List.mem_map.mp h
  have hrows : ∀ rows : List ScriptValue, (∀ row ∈ rows, row ∈ options) →
      normalizeBuildRows library (.array rows) = rows := fun rows hmem =>
    normalizeBuildRows_of_isRow fun row hrow => hoptions row (hmem row hrow)
  show ScriptValue.object [(utf8 "id", .string (textOf library (theme.member "id"))),
    (utf8 "titleKey", .string (textOf library (theme.member "titleKey"))),
    (utf8 "optionCount", .number (countOf library (.number (countOf library _).toNat)).toNat),
    (utf8 "rows", .array (normalizeBuildRows library (.array _)))] = _
  rw [countOf_number, hrows _ fun row hrow => List.mem_of_mem_filter hrow]

/-! ### The catalog and the page -/

theorem byDiscipline_congr {f g : String → ScriptValue} (hattack : f "attack" = g "attack")
    (hdefense : f "defense" = g "defense") (hutility : f "utility" = g "utility") :
    byDiscipline f = byDiscipline g := by
  unfold byDiscipline
  rw [hattack, hdefense, hutility]

theorem memberAt_byDiscipline (value : String → ScriptValue) (key : Text) :
    memberAt (byDiscipline value) key =
      if key = utf8 "attack" then value "attack"
      else if key = utf8 "defense" then value "defense"
      else if key = utf8 "utility" then value "utility"
      else .undefined := by
  unfold memberAt byDiscipline
  simp only [List.lookup_cons, List.lookup_nil]
  split_ifs with hattack hdefense hutility
  · rw [hattack, beq_self_eq_true]
    rfl
  · rw [beq_false_of_ne hattack, hdefense, beq_self_eq_true]
    rfl
  · rw [beq_false_of_ne hattack, beq_false_of_ne hdefense, hutility, beq_self_eq_true]
    rfl
  · rw [beq_false_of_ne hattack, beq_false_of_ne hdefense, beq_false_of_ne hutility]
    rfl

/-- A grouped catalog, as the bridge makes it. -/
def IsCatalog (library : ScriptLibrary) (catalog : ScriptValue) : Prop :=
  ∃ themes : String → List ScriptValue,
    (∀ discipline, ∀ theme ∈ themes discipline, IsTheme library theme) ∧
      catalog = byDiscipline fun discipline => catalogEntry discipline (themes discipline)

theorem isCatalog_normalizeBuildGroupedCatalog (groupedCatalog themeMap : ScriptValue)
    {options : List ScriptValue} (hoptions : ∀ option ∈ options, IsRow library option) :
    IsCatalog library
      (normalizeBuildGroupedCatalog library groupedCatalog themeMap options) := by
  have hderived : ∀ discipline, ∀ theme ∈ deriveThemes library themeMap options discipline,
      IsTheme library theme := fun _ _ => isTheme_of_mem_deriveThemes hoptions
  unfold normalizeBuildGroupedCatalog
  split_ifs
  · exact ⟨_, hderived, rfl⟩
  · refine ⟨_, fun discipline theme hmem => ?_, rfl⟩
    split at hmem
    · obtain ⟨given, -, rfl⟩ := List.mem_map.mp hmem
      exact isTheme_normalizeBuildTheme given
    · exact hderived discipline theme hmem

/-- A catalog that was made once is left alone, whatever else is in the payload. -/
theorem normalizeBuildGroupedCatalog_of_isCatalog {catalog : ScriptValue}
    (h : IsCatalog library catalog) (themeMap : ScriptValue) (options : List ScriptValue) :
    normalizeBuildGroupedCatalog library catalog themeMap options = catalog := by
  obtain ⟨themes, hthemes, rfl⟩ := h
  have hmap : ∀ discipline, (themes discipline).map (normalizeBuildTheme library) =
      themes discipline := fun discipline =>
    (List.map_congr_left (hthemes discipline)).trans (List.map_id _)
  have hobject : ¬ (!isObject (byDiscipline fun discipline =>
      catalogEntry discipline (themes discipline))) = true := Bool.false_ne_true
  rw [normalizeBuildGroupedCatalog, if_neg hobject]
  refine byDiscipline_congr ?_ ?_ ?_
  · exact congrArg (catalogEntry "attack") (hmap "attack")
  · exact congrArg (catalogEntry "defense") (hmap "defense")
  · exact congrArg (catalogEntry "utility") (hmap "utility")

theorem isCatalog_groupedCatalogOf (own source : ScriptValue) :
    IsCatalog library (groupedCatalogOf library own source) :=
  isCatalog_normalizeBuildGroupedCatalog _ _ fun _ => isRow_of_mem

theorem settled_groupedCatalogRule : (groupedCatalogRule library).Settled :=
  fun own source _ =>
    normalizeBuildGroupedCatalog_of_isCatalog (isCatalog_groupedCatalogOf own source) _ _

theorem rows_isTheme {theme : ScriptValue} (h : IsTheme library theme) :
    ∀ row ∈ (theme.member "rows").items, IsRow library row := by
  have hrows : (normalizeBuildTheme library theme).member "rows" =
      .array (normalizeBuildRows library (theme.asObject.member "rows")) := rfl
  rw [← h, hrows]
  exact fun _ => isRow_of_mem

/-- Whichever text selects the discipline, its themes are themes of the catalog. -/
theorem isTheme_of_mem_entry {catalog theme : ScriptValue} (h : IsCatalog library catalog)
    (key : Text) (hmem : theme ∈ ((memberAt catalog key).member "themes").items) :
    IsTheme library theme := by
  obtain ⟨themes, hthemes, rfl⟩ := h
  rw [memberAt_byDiscipline] at hmem
  split_ifs at hmem
  · exact hthemes "attack" theme hmem
  · exact hthemes "defense" theme hmem
  · exact hthemes "utility" theme hmem
  · cases hmem

/-- What is derived for the selected theme are rows of the catalog. -/
theorem isRow_of_mem_derivedSelectedRows {row : ScriptValue}
    (h : row ∈ derivedSelectedRows library source) : IsRow library row := by
  unfold derivedSelectedRows at h
  dsimp only at h
  cases hselected : List.find? (fun theme => decide (library.toLowerCase (textOf library
      (theme.member "id")) = library.toLowerCase (textOr (source.member "selectedTheme") [])))
      ((memberAt (groupedCatalogOf library (source.member "groupedCatalog") source)
        (library.toLowerCase (textOr (source.member "selectedDiscipline") []))).member
          "themes").items with
  | none =>
    rw [hselected] at h
    cases h
  | some theme =>
    rw [hselected] at h
    exact rows_isTheme (isTheme_of_mem_entry (isCatalog_groupedCatalogOf _ source) _
      (List.mem_of_find?_eq_some hselected)) row h

theorem settled_selectedThemeRowsRule : (selectedThemeRowsRule library).Settled := by
  intro own source source'
  refine congrArg ScriptValue.array (normalizeBuildRows_of_isRow ?_)
  intro row hrow
  split at hrow
  · exact isRow_of_mem hrow
  · exact isRow_of_mem_derivedSelectedRows hrow

theorem settled_disciplineRules (library : ScriptLibrary) :
    ObjectRules.Settled (disciplineRules library) where
  distinct := by
    simp only [disciplineRules, List.map_cons, List.map_nil, numberRule, countRule,
      recordCountRule]
    decide
  each := by
    have hrecordCount : (recordCountRule library).Settled :=
      fun own source _ => settled_countRule "score" (own.coalesce (source.member "score")) source
        source
    simp only [disciplineRules, List.forall_mem_cons, settled_countRule, settled_numberRule,
      hrecordCount, true_and, List.not_mem_nil, false_implies, implies_true]

theorem settled_noticeRules (library : ScriptLibrary) :
    ObjectRules.Settled (noticeRules library) where
  distinct := by
    simp only [noticeRules, List.map_cons, List.map_nil, flagRule, countRule]
    decide
  each := by
    simp only [noticeRules, List.forall_mem_cons, settled_countRule, settled_flagRule, true_and,
      List.not_mem_nil, false_implies, implies_true]

theorem settled_disciplinesRule : (disciplinesRule library).Settled := by
  intro own source source'
  simp only [disciplinesRule]
  refine byDiscipline_congr ?_ ?_ ?_
  · exact ObjectRules.make_make (settled_disciplineRules library) (own.member "attack")
  · exact ObjectRules.make_make (settled_disciplineRules library) (own.member "defense")
  · exact ObjectRules.make_make (settled_disciplineRules library) (own.member "utility")

theorem settled_themeMapRule : themeMapRule.Settled := fun _ _ _ => rfl

theorem settled_selectedOptionDetailRule : (selectedOptionDetailRule library).Settled :=
  fun own _ _ => normalizeBuildOption_twice own

theorem settled_activeSlotsRule : activeSlotsRule.Settled :=
  fun own _ _ => congrArg ScriptValue.array (BuildBridge.normalizeActiveSlots_twice own)

theorem settled_migrationNoticeRule : (migrationNoticeRule library).Settled :=
  fun own _ _ => ObjectRules.make_make (settled_noticeRules library) own.asObject

theorem settled_pageRules (library : ScriptLibrary) :
    ObjectRules.Settled (pageRules library) where
  distinct := by
    simp only [pageRules, List.map_cons, List.map_nil, disciplinesRule, themeMapRule,
      groupedCatalogRule, textRule, selectedThemeRowsRule, selectedOptionDetailRule, rowsRule,
      activeSlotsRule, migrationNoticeRule]
    decide
  each := by
    simp only [pageRules, List.forall_mem_cons, settled_disciplinesRule, settled_themeMapRule,
      settled_groupedCatalogRule, settled_textRule, settled_selectedThemeRowsRule,
      settled_selectedOptionDetailRule, settled_rowsRule, settled_activeSlotsRule,
      settled_migrationNoticeRule, true_and, List.not_mem_nil, false_implies, implies_true]

end Settled

/-- Whatever the payload is, what the first bridge makes of it the second one leaves as it
is, member by member. -/
theorem normalizeBuildPayload_twice (library : ScriptLibrary) (payload : ScriptValue) :
    normalizeBuildPayload library (normalizeBuildPayload library payload) =
      normalizeBuildPayload library payload :=
  ObjectRules.make_make (settled_pageRules library) payload.asObject

/-! ## The part that the panel reads -/

section Read

variable {library : ScriptLibrary}

/-- What the panel reads of a row it could read before the row was normalised. -/
theorem read_normalizeBuildOption (option : ScriptValue) :
    BuildBridge.readBuildOption library (normalizeBuildOption library option) =
      BuildBridge.readBuildOption library option := by
  by_cases hoption : isObject option = true
  · have hmade : normalizeBuildOption library option =
        ObjectRules.assign (optionRules library) option := if_pos hoption
    have hactive : ∀ own : ScriptValue,
        (match activeSlotIdRule.value own option with
          | .string slotId => some slotId
          | .null | .undefined => none
          | _ => some []) =
        match own with
          | .string slotId => some slotId
          | .null | .undefined => none
          | _ => some [] := by
      intro own
      cases own <;> rfl
    have hobject : ¬ (!isObject option) = true := by
      rw [hoption]
      exact Bool.false_ne_true
    have hread : BuildBridge.readBuildOption library
        (ObjectRules.assign (optionRules library) option) = some {
          id := textOr (option.member "id") []
          discipline := textOr (option.member "discipline") []
          themeId := textOr (option.member "themeId") []
          hierarchy := textOr (option.member "hierarchy") (utf8 "standard")
          unlocked := (option.member "unlocked").truthy
          state := textOr (option.member "state") []
          slotCompatibility := textOr (option.member "slotCompatibility") []
          compatibleSlots := (((((option.member "compatibleSlots").items.map
            (textOf library)).filter fun slotId => slotId ≠ []).map ScriptValue.string).map
              (textOf library)).filter fun slotId => slotId ≠ []
          activeSlotId := match activeSlotIdRule.value (option.member "activeSlotId") option with
            | .string slotId => some slotId
            | .null | .undefined => none
            | _ => some []
          currentTier := countOf library
            (.number (countOf library (option.member "currentTier")).toNat) } := rfl
    rw [hmade, hread, filter_textOf_string, hactive, countOf_number]
    exact (if_neg hobject).symm
  · have hmade : normalizeBuildOption library option = .null := if_neg hoption
    have hobject : (!isObject option) = true := by
      rw [Bool.not_eq_true] at hoption
      rw [hoption]
      rfl
    rw [hmade, BuildBridge.readBuildOption, BuildBridge.readBuildOption,
      if_pos hobject]
    rfl

/-- A value that is no object makes no row, before and after. -/
theorem filterMap_normalizeBuildRows (rows : ScriptValue) :
    (normalizeBuildRows library rows).filterMap (BuildBridge.readBuildOption library) =
      rows.items.filterMap (BuildBridge.readBuildOption library) := by
  unfold normalizeBuildRows
  induction rows.items with
  | nil => rfl
  | cons row rest ih =>
    rw [List.map_cons, List.filter_cons, List.filterMap_cons, ← read_normalizeBuildOption row]
    by_cases hrow : isObject row = true
    · have htruthy : (normalizeBuildOption library row).truthy = true := by
        rw [normalizeBuildOption, if_pos hrow]
        rfl
      rw [if_pos htruthy, List.filterMap_cons, ih]
    · have hnull : normalizeBuildOption library row = .null := if_neg hrow
      rw [hnull]
      exact ih

theorem read_normalizeBuildTheme (theme : ScriptValue) :
    BuildBridge.readBuildTheme library (normalizeBuildTheme library theme) =
      BuildBridge.readBuildTheme library theme := by
  have hread : BuildBridge.readBuildTheme library (normalizeBuildTheme library theme) = {
      id := textOr (theme.asObject.member "id") []
      titleKey := textOr (theme.asObject.member "titleKey") []
      optionCount := countOf library
        (.number (countOf library (theme.asObject.member "optionCount")).toNat)
      rows := (normalizeBuildRows library (theme.asObject.member "rows")).filterMap
        (BuildBridge.readBuildOption library) } := rfl
  rw [hread, countOf_number, filterMap_normalizeBuildRows]
  rfl

theorem isObject_of_isRow {row : ScriptValue} (h : IsRow library row) : isObject row = true := by
  by_contra hrow
  have hnull : normalizeBuildOption library row = .null := if_neg hrow
  have heq : row = .null := h.2.symm.trans hnull
  have htruthy := h.1
  rw [heq] at htruthy
  cases htruthy

/-- The panel reads every row, and its discipline and its theme are the texts that the
catalog is derived by. -/
theorem read_isRow {value : ScriptValue} (h : IsRow library value) :
    ∃ row, BuildBridge.readBuildOption library value = some row ∧
      textOf library (value.member "discipline") = row.discipline ∧
      textOf library (value.member "themeId") = row.themeId := by
  have hmade : normalizeBuildOption library value =
      ObjectRules.assign (optionRules library) value := if_pos (isObject_of_isRow h)
  have hvalue : ObjectRules.assign (optionRules library) value = value := hmade.symm.trans h.2
  have htext : ∀ key : String, value.member key = .string (textOr (value.member key) []) →
      textOf library (value.member key) = textOr (value.member key) [] := by
    intro key hkey
    conv_lhs => rw [hkey]
    exact textOf_string _
  have hobject : ¬ (!isObject value) = true := by
    rw [isObject_of_isRow h]
    exact Bool.false_ne_true
  refine ⟨_, if_neg hobject, htext "discipline" ?_, htext "themeId" ?_⟩
  · conv_lhs => rw [← hvalue]
    rfl
  · conv_lhs => rw [← hvalue]
    rfl

/-- Filtering the rows by these texts is filtering what the panel reads. -/
theorem filterMap_filter_rows {rows : List ScriptValue} (hrows : ∀ row ∈ rows, IsRow library row)
    (wanted : Text → Text → Bool) :
    (rows.filter fun row => wanted (textOf library (row.member "discipline"))
        (textOf library (row.member "themeId"))).filterMap
          (BuildBridge.readBuildOption library) =
      (rows.filterMap (BuildBridge.readBuildOption library)).filter fun row =>
        wanted row.discipline row.themeId := by
  induction rows with
  | nil => rfl
  | cons value rest ih =>
    have hrest := ih fun row hrow => hrows row (List.mem_cons_of_mem _ hrow)
    obtain ⟨row, hrow, hdiscipline, htheme⟩ := read_isRow (hrows value List.mem_cons_self)
    rw [List.filter_cons, hdiscipline, htheme, List.filterMap_cons, hrow]
    dsimp only
    rw [List.filter_cons]
    split_ifs
    · rw [List.filterMap_cons, hrow, hrest]
    · exact hrest

theorem read_deriveThemes (themeMap : ScriptValue) {options : List ScriptValue}
    (hoptions : ∀ option ∈ options, IsRow library option) (discipline : String) :
    (deriveThemes library themeMap options discipline).map
        (BuildBridge.readBuildTheme library) =
      BuildBridge.deriveThemes library
        (options.filterMap (BuildBridge.readBuildOption library)) (utf8 discipline)
        (themeMap.member discipline).items := by
  unfold deriveThemes BuildBridge.deriveThemes
  rw [List.map_map]
  refine List.map_congr_left fun theme _ => ?_
  set wanted : Text → Text → Bool := fun optionDiscipline optionTheme =>
    library.toLowerCase optionDiscipline = utf8 discipline &&
      library.toLowerCase optionTheme =
        library.toLowerCase (textOf library (theme.member "id"))
  have hfilter := filterMap_filter_rows hoptions wanted
  have hlength : (options.filter fun row => wanted (textOf library (row.member "discipline"))
      (textOf library (row.member "themeId"))).length =
      ((options.filterMap (BuildBridge.readBuildOption library)).filter fun row =>
        wanted row.discipline row.themeId).length := by
    rw [← hfilter]
    refine (List.filterMap_length_eq_length.mpr fun row hrow => ?_).symm
    obtain ⟨read, hread, -⟩ := read_isRow (hoptions row (List.mem_of_mem_filter hrow))
    rw [hread]
    rfl
  show ({ id := textOf library (theme.member "id")
          titleKey := textOf library (theme.member "titleKey")
          optionCount := countOf library (.number (countOf library ((theme.member
            "optionCount").orElse (.number ((options.filter fun row =>
              wanted (textOf library (row.member "discipline"))
                (textOf library (row.member "themeId"))).length : Nat)))).toNat)
          rows := (options.filter fun row => wanted (textOf library (row.member "discipline"))
            (textOf library (row.member "themeId"))).filterMap
              (BuildBridge.readBuildOption library) } : BuildBridge.BuildTheme) = _
  rw [countOf_number, hfilter, hlength]

/-- The themes of a discipline, given or derived. -/
theorem read_themes (given : Option (List ScriptValue)) (themeMap : ScriptValue)
    {options : List ScriptValue} (hoptions : ∀ option ∈ options, IsRow library option)
    (discipline : String) :
    (match given with
      | some themes => themes.map (normalizeBuildTheme library)
      | none => deriveThemes library themeMap options discipline).map
        (BuildBridge.readBuildTheme library) =
      match given with
      | some themes => themes.map (BuildBridge.readBuildTheme library)
      | none => BuildBridge.deriveThemes library
        (options.filterMap (BuildBridge.readBuildOption library)) (utf8 discipline)
        (themeMap.member discipline).items := by
  cases given with
  | none => exact read_deriveThemes themeMap hoptions discipline
  | some themes =>
    rw [List.map_map]
    exact List.map_congr_left fun theme _ => read_normalizeBuildTheme theme

/-- The theme map that the panel reads of a payload. -/
def readThemeMap (source : ScriptValue) : BuildBridge.ByDiscipline (List ScriptValue) where
  attack := (arrayOf? ((source.member "themeMap").member "attack")).getD
    defaultBuildThemeMap.attack
  defense := (arrayOf? ((source.member "themeMap").member "defense")).getD
    defaultBuildThemeMap.defense
  utility := (arrayOf? ((source.member "themeMap").member "utility")).getD
    defaultBuildThemeMap.utility

/-- The options that the panel reads of a payload. -/
def readOptions (library : ScriptLibrary) (source : ScriptValue) : List BuildBridge.BuildRow :=
  (source.member "options").items.filterMap (BuildBridge.readBuildOption library)

/-- The catalog that the panel reads of a payload. -/
def readCatalog (library : ScriptLibrary) (source : ScriptValue) :
    BuildBridge.ByDiscipline (List BuildBridge.BuildTheme) :=
  BuildBridge.readBuildGroupedCatalog library (source.member "groupedCatalog")
    (readThemeMap source) (readOptions library source)

theorem read_byDiscipline (themes : String → List ScriptValue)
    (themeMap : BuildBridge.ByDiscipline (List ScriptValue))
    (options : List BuildBridge.BuildRow) :
    BuildBridge.readBuildGroupedCatalog library
        (byDiscipline fun discipline => catalogEntry discipline (themes discipline)) themeMap
        options =
      { attack := (themes "attack").map (BuildBridge.readBuildTheme library)
        defense := (themes "defense").map (BuildBridge.readBuildTheme library)
        utility := (themes "utility").map (BuildBridge.readBuildTheme library) } := rfl

theorem read_groupedCatalogOf (source : ScriptValue)
    (themeMap : BuildBridge.ByDiscipline (List ScriptValue))
    (options : List BuildBridge.BuildRow) :
    BuildBridge.readBuildGroupedCatalog library
        (groupedCatalogOf library (source.member "groupedCatalog") source) themeMap options =
      readCatalog library source := by
  have hrows : ∀ row ∈ normalizeBuildRows library (source.member "options"),
      IsRow library row := fun _ => isRow_of_mem
  have hoptions : (normalizeBuildRows library (source.member "options")).filterMap
      (BuildBridge.readBuildOption library) =
        (source.member "options").items.filterMap (BuildBridge.readBuildOption library) :=
    filterMap_normalizeBuildRows _
  by_cases hcatalog : (!isObject (source.member "groupedCatalog")) = true
  · have hmade : groupedCatalogOf library (source.member "groupedCatalog") source =
        byDiscipline fun discipline => catalogEntry discipline (deriveThemes library
          (normalizeThemeMap (source.member "themeMap"))
          (normalizeBuildRows library (source.member "options")) discipline) := if_pos hcatalog
    rw [hmade, read_byDiscipline, read_deriveThemes _ hrows, read_deriveThemes _ hrows,
      read_deriveThemes _ hrows, hoptions]
    exact (if_pos hcatalog).symm
  · have hmade : groupedCatalogOf library (source.member "groupedCatalog") source =
        byDiscipline fun discipline => catalogEntry discipline
          (match arrayOf? (((source.member "groupedCatalog").member discipline).member
            "themes") with
          | some themes => themes.map (normalizeBuildTheme library)
          | none => deriveThemes library (normalizeThemeMap (source.member "themeMap"))
            (normalizeBuildRows library (source.member "options")) discipline) :=
      if_neg hcatalog
    rw [hmade, read_byDiscipline, read_themes _ _ hrows, read_themes _ _ hrows,
      read_themes _ _ hrows, hoptions]
    exact (if_neg hcatalog).symm

/-- The themes of the selected discipline are read like those of the catalog. -/
theorem read_memberAt {catalog : ScriptValue} (h : IsCatalog library catalog)
    (themeMap : BuildBridge.ByDiscipline (List ScriptValue))
    (options : List BuildBridge.BuildRow) (key : Text) :
    (((memberAt catalog key).member "themes").items.map
        (BuildBridge.readBuildTheme library)) =
      ((BuildBridge.readBuildGroupedCatalog library catalog themeMap options).get?
        key).getD [] := by
  obtain ⟨themes, -, rfl⟩ := h
  rw [read_byDiscipline, memberAt_byDiscipline]
  unfold BuildBridge.ByDiscipline.get?
  split_ifs <;> rfl

theorem read_isTheme {theme : ScriptValue} (h : IsTheme library theme) :
    textOf library (theme.member "id") =
        (BuildBridge.readBuildTheme library theme).id ∧
      (theme.member "rows").items.filterMap (BuildBridge.readBuildOption library) =
        (BuildBridge.readBuildTheme library theme).rows := by
  rw [← h]
  exact ⟨textOf_string _, rfl⟩

theorem read_derivedSelectedRows (source : ScriptValue) :
    (derivedSelectedRows library source).filterMap
        (BuildBridge.readBuildOption library) =
      (((((readCatalog library source).get? (library.toLowerCase
        (textOr (source.member "selectedDiscipline") []))).getD []).find? fun theme =>
          library.toLowerCase theme.id =
            library.toLowerCase (textOr (source.member "selectedTheme") [])).map
              BuildBridge.BuildTheme.rows).getD [] := by
  have hcatalog : IsCatalog library
      (groupedCatalogOf library (source.member "groupedCatalog") source) :=
    isCatalog_groupedCatalogOf _ source
  rw [← read_groupedCatalogOf source (readThemeMap source) (readOptions library source),
    ← read_memberAt hcatalog, List.find?_map]
  unfold derivedSelectedRows
  dsimp only
  have hwanted : ∀ theme ∈ ((memberAt (groupedCatalogOf library
      (source.member "groupedCatalog") source) (library.toLowerCase
        (textOr (source.member "selectedDiscipline") []))).member "themes").items,
      decide (library.toLowerCase (textOf library (theme.member "id")) =
        library.toLowerCase (textOr (source.member "selectedTheme") [])) =
      ((fun theme : BuildBridge.BuildTheme => decide (library.toLowerCase theme.id =
        library.toLowerCase (textOr (source.member "selectedTheme") []))) ∘
          BuildBridge.readBuildTheme library) theme := by
    intro theme hmem
    rw [(read_isTheme (isTheme_of_mem_entry hcatalog _ hmem)).1]
    rfl
  rw [List.find?_congr hwanted]
  cases hselected : List.find? _ _ with
  | none => rfl
  | some theme =>
    exact (read_isTheme (isTheme_of_mem_entry hcatalog _
      (List.mem_of_find?_eq_some hselected))).2

end Read

/-- The panel reads of the normalised payload what it would have read of the payload. -/
theorem read_normalizeBuildPayload (library : ScriptLibrary) (payload : ScriptValue) :
    BuildBridge.readBuildPayload library (normalizeBuildPayload library payload) =
      BuildBridge.readBuildPayload library payload := by
  have hread : BuildBridge.readBuildPayload library (normalizeBuildPayload library payload) =
      { themeMap := readThemeMap payload.asObject
        groupedCatalog := BuildBridge.readBuildGroupedCatalog library
          (groupedCatalogOf library (payload.asObject.member "groupedCatalog") payload.asObject)
          (readThemeMap payload.asObject)
          ((normalizeBuildRows library (payload.asObject.member "options")).filterMap
            (BuildBridge.readBuildOption library))
        selectedDiscipline := textOr (payload.asObject.member "selectedDiscipline") []
        selectedTheme := textOr (payload.asObject.member "selectedTheme") []
        selectedOptionId := textOr (payload.asObject.member "selectedOptionId") []
        selectedThemeRows := (match payload.asObject.member "selectedThemeRows" with
          | .array rows => normalizeBuildRows library (.array rows)
          | _ => derivedSelectedRows library payload.asObject).filterMap
            (BuildBridge.readBuildOption library)
        selectedOptionDetail := BuildBridge.readBuildOption library
          (normalizeBuildOption library (payload.asObject.member "selectedOptionDetail"))
        options := (normalizeBuildRows library (payload.asObject.member "options")).filterMap
          (BuildBridge.readBuildOption library)
        activeSlots := normalizeActiveSlots
          (.array (normalizeActiveSlots (payload.asObject.member "activeSlots"))) } := rfl
  have hselected : (match payload.asObject.member "selectedThemeRows" with
      | .array rows => normalizeBuildRows library (.array rows)
      | _ => derivedSelectedRows library payload.asObject).filterMap
        (BuildBridge.readBuildOption library) =
      (BuildBridge.readBuildPayload library payload).selectedThemeRows := by
    unfold BuildBridge.readBuildPayload
    dsimp only
    cases payload.asObject.member "selectedThemeRows" with
    | array rows => exact filterMap_normalizeBuildRows (.array rows)
    | _ => exact read_derivedSelectedRows payload.asObject
  rw [hread, hselected, read_groupedCatalogOf, filterMap_normalizeBuildRows,
    read_normalizeBuildOption, BuildBridge.normalizeActiveSlots_twice]
  rfl

end InteropBridge

end CodexOfPower
