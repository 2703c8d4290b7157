/-
# `CodexOfPower.RegisterBatchPanel` — a page of the inventory, and what the panel makes of it

`BuildInventoryPayload` writes a page of the quick list as JSON: the rows, and once more
the rows in sections, a new one wherever the discipline changes.  The panel reads the
sections, filters the rows by name and by whether they can be registered, keeps of the
selected ids those whose rows are shown and can be, and adds up what registering them
would give.

The panel is a script: what it reads may be missing or of another type, and has a
default.  Its numbers are doubles, so every sum, product and quotient is the double
nearest to the exact one (`Lib.NearestDouble`): the sums of the counts and of the centi
points are exact as long as they are small, the quotient by 100 hardly ever is.

## What is not said

The elements of the page, the texts around the rows and the keyboard are left out, and the
rows have the members that the panel computes with.
-/
import CodexOfPower.InventoryPages
import CodexOfPower.VirtualTables
import CodexOfPower.Lib.NearestDouble
import CodexOfPower.Lib.ScriptValue

namespace CodexOfPower

open RE Builds Registration PrismaUIManager

/-! ## The payload -/

namespace PrismaUIPayloads

def fromBuildPointCenti (points : BuildPointCenti) : Float32 :=
  points.toFloat32 / kBuildPointScale.toFloat32

def groupToDiscipline (group : UInt32) : Text :=
  if group = 0 then utf8 "attack"
  else if group = 1 then utf8 "defense"
  else utf8 "utility"

/-- A section; its rows are JSON already. -/
structure InventorySection where
  group : UInt32
  discipline : Text
  rows : List Json := []

section Payload

variable {F : Type} (env : Environment F)

def rowPayload (it : ListItem) : Json :=
  .object [
    (utf8 "actionable", .boolean (0 < it.safeCount && it.disabledReason = [])),
    (utf8 "buildPoints", .numberFloat (fromBuildPointCenti it.buildPointsCenti).toFloat),
    (utf8 "buildPointsCenti", .numberUnsigned it.buildPointsCenti.toUInt64),
    (utf8 "disabledReason",
      if it.disabledReason = [] then .null else .string it.disabledReason),
    (utf8 "discipline", .string (groupToDiscipline it.group)),
    (utf8 "formId", .numberUnsigned it.formId.toUInt64),
    (utf8 "group", .numberUnsigned it.group.toUInt64),
    (utf8 "groupName", .string (getDiscoveryGroupName env it.group)),
    (utf8 "name", .string it.name),
    (utf8 "regKey", .numberUnsigned it.regKey.toUInt64),
    (utf8 "safeCount", .numberInteger (.ofInt it.safeCount)),
    (utf8 "totalCount", .numberInteger (.ofInt it.totalCount))]

def InventorySection.payload (part : InventorySection) : Json :=
  .object [
    (utf8 "discipline", .string part.discipline),
    (utf8 "group", .numberUnsigned part.group.toUInt64),
    (utf8 "groupName", .string (getDiscoveryGroupName env part.group)),
    (utf8 "rows", .array part.rows)]

/-- `*currentSection` is the last section; a row of another discipline opens one. -/
def appendRow (sections : List InventorySection) (it : ListItem) : List InventorySection :=
  let discipline := groupToDiscipline it.group
  match sections.getLast? with
  | none => [{ group := it.group, discipline, rows := [rowPayload env it] }]
  | some current =>
    if current.discipline ≠ discipline then
      sections ++ [{ group := it.group, discipline, rows := [rowPayload env it] }]
    else sections.dropLast ++ [{ current with rows := current.rows ++ [rowPayload env it] }]

def buildInventorySections (pageData : QuickRegisterList) : List InventorySection :=
  pageData.items.foldl (appendRow env) []

def itemPayload (it : ListItem) : Json :=
  .object [
    (utf8 "buildPoints", .numberFloat (fromBuildPointCenti it.buildPointsCenti).toFloat),
    (utf8 "buildPointsCenti", .numberUnsigned it.buildPointsCenti.toUInt64),
    (utf8 "formId", .numberUnsigned it.formId.toUInt64),
    (utf8 "group", .numberUnsigned it.group.toUInt64),
    (utf8 "groupName", .string (getDiscoveryGroupName env it.group)),
    (utf8 "name", .string it.name),
    (utf8 "regKey", .numberUnsigned it.regKey.toUInt64),
    (utf8 "safeCount", .numberInteger (.ofInt it.safeCount)),
    (utf8 "totalCount", .numberInteger (.ofInt it.totalCount))]

def buildInventoryPayload (page pageSize : UInt32) (pageData : QuickRegisterList) : Json :=
  .object [
    (utf8 "hasMore", .boolean pageData.hasMore),
    (utf8 "items", .array (pageData.items.map (itemPayload env))),
    (utf8 "page", .numberUnsigned page.toUInt64),
    (utf8 "pageSize", .numberUnsigned pageSize.toUInt64),
    (utf8 "sections", .array
      ((buildInventorySections env pageData).map (InventorySection.payload env))),
    (utf8 "total", .numberUnsigned (.ofNat pageData.total))]

end Payload

end PrismaUIPayloads

/-! ## The panel -/

namespace RegisterBatchPanel

section Panel

variable (library : ScriptLibrary)

mutual

/-- `JSON.parse` of a payload; its integers have 32 bits, and a double is exact there. -/
def parse : Json → ScriptValue
  | .null => .null
  | .boolean value => .boolean value
  | .numberUnsigned value => .number value.toNat
  | .numberInteger value => .number value.toInt
  | .numberFloat value => library.ofFloat value
  | .string text => .string text
  | .array items => .array (parseItems items)
  | .object members => .object (parseMembers members)

def parseItems : List Json → List ScriptValue
  | [] => []
  | item :: rest => parse item :: parseItems rest

def parseMembers : List (Text × Json) → List (Text × ScriptValue)
  | [] => []
  | (key, value) :: rest => (key, parse value) :: parseMembers rest

end

def normalizeNumber (value : ScriptValue) (fallback : ℚ) : ℚ :=
  (value.toNumber library).getD fallback

def humanizeDiscipline (id : Text) : Text :=
  let value := library.toLowerCase id
  if value = utf8 "attack" then utf8 "Attack"
  else if value = utf8 "defense" then utf8 "Defense"
  else if value = utf8 "utility" then utf8 "Utility"
  else utf8 "Unknown"

def buildStateTags (actionable : Bool) (disabledReason : Option Text) (safeCount : UInt32) :
    List Text :=
  let tags := (disabledReason.filter fun reason => !actionable && reason ≠ []).toList
  if safeCount ≤ 0 && !tags.contains (utf8 "not_actionable") then tags ++ [utf8 "not_actionable"]
  else tags

/-- `vmRow` -/
structure Row where
  formId : UInt32
  regKey : UInt32
  name : Text
  discipline : Text
  groupName : ScriptValue
  totalCount : UInt32
  safeCount : UInt32
  buildPoints : ℚ
  buildPointsCenti : UInt32
  actionable : Bool
  canBatchSelect : Bool
  singleRegisterAction : Text
  reasonTag : Option Text
  stateTags : List Text
  isSelected : Bool

structure ViewSection where
  discipline : Text
  label : Text
  rows : List Row

/-- An object with a number for each of the three disciplines. -/
structure Gains where
  attack : ℚ := 0
  defense : ℚ := 0
  utility : ℚ := 0

/-- An amount is added to the number of its discipline; another key has no number. -/
def Gains.add (gains : Gains) (discipline : Text) (amount : ℚ) : Gains :=
  if discipline = utf8 "attack" then
    { gains with attack := nearestDouble (gains.attack + amount) }
  else if discipline = utf8 "defense" then
    { gains with defense := nearestDouble (gains.defense + amount) }
  else if discipline = utf8 "utility" then
    { gains with utility := nearestDouble (gains.utility + amount) }
  else gains

structure Summary where
  selectedRows : Nat
  disciplineGain : Gains
  disciplinePointGain : Gains
  formIds : List UInt32

structure ViewModel where
  sections : List ViewSection
  rows : List Row
  disabledRows : List Row
  summary : Summary

def nameOf (row : ScriptValue) : Text :=
  ((row.member "name").orElse (.string [])).toText library

/-- Whether the filters let a row through. -/
def isShown (query : Text) (actionableOnly : Bool) (row : ScriptValue) : Bool :=
  if query ≠ [] && !(query <:+: library.toLowerCase (nameOf library row)) then false
  else !(actionableOnly && !(row.member "actionable").truthy)

def numberOf (row : ScriptValue) (key : String) : UInt32 :=
  ((row.member key).orElse (.number 0)).toUInt32 library

def vmRow (part : ScriptValue) (discipline : Text) (selectedSet : List UInt32)
    (row : ScriptValue) : Row :=
  let name := nameOf library row
  let actionable := (row.member "actionable").truthy
  let formId := numberOf library row "formId"
  let disabledReason := row.member "disabledReason"
  let reasonTag := if disabledReason.truthy then some (disabledReason.toText library) else none
  let canBatchSelect := actionable
  { formId
    regKey := numberOf library row "regKey"
    name := if name = [] then utf8 "(unnamed)" else name
    discipline
    groupName := ((part.member "groupName").orElse (row.member "groupName")).orElse
      (.string discipline)
    totalCount := numberOf library row "totalCount"
    safeCount := numberOf library row "safeCount"
    buildPoints := normalizeNumber library (row.member "buildPoints")
      (nearestDouble (normalizeNumber library (row.member "buildPointsCenti") 0 / 100))
    buildPointsCenti := numberOf library row "buildPointsCenti"
    actionable
    canBatchSelect
    singleRegisterAction := if actionable then utf8 "enabled" else utf8 "disabled"
    reasonTag
    stateTags := buildStateTags actionable reasonTag (numberOf library row "safeCount")
    isSelected := canBatchSelect && formId ∈ selectedSet }

def disciplineOf (part : ScriptValue) : Text :=
  library.toLowerCase
    (((part.member "discipline").orElse (.string (utf8 "utility"))).toText library)

/-- `nextSectionRows` -/
def sectionRows (selectedSet : List UInt32) (query : Text) (actionableOnly : Bool)
    (part : ScriptValue) : List Row :=
  let shown := ((part.member "rows").items.map ScriptValue.asObject).filter
    (isShown library query actionableOnly)
  shown.map (vmRow library part (disciplineOf library part) selectedSet)

/-- The view has one section for a discipline, where its first rows are. -/
def pushViewRows (viewSections : List ViewSection) (discipline : Text) (rows : List Row) :
    List ViewSection :=
  if rows = [] then viewSections
  else if viewSections.any (·.discipline = discipline) then
    viewSections.map fun viewSection =>
      if viewSection.discipline = discipline then
        { viewSection with rows := viewSection.rows ++ rows }
      else viewSection
  else
    viewSections ++ [{ discipline, label := humanizeDiscipline library discipline, rows }]

/-- The centi points of a row, or else those of its points. -/
def gainOf (row : Row) : ℚ :=
  if row.buildPointsCenti ≠ 0 then row.buildPointsCenti.toNat
  else VirtualTables.mathRound (nearestDouble (row.buildPoints * 100))

def summarize (rows : List Row) : Summary :=
  let selected := rows.filter Row.isSelected
  let formIds := selected.map Row.formId
  let disciplinePointGainCenti : Gains :=
    selected.foldl (fun gains row => gains.add row.discipline (gainOf row)) {}
  { selectedRows := formIds.length
    disciplineGain := selected.foldl (fun gains row => gains.add row.discipline 1) {}
    disciplinePointGain :=
      { attack := nearestDouble (disciplinePointGainCenti.attack / 100)
        defense := nearestDouble (disciplinePointGainCenti.defense / 100)
        utility := nearestDouble (disciplinePointGainCenti.utility / 100) }
    formIds }

def selectedSet (selectedIds : ScriptValue) : List UInt32 :=
  selectedIds.items.map (ScriptValue.toUInt32 library)

def queryOf (filters : ScriptValue) : Text :=
  library.toLowerCase (library.trim
    (((filters.asObject.member "query").orElse (.string [])).toText library))

def actionableOnlyOf (filters : ScriptValue) : Bool :=
  (filters.asObject.member "actionableOnly").truthy

def buildRegisterBatchViewModel (inventoryPage selectedIds filters : ScriptValue) : ViewModel :=
  let sections := (inventoryPage.asObject.member "sections").items
  let rowsOf := sectionRows library (selectedSet library selectedIds) (queryOf library filters)
    (actionableOnlyOf filters)
  let rows := sections.flatMap rowsOf
  { sections := sections.foldl
      (fun viewSections part =>
        pushViewRows library viewSections (disciplineOf library part) (rowsOf part)) []
    rows
    disabledRows := rows.filter fun row => row.reasonTag.any (· ≠ [])
    summary := summarize rows }

end Panel

end RegisterBatchPanel

end CodexOfPower
