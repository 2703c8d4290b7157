/-
# `CodexOfPower.SettingsFiles` — settings.user.json, its temp file and its backup

`SaveToDisk` writes the settings to a temp file, moves the file there is to a backup
and the temp file to its place; any of these steps may fail, and the game may stop
after any of them.  `LoadFromDisk` first repairs what such attempts have left.

The text of a JSON document is made and read by a library the program links to:
`Nlohmann` is what the program uses of it.

## What is not said

The log is left out.  Programs other than the game that write to these files are not
considered.
-/
import CodexOfPower.Settings
import CodexOfPower.Lib.FileSystem

namespace CodexOfPower

open Builds (Text)
open PrismaUIManager FileSystem FileSystem.Program

namespace Config

/-! ## The document -/

/-- `dump`, which throws on text that is not UTF-8, and `operator>>`. The file is written with
`dump(2)`, a payload for the page with `dump()`; nothing that is proved depends on the blanks.
-/
structure Nlohmann where
  dump : Json → Option Text
  parse : Text → Option Json

/-- `j.find(section)`, and `find(key)` in what is found. -/
def member (j : Json) (section_ key : String) : Option Json := (j.find section_).bind (·.find key)

/-- `ApplyJsonToSettings` -/
def applyJsonToSettings (j : Json) (settings : Settings) : Settings where
  languageOverride := ((j.find "language").bind Json.getString).getD settings.languageOverride
  toggleKeyCode :=
    ((member j "hotkey" "toggleKeyCode").bind Json.getUInt32).getD settings.toggleKeyCode
  uiDisableFocusMenu :=
    ((member j "ui" "disableFocusMenu").bind Json.getBool).getD settings.uiDisableFocusMenu
  uiPauseGame := ((member j "ui" "pauseGame").bind Json.getBool).getD settings.uiPauseGame
  uiInputScale := ((member j "ui" "inputScale").bind Json.getDouble).getD settings.uiInputScale
  uiDestroyOnClose :=
    ((member j "ui" "destroyOnClose").bind Json.getBool).getD settings.uiDestroyOnClose
  normalizeRegistration :=
    ((member j "registration" "normalize").bind Json.getBool).getD settings.normalizeRegistration
  requireTccDisplayed :=
    ((member j "registration" "requireTccDisplayed").bind Json.getBool).getD
      settings.requireTccDisplayed
  protectFavorites :=
    ((member j "safety" "protectFavorites").bind Json.getBool).getD settings.protectFavorites
  enableLootNotify :=
    ((member j "lootNotify" "enabled").bind Json.getBool).getD settings.enableLootNotify
  enableRewards := ((member j "rewards" "enabled").bind Json.getBool).getD settings.enableRewards
  rewardEvery := ((member j "rewards" "every").bind Json.getInt32).getD settings.rewardEvery
  rewardMultiplier :=
    ((member j "rewards" "multiplier").bind Json.getDouble).getD settings.rewardMultiplier
  allowSkillRewards :=
    ((member j "rewards" "allowSkillRewards").bind Json.getBool).getD settings.allowSkillRewards

/-- The document `SaveToDisk` builds.  An object keeps its members in the order of
their keys. -/
def settingsJson (settings : Settings) : Json :=
  .object [
    (utf8 "hotkey", .object [
      (utf8 "toggleKeyCode", .numberUnsigned settings.toggleKeyCode.toUInt64)]),
    (utf8 "language", .string settings.languageOverride),
    (utf8 "lootNotify", .object [(utf8 "enabled", .boolean settings.enableLootNotify)]),
    (utf8 "registration", .object [
      (utf8 "normalize", .boolean settings.normalizeRegistration),
      (utf8 "requireTccDisplayed", .boolean settings.requireTccDisplayed)]),
    (utf8 "safety", .object [(utf8 "protectFavorites", .boolean settings.protectFavorites)]),
    (utf8 "ui", .object [
      (utf8 "destroyOnClose", .boolean settings.uiDestroyOnClose),
      (utf8 "disableFocusMenu", .boolean settings.uiDisableFocusMenu),
      (utf8 "inputScale", .numberFloat settings.uiInputScale),
      (utf8 "pauseGame", .boolean settings.uiPauseGame)]),
    (utf8 "version", .numberInteger 2)]

/-! ## The files -/

inductive SettingsPath
  /-- settings.json, which comes with the program. -/
  | settings
  /-- settings.user.json -/
  | user
  /-- settings.user.json.tmp -/
  | tmp
  /-- settings.user.json.bak -/
  | bak
deriving DecidableEq

abbrev SettingsDisk := Disk SettingsPath UInt8

abbrev SettingsProgram := Program SettingsPath UInt8

variable (json : Nlohmann)

/-- 1 MiB -/
def kMaxBytes : Nat := 1024 * 1024

/-- `IsValidJsonFile`; the size is not checked where it cannot be found out. -/
def isValidJsonFile (path : SettingsPath) : SettingsProgram Bool := do
  let sized ← readFile path
  if sized.any fun text => kMaxBytes < text.length then return false
  let some text ← readFile path | return false
  return (json.parse text).isSome

/-- Where it is wanted, a file that is valid takes the place of settings.user.json. -/
def recoverFrom (wanted : Bool) (path : SettingsPath) : SettingsProgram Unit := do
  if wanted then
    if ← isValidJsonFile json path then
      let _ ← try_ (.rename path .user)

def removeStaleTmp (tmpExists : Bool) : SettingsProgram Unit := do
  if tmpExists then
    let _ ← try_ (.remove .tmp)

/-- `RepairUserSettingsFiles`: the temp file is tried first, then the backup. -/
def repairUserSettingsFiles : SettingsProgram Unit := do
  let finalExists ← fileExists .user
  let tmpExists ← fileExists .tmp
  let bakExists ← fileExists .bak
  recoverFrom json (!finalExists && tmpExists) .tmp
  removeStaleTmp tmpExists
  let finalExistsAfter ← fileExists .user
  recoverFrom json (!finalExistsAfter && bakExists) .bak

/-- `ApplySettingsFromFile`: a file that cannot be read or parsed changes nothing. -/
def applySettingsFromFile (path : SettingsPath) (settings : Settings) :
    SettingsProgram Settings := do
  let text ← readFile path
  match text.bind json.parse with
  | some j => return applyJsonToSettings j settings
  | none => return settings

/-- `LoadFromDisk` -/
def loadFromDisk : SettingsProgram Settings := do
  repairUserSettingsFiles json
  let settings ← applySettingsFromFile json .settings {}
  let settings ← applySettingsFromFile json .user settings
  return settings.clamp

/-- Rotate: settings.user.json becomes the backup. -/
def rotate : SettingsProgram Unit := do
  if ← fileExists .user then
    let _ ← try_ (.remove .bak)
    let _ ← try_ (.rename .user .bak)

/-- Commit: the temp file becomes settings.user.json; when it cannot, the backup does
if that file is missing now. -/
def commit : SettingsProgram Bool := do
  let committed ← try_ (.rename .tmp .user)
  if committed then return true
  let _ ← try_ (.remove .tmp)
  let finalExists ← fileExists .user
  if !finalExists then
    let _ ← try_ (.rename .bak .user)
  return false

/-- `SaveToDisk` -/
def saveToDisk (settings : Settings) : SettingsProgram Bool := do
  let created ← try_ .createDirectories
  if !created then return false
  let some serialized := json.dump (settingsJson settings) | return false
  let opened ← try_ (.truncate .tmp)
  if !opened then return false
  let written ← try_ (.write .tmp (serialized ++ utf8 "\n"))
  if !written then
    let _ ← try_ (.remove .tmp)
    return false
  rotate
  commit

end Config

end CodexOfPower
