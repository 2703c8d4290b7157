/-
# `CodexOfPower.Settings` — the settings, their clamping and the payload

`Clamp` brings every field into its range; clamping twice is clamping once
(`clamp_clamp`), which is why a value may be clamped on every path it takes through
the program.  A payload from the page is a JSON document whose members replace the
fields of the current settings, one by one, where their type is right.

`double` is `Float`: the proofs below follow the comparisons the code makes and
decide those between constants.
-/
import CodexOfPower.BuildTypes

namespace CodexOfPower

open Builds (Text)

structure Settings where
  toggleKeyCode : UInt32 := 0x3E
  uiDisableFocusMenu : Bool := false
  uiPauseGame : Bool := true
  uiInputScale : Float := 1.0
  uiDestroyOnClose : Bool := true
  languageOverride : Text := utf8 "auto"
  normalizeRegistration : Bool := false
  requireTccDisplayed : Bool := false
  protectFavorites : Bool := true
  enableLootNotify : Bool := true
  enableRewards : Bool := true
  rewardEvery : Int32 := 5
  rewardMultiplier : Float := 1.0
  allowSkillRewards : Bool := false
deriving DecidableEq

namespace Settings

/-! ## Clamping -/

/-- `std::clamp` -/
def between (low high value : Float) : Float :=
  if value < low then low else if high < value then high else value

def clampLanguage (language : Text) : Text :=
  if language ≠ utf8 "auto" ∧ language ≠ utf8 "en" ∧ language ≠ utf8 "ko" then utf8 "auto"
  else language

def clampEvery (every : Int32) : Int32 := if every ≤ 0 then 5 else every

def clampScale (scale : Float) : Float :=
  between 0.50 3.00 (if !scale.isFinite || scale ≤ 0.0 then 1.0 else scale)

def clampMultiplier (multiplier : Float) : Float :=
  if multiplier ≤ 0.0 then 0.0
  else
    let multiplier := if multiplier < 0.10 then 0.10 else multiplier
    if 5.0 < multiplier then 5.0 else multiplier

/-- `Clamp`, and `ClampSettings`. -/
def clamp (settings : Settings) : Settings :=
  { settings with
    languageOverride := clampLanguage settings.languageOverride
    rewardEvery := clampEvery settings.rewardEvery
    uiInputScale := clampScale settings.uiInputScale
    rewardMultiplier := clampMultiplier settings.rewardMultiplier }

theorem clampLanguage_clampLanguage (language : Text) :
    clampLanguage (clampLanguage language) = clampLanguage language := by
  unfold clampLanguage
  split_ifs
  · rfl
  · rfl
  · rfl

theorem clampEvery_clampEvery (every : Int32) :
    clampEvery (clampEvery every) = clampEvery every := by
  by_cases h : every ≤ 0
  · have hfive : clampEvery every = 5 := if_pos h
    rw [hfive]
    decide
  · have hsame : clampEvery every = every := if_neg h
    rw [hsame, hsame]

/-- The result is a bound or a value that passes every check. -/
theorem clampScale_cases (scale : Float) :
    clampScale scale ∈ [(0.50 : Float), 3.00, 1.0] ∨
      clampScale scale = scale ∧ clampScale (clampScale scale) = clampScale scale := by
  by_cases hbad : (!scale.isFinite || scale ≤ 0.0) = true
  · left
    have hone : clampScale scale = 1.0 := by
      rw [clampScale, if_pos hbad]
      decide
    simp [hone]
  · have hgood : clampScale scale = between 0.50 3.00 scale := by rw [clampScale, if_neg hbad]
    by_cases hlow : scale < 0.50
    · left
      rw [hgood, between, if_pos hlow]
      simp
    · by_cases hhigh : 3.00 < scale
      · left
        rw [hgood, between, if_neg hlow, if_pos hhigh]
        simp
      · right
        have hsame : clampScale scale = scale := by
          rw [hgood, between, if_neg hlow, if_neg hhigh]
        exact ⟨hsame, by rw [hsame, hsame]⟩

theorem clampScale_clampScale (scale : Float) :
    clampScale (clampScale scale) = clampScale scale := by
  rcases clampScale_cases scale with hbound | ⟨-, hsame⟩
  · have hfixed : ∀ bound ∈ [(0.50 : Float), 3.00, 1.0], clampScale bound = bound := by decide
    exact hfixed _ hbound
  · exact hsame

theorem clampMultiplier_clampMultiplier (multiplier : Float) :
    clampMultiplier (clampMultiplier multiplier) = clampMultiplier multiplier := by
  have hbounds : ∀ bound ∈ [(0.0 : Float), 0.10, 5.0], clampMultiplier bound = bound := by decide
  have hceiling : ¬ (5.0 : Float) < 0.10 := by decide
  by_cases hzero : multiplier ≤ 0.0
  · have h : clampMultiplier multiplier = 0.0 := if_pos hzero
    rw [h, hbounds _ (by simp)]
  · by_cases hlow : multiplier < 0.10
    · have h : clampMultiplier multiplier = 0.10 := by
        simp only [clampMultiplier, if_neg hzero, if_pos hlow, if_neg hceiling]
      rw [h, hbounds _ (by simp)]
    · by_cases hhigh : 5.0 < multiplier
      · have h : clampMultiplier multiplier = 5.0 := by
          simp only [clampMultiplier, if_neg hzero, if_neg hlow, if_pos hhigh]
        rw [h, hbounds _ (by simp)]
      · have h : clampMultiplier multiplier = multiplier := by
          simp only [clampMultiplier, if_neg hzero, if_neg hlow, if_neg hhigh]
        rw [h, h]

/-- Clamped settings are in range. -/
theorem clamp_clamp (settings : Settings) : settings.clamp.clamp = settings.clamp := by
  simp [clamp, clampLanguage_clampLanguage, clampEvery_clampEvery, clampScale_clampScale,
    clampMultiplier_clampMultiplier]

end Settings

/-! ## The payload -/

namespace PrismaUIManager

/-- A parsed JSON document: a number keeps the kind it was written in. -/
inductive Json
  | null
  | boolean (value : Bool)
  | numberUnsigned (value : UInt64)
  | numberInteger (value : Int64)
  | numberFloat (value : Float)
  | string (value : Text)
  | array (items : List Json)
  | object (members : List (Text × Json))

namespace Json

/-- `find`: only an object has members. -/
def find (document : Json) (key : String) : Option Json :=
  match document with
  | .object members => members.lookup (utf8 key)
  | _ => none

def getBool : Json → Option Bool
  | .boolean value => some value
  | _ => none

/-- `is_number_unsigned`, then `get<std::uint32_t>`. -/
def getUInt32 : Json → Option UInt32
  | .numberUnsigned value => some value.toUInt32
  | _ => none

/-- `is_number_integer`, which an unsigned number is too, then `get<std::int32_t>`. -/
def getInt32 : Json → Option Int32
  | .numberUnsigned value => some value.toUInt32.toInt32
  | .numberInteger value => some value.toInt32
  | _ => none

/-- `is_number_float` or `is_number_integer`, then `get<double>`. -/
def getDouble : Json → Option Float
  | .numberUnsigned value => some value.toFloat
  | .numberInteger value => some (.ofModel (.ofInt64 value))
  | .numberFloat value => some value
  | _ => none

def getString : Json → Option Text
  | .string value => some value
  | _ => none

end Json

/-- `SettingsFromJson`: a member that is missing or of another type leaves the field. -/
def settingsFromJson (j : Json) (base : Settings) : Settings where
  toggleKeyCode := ((j.find "toggleKeyCode").bind Json.getUInt32).getD base.toggleKeyCode
  uiDisableFocusMenu :=
    ((j.find "uiDisableFocusMenu").bind Json.getBool).getD base.uiDisableFocusMenu
  uiPauseGame := ((j.find "uiPauseGame").bind Json.getBool).getD base.uiPauseGame
  uiInputScale := ((j.find "uiInputScale").bind Json.getDouble).getD base.uiInputScale
  uiDestroyOnClose := ((j.find "uiDestroyOnClose").bind Json.getBool).getD base.uiDestroyOnClose
  languageOverride := ((j.find "languageOverride").bind Json.getString).getD base.languageOverride
  normalizeRegistration :=
    ((j.find "normalizeRegistration").bind Json.getBool).getD base.normalizeRegistration
  requireTccDisplayed :=
    ((j.find "requireTccDisplayed").bind Json.getBool).getD base.requireTccDisplayed
  protectFavorites := ((j.find "protectFavorites").bind Json.getBool).getD base.protectFavorites
  enableLootNotify := ((j.find "enableLootNotify").bind Json.getBool).getD base.enableLootNotify
  enableRewards := ((j.find "enableRewards").bind Json.getBool).getD base.enableRewards
  rewardEvery := ((j.find "rewardEvery").bind Json.getInt32).getD base.rewardEvery
  rewardMultiplier := ((j.find "rewardMultiplier").bind Json.getDouble).getD base.rewardMultiplier
  allowSkillRewards :=
    ((j.find "allowSkillRewards").bind Json.getBool).getD base.allowSkillRewards

/-- `ParseSettingsPayload`; the argument is what `json::parse` made of the text,
nothing when it is not JSON. -/
def parseSettingsPayload (payload : Option Json) (current : Settings) : Option Settings :=
  payload.map fun document => (settingsFromJson document current).clamp

theorem clamp_of_parseSettingsPayload {payload : Option Json} {current next : Settings}
    (h : parseSettingsPayload payload current = some next) : next.clamp = next := by
  obtain ⟨document, -, rfl⟩ := Option.map_eq_some_iff.mp h
  exact Settings.clamp_clamp _

/-- `BuildSettingsPayload`.  An object keeps its members in the order of their keys. -/
def buildSettingsPayload (settings : Settings) : Json :=
  .object [
    (utf8 "enableLootNotify", .boolean settings.enableLootNotify),
    (utf8 "languageOverride", .string settings.languageOverride),
    (utf8 "normalizeRegistration", .boolean settings.normalizeRegistration),
    (utf8 "protectFavorites", .boolean settings.protectFavorites),
    (utf8 "requireTccDisplayed", .boolean settings.requireTccDisplayed),
    (utf8 "toggleKeyCode", .numberUnsigned settings.toggleKeyCode.toUInt64),
    (utf8 "uiDestroyOnClose", .boolean settings.uiDestroyOnClose),
    (utf8 "uiDisableFocusMenu", .boolean settings.uiDisableFocusMenu),
    (utf8 "uiInputScale", .numberFloat settings.uiInputScale),
    (utf8 "uiPauseGame", .boolean settings.uiPauseGame)]

def nearlyEqual (a b : Float) : Bool := (a - b).abs ≤ 1e-9

def settingsEquivalent (a b : Settings) : Bool :=
  a.toggleKeyCode = b.toggleKeyCode &&
  a.uiDisableFocusMenu = b.uiDisableFocusMenu &&
  a.uiPauseGame = b.uiPauseGame &&
  nearlyEqual a.uiInputScale b.uiInputScale &&
  a.uiDestroyOnClose = b.uiDestroyOnClose &&
  a.languageOverride = b.languageOverride &&
  a.normalizeRegistration = b.normalizeRegistration &&
  a.requireTccDisplayed = b.requireTccDisplayed &&
  a.protectFavorites = b.protectFavorites &&
  a.enableLootNotify = b.enableLootNotify &&
  a.enableRewards = b.enableRewards &&
  a.rewardEvery = b.rewardEvery &&
  nearlyEqual a.rewardMultiplier b.rewardMultiplier &&
  a.allowSkillRewards = b.allowSkillRewards

end PrismaUIManager

end CodexOfPower
