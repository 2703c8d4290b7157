/-
# `CodexOfPower.SettingsRoundTrip` — settings come back as they went out

Four lists of fields are written by hand: what is saved, what is loaded, what is sent to
the page and what is taken from it.  They agree on the ten fields that are saved and sent;
the reward settings, which are neither, keep the value they had (`settings_round_trip`).

Settings in range pass the clamping unchanged, and their scale is finite, so that the
document has a number for it.

## What is not said

Failures are the subject of `CodexOfPower.SettingsRecovery`: here the save has succeeded and
the load goes through.  The script of the page is not modelled: it sends back the text that
it was sent.
-/
import CodexOfPower.SettingsRecovery

namespace CodexOfPower

open Builds (Text)
open PrismaUIManager FileSystem FileSystem.Program

namespace Config

/-- The library reads a document that it has written, also as a line. -/
structure Nlohmann.ReadsBack (json : Nlohmann) (document : Json) : Prop where
  whole : ∀ text, json.dump document = some text → json.parse text = some (readBack document)
  line : ∀ text, json.dump document = some text →
    json.parse (text ++ utf8 "\n") = some (readBack document)

variable {json : Nlohmann} {disk : SettingsDisk} {settings current : Settings} {text : Text}

/-! ## The files -/

theorem safe_rotate_tmp (json : Nlohmann) (htmp : disk .tmp = some text) :
    Safe (fun _ => True) (fun _ disk => disk .tmp = some text) rotate disk :=
  (safe_rotate (fun hnot : False => (hnot.elim : Recoverable json [] disk)) htmp).mono
    (fun _ _ => trivial) (fun _ _ h => h)

/-- A commit that succeeds puts the temp file in its place. -/
theorem safe_commit_user (htmp : disk .tmp = some text) :
    Safe (fun _ => True) (fun ok disk => ok = true → disk .user = some text) commit disk :=
  safe_commit_of trivial htmp
    ⟨trivial, Function.update_self _ _ _⟩ trivial fun _ _ _ _ _ => trivial

/-- A save that succeeds leaves the whole document. -/
theorem safe_saveToDisk_user :
    Safe (fun _ => True)
      (fun ok disk => ok = true → ∃ text, json.dump (settingsJson settings) = some text ∧
        disk .user = some (text ++ utf8 "\n"))
      (saveToDisk json settings) disk := by
  refine safe_createDirectories trivial ?_ (safe_pure trivial nofun)
  cases hdump : json.dump (settingsJson settings) with
  | none => exact safe_pure trivial nofun
  | some text =>
    refine safe_truncate trivial ?_ (safe_pure trivial nofun)
    refine safe_write trivial ?_ fun _ =>
      safe_remove trivial (safe_pure trivial nofun) (safe_pure trivial nofun)
    refine (safe_rotate_tmp json (Function.update_self _ _ _)).bind fun _ disk _ htmp => ?_
    exact (safe_commit_user htmp).mono (fun _ h => h) fun _ _ huser hok =>
      ⟨text, rfl, huser hok⟩

/-- The repair leaves settings.user.json alone where it is there. -/
theorem finish_repairUserSettingsFiles_user (json : Nlohmann) (huser : disk .user = some text) :
    ((repairUserSettingsFiles json).finish disk).1 .user = some text := by
  have hcleaned : ((removeStaleTmp (disk .tmp).isSome).finish disk).1 .user = some text :=
    (finish_removeStaleTmp _ (by decide)).trans huser
  simp only [repairUserSettingsFiles, finish_bind, finish_fileExists, huser, Option.isSome_some,
    Bool.not_true, Bool.false_and, recoverFrom]
  simp [hcleaned]

/-! ## The round trips -/

/-- What the page sends back takes the place of what it was sent, and of nothing else. -/
theorem parseSettingsPayload_buildSettingsPayload (hclamped : settings.clamp = settings)
    (hcurrent : current.clamp = current) :
    parseSettingsPayload (some (readBack (buildSettingsPayload settings))) current =
      some { settings with
        enableRewards := current.enableRewards
        rewardEvery := current.rewardEvery
        rewardMultiplier := current.rewardMultiplier
        allowSkillRewards := current.allowSkillRewards } := by
  have hfinite := isFinite_of_clamped hclamped
  have hscale : (readBack (buildSettingsPayload settings)).find "uiInputScale" =
      some (if settings.uiInputScale.isFinite then .numberFloat settings.uiInputScale
        else .null) := rfl
  have hkey : settings.toggleKeyCode.toUInt64.toUInt32 = settings.toggleKeyCode :=
    UInt32.toUInt32_toUInt64 _
  have hread : settingsFromJson (readBack (buildSettingsPayload settings)) current =
      { settings with
        toggleKeyCode := settings.toggleKeyCode.toUInt64.toUInt32
        enableRewards := current.enableRewards
        rewardEvery := current.rewardEvery
        rewardMultiplier := current.rewardMultiplier
        allowSkillRewards := current.allowSkillRewards } := by
    simp only [settingsFromJson, hscale, hfinite]
    rfl
  have hlanguage : Settings.clampLanguage settings.languageOverride = settings.languageOverride :=
    congrArg Settings.languageOverride hclamped
  have hscaled : Settings.clampScale settings.uiInputScale = settings.uiInputScale :=
    congrArg Settings.uiInputScale hclamped
  have hevery : Settings.clampEvery current.rewardEvery = current.rewardEvery :=
    congrArg Settings.rewardEvery hcurrent
  have hmultiplier : Settings.clampMultiplier current.rewardMultiplier =
      current.rewardMultiplier := congrArg Settings.rewardMultiplier hcurrent
  simp only [parseSettingsPayload, Option.map_some, hread, hkey, Settings.clamp, hlanguage,
    hscaled, hevery, hmultiplier]

/-- Over any files, with any settings.json, a load that goes through after a save that
succeeded finds what was saved; and the page, sent settings, sends them back. -/
theorem settings_round_trip {outcomes : List Outcome} (hclamped : settings.clamp = settings)
    (hcurrent : current.clamp = current) (hfile : json.ReadsBack (settingsJson settings))
    (hpayload : json.ReadsBack (buildSettingsPayload settings)) :
    (((saveToDisk json settings).run outcomes disk).2 = some true →
        SameSaved ((loadFromDisk json).finish
          ((saveToDisk json settings).run outcomes disk).1).2 settings) ∧
      ∀ text, json.dump (buildSettingsPayload settings) = some text →
        parseSettingsPayload (json.parse text) current =
          some { settings with
            enableRewards := current.enableRewards
            rewardEvery := current.rewardEvery
            rewardMultiplier := current.rewardMultiplier
            allowSkillRewards := current.allowSkillRewards } := by
  constructor
  · intro hsaved
    have hsave : Safe _ _ (saveToDisk json settings) disk := safe_saveToDisk_user
    obtain ⟨text, hdump, huser⟩ := (hsave.run outcomes).2 true hsaved rfl
    have hrepaired := finish_repairUserSettingsFiles_user json huser
    have hparse := hfile.line text hdump
    have hloaded := sameSaved_clamp
      ((((repairUserSettingsFiles json).finish
          ((saveToDisk json settings).run outcomes disk).1).1 .settings |>.bind json.parse).elim {}
        (applyJsonToSettings · {})) hclamped
    simpa [loadFromDisk, finish_applySettingsFromFile, hrepaired, hparse] using hloaded
  · intro text hdump
    rw [hpayload.whole text hdump]
    exact parseSettingsPayload_buildSettingsPayload hclamped hcurrent

/-! The defaults, saved and sent. -/

/-- The defaults as `dump` writes them for the page. -/
def defaultsPayload : Text :=
  utf8 "\x7b\"enableLootNotify\":true,\"languageOverride\":\"auto\","
  ++ utf8 "\"normalizeRegistration\":false,\"protectFavorites\":true,"
  ++ utf8 "\"requireTccDisplayed\":false,\"toggleKeyCode\":62,\"uiDestroyOnClose\":true,"
  ++ utf8 "\"uiDisableFocusMenu\":false,\"uiInputScale\":1.0,\"uiPauseGame\":true\x7d"

def twoTexts (saved sent : Text) (settings : Settings) : Nlohmann where
  dump document := some (if (document.find "version").isSome then saved else sent)
  parse text :=
    if text = saved ∨ text = saved ++ utf8 "\n" then some (readBack (settingsJson settings))
    else some (readBack (buildSettingsPayload settings))

section TwoTexts

variable {saved sent : Text}

theorem twoTexts_settings (saved sent : Text) (settings : Settings) :
    (twoTexts saved sent settings).ReadsBack (settingsJson settings) where
  whole text htext := by
    have hdump : saved = text := Option.some.inj htext
    rw [← hdump]
    exact if_pos (.inl rfl)
  line text htext := by
    have hdump : saved = text := Option.some.inj htext
    rw [← hdump]
    exact if_pos (.inr rfl)

/-- The second byte tells the texts apart. -/
theorem twoTexts_payload (hsaved : 1 < saved.length) (hsent : 1 < sent.length)
    (hbyte : sent[1]? ≠ saved[1]?) (settings : Settings) :
    (twoTexts saved sent settings).ReadsBack (buildSettingsPayload settings) := by
  have hparse : ∀ rest, (twoTexts saved sent settings).parse (sent ++ rest) =
      some (readBack (buildSettingsPayload settings)) := by
    intro rest
    have hfirst : (sent ++ rest)[1]? = sent[1]? := List.getElem?_append_left hsent
    have hline : (saved ++ utf8 "\n")[1]? = saved[1]? := List.getElem?_append_left hsaved
    refine if_neg ?_
    rintro (heq | heq)
    · rw [← hfirst, heq] at hbyte
      exact hbyte rfl
    · rw [← hfirst, heq, hline] at hbyte
      exact hbyte rfl
  constructor
  · intro text htext
    have hdump : sent = text := Option.some.inj htext
    have hwhole := hparse []
    rwa [List.append_nil, hdump] at hwhole
  · intro text htext
    have hdump : sent = text := Option.some.inj htext
    rw [← hdump]
    exact hparse _

end TwoTexts

theorem settings_round_trip_defaults :
    let json := twoTexts defaultsText defaultsPayload {}
    let saved := (saveToDisk json {}).run (List.replicate 4 .done) fun _ => none
    saved.2 = some true ∧ SameSaved ((loadFromDisk json).finish saved.1).2 {} := by
  have hclamped : ({} : Settings).clamp = {} := by decide
  have hsavedLength : 1 < defaultsText.length := by decide +kernel
  have hsentLength : 1 < defaultsPayload.length := by decide +kernel
  have hpayload := twoTexts_payload hsavedLength hsentLength (by decide +kernel) {}
  have hsaved : ((saveToDisk (twoTexts defaultsText defaultsPayload {}) {}).run
      (List.replicate 4 .done) fun _ => none).2 = some true := rfl
  exact ⟨hsaved, (settings_round_trip hclamped hclamped (twoTexts_settings _ _ _)
    hpayload).1 hsaved⟩

end Config

end CodexOfPower
