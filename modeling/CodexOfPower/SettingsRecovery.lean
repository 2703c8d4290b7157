/-
# `CodexOfPower.SettingsRecovery` — saved settings survive failures and stops

At every step of `SaveToDisk` and of the repair, settings.user.json is there and
whole, or it is missing and the backup is whole; and a temp file that parses is
whole too (`Recoverable`).  "Whole" means: the complete document of settings saved
last or attempted since.  So once a save has succeeded, whatever fails afterwards
and wherever the game stops, the next load that goes through finds one of these
(`settings_survive`).

## What is not said

That a file system keeps what it was told to write is assumed, and that a rename is atomic.
The library is assumed to read what it has written and to refuse a part of it
(`Nlohmann.Faithful`).  Settings out of range are not loaded as they were saved, and are not
meant by the last clause.
-/
import CodexOfPower.SettingsFiles

namespace CodexOfPower

open Builds (Text)
open PrismaUIManager FileSystem FileSystem.Program

namespace Config

/-! ## What is read back -/

mutual

/-- A document that was written and read: a number that is not negative comes back
unsigned, and one that is not finite was written as `null`. -/
def readBack : Json → Json
  | .numberInteger value =>
    if value < 0 then .numberInteger value else .numberUnsigned value.toUInt64
  | .numberFloat value => if value.isFinite then .numberFloat value else .null
  | .array items => .array (readBackItems items)
  | .object members => .object (readBackMembers members)
  | j => j

def readBackItems : List Json → List Json
  | [] => []
  | j :: items => readBack j :: readBackItems items

def readBackMembers : List (Text × Json) → List (Text × Json)
  | [] => []
  | (key, j) :: members => (key, readBack j) :: readBackMembers members

end

/-- The library reads what it has written of these settings, and nothing from a part
of it, which is small. -/
structure Nlohmann.Faithful (json : Nlohmann) (settings : Settings) : Prop where
  whole : ∀ text, json.dump (settingsJson settings) = some text →
    json.parse text = some (readBack (settingsJson settings))
  line : ∀ text, json.dump (settingsJson settings) = some text →
    json.parse (text ++ utf8 "\n") = some (readBack (settingsJson settings))
  cut : ∀ text, json.dump (settingsJson settings) = some text → ∀ written < text.length,
    json.parse (text.take written) = none
  tiny : ∀ text, json.dump (settingsJson settings) = some text → text.length < kMaxBytes

/-- The settings agree on what `SaveToDisk` writes. -/
def SameSaved (a b : Settings) : Prop :=
  a = { b with
    enableRewards := a.enableRewards
    rewardEvery := a.rewardEvery
    rewardMultiplier := a.rewardMultiplier
    allowSkillRewards := a.allowSkillRewards }

theorem applyJsonToSettings_readBack {settings : Settings} (base : Settings)
    (h : settings.uiInputScale.isFinite = true) :
    applyJsonToSettings (readBack (settingsJson settings)) base =
      { settings with
        enableRewards := base.enableRewards
        rewardEvery := base.rewardEvery
        rewardMultiplier := base.rewardMultiplier
        allowSkillRewards := base.allowSkillRewards } := by
  have hscale : member (readBack (settingsJson settings)) "ui" "inputScale" =
      some (if settings.uiInputScale.isFinite then .numberFloat settings.uiInputScale
        else .null) := rfl
  have hkey : settings.toggleKeyCode.toUInt64.toUInt32 = settings.toggleKeyCode :=
    UInt32.toUInt32_toUInt64 _
  calc applyJsonToSettings (readBack (settingsJson settings)) base
      = { settings with
          toggleKeyCode := settings.toggleKeyCode.toUInt64.toUInt32
          enableRewards := base.enableRewards
          rewardEvery := base.rewardEvery
          rewardMultiplier := base.rewardMultiplier
          allowSkillRewards := base.allowSkillRewards } := by
        simp only [applyJsonToSettings, hscale, h]
        rfl
    _ = _ := by rw [hkey]

theorem isFinite_of_clamped {settings : Settings} (h : settings.clamp = settings) :
    settings.uiInputScale.isFinite = true := by
  have hscale : Settings.clampScale settings.uiInputScale = settings.uiInputScale :=
    congrArg Settings.uiInputScale h
  cases hfinite : settings.uiInputScale.isFinite with
  | true => rfl
  | false =>
    have hone : Settings.clampScale settings.uiInputScale = 1.0 := by
      rw [Settings.clampScale, hfinite, Bool.not_false, Bool.true_or, if_pos rfl]
      decide
    rw [← hscale, hone] at hfinite
    exact absurd hfinite (by decide)

/-- Settings in range are loaded as they were saved. -/
theorem sameSaved_clamp {settings : Settings} (base : Settings) (h : settings.clamp = settings) :
    SameSaved (applyJsonToSettings (readBack (settingsJson settings)) base).clamp settings := by
  rw [applyJsonToSettings_readBack base (isFinite_of_clamped h)]
  have hlanguage : Settings.clampLanguage settings.languageOverride = settings.languageOverride :=
    congrArg Settings.languageOverride h
  have hscale : Settings.clampScale settings.uiInputScale = settings.uiInputScale :=
    congrArg Settings.uiInputScale h
  simp only [SameSaved, Settings.clamp, hlanguage, hscale]

/-! ## The invariant -/

section
variable {json : Nlohmann} {saved later : List Settings} {settings : Settings}
  {disk : SettingsDisk} {text : Text}

variable (json) (saved) in
def Whole (text : Text) : Prop :=
  ∃ settings ∈ saved,
    json.parse text = some (readBack (settingsJson settings)) ∧ text.length ≤ kMaxBytes

variable (json) (saved) in
structure Recoverable (disk : SettingsDisk) : Prop where
  user : ∀ text, disk .user = some text → Whole json saved text
  backup : disk .user = none → ∃ text, disk .bak = some text ∧ Whole json saved text
  temp : ∀ text, disk .tmp = some text → (json.parse text).isSome → Whole json saved text

theorem Whole.mono (h : Whole json saved text) (hsub : saved ⊆ later) : Whole json later text := by
  obtain ⟨settings, hmem, hparse, hsize⟩ := h
  exact ⟨settings, hsub hmem, hparse, hsize⟩

theorem Recoverable.mono (h : Recoverable json saved disk) (hsub : saved ⊆ later) :
    Recoverable json later disk where
  user text huser := (h.user text huser).mono hsub
  backup hmissing :=
    have ⟨text, hbak, hwhole⟩ := h.backup hmissing
    ⟨text, hbak, hwhole.mono hsub⟩
  temp text htmp hvalid := (h.temp text htmp hvalid).mono hsub

/-- What has been written of the text, however much it is. -/
theorem whole_of_written (hjson : json.Faithful settings)
    (hdump : json.dump (settingsJson settings) = some text) (written : Nat)
    (hvalid : (json.parse ((text ++ utf8 "\n").take written)).isSome) :
    Whole json [settings] ((text ++ utf8 "\n").take written) := by
  have htiny : text.length < kMaxBytes := hjson.tiny text hdump
  have hsize : ((text ++ utf8 "\n").take written).length ≤ kMaxBytes := by
    have hnewline : (utf8 "\n").length = 1 := by decide
    rw [List.length_take, List.length_append, hnewline]
    omega
  refine ⟨settings, List.mem_singleton_self _, ?_, hsize⟩
  rcases Nat.lt_trichotomy written text.length with hlt | rfl | hgt
  · rw [List.take_append_of_le_length hlt.le, hjson.cut text hdump written hlt] at hvalid
    cases hvalid
  · rw [List.take_left]
    exact hjson.whole text hdump
  · rw [List.take_of_length_le]
    · exact hjson.line text hdump
    · have hnewline : (utf8 "\n").length = 1 := by decide
      rw [List.length_append, hnewline]
      exact hgt

/-! What the steps do to it. -/

theorem Recoverable.setTmp {file : Option Text} (h : Recoverable json saved disk)
    (hfile : ∀ text, file = some text → (json.parse text).isSome → Whole json saved text) :
    Recoverable json saved (Function.update disk .tmp file) where
  user := h.user
  backup := h.backup
  temp := hfile

theorem Recoverable.removeBak (h : Recoverable json saved disk) (huser : disk .user = some text) :
    Recoverable json saved (Function.update disk .bak none) where
  user := h.user
  backup hmissing := by
    have hmissing' : disk .user = none := hmissing
    rw [huser] at hmissing'
    cases hmissing'
  temp := h.temp

theorem Recoverable.rotate (h : Recoverable json saved disk) (huser : disk .user = some text) :
    Recoverable json saved
      (Function.update (Function.update disk .user none) .bak (some text)) where
  user _ hnone := nomatch hnone
  backup _ := ⟨text, rfl, h.user text huser⟩
  temp := h.temp

theorem Recoverable.restore (h : Recoverable json saved disk) (hmissing : disk .user = none)
    (hbak : disk .bak = some text) :
    Recoverable json saved
      (Function.update (Function.update disk .bak none) .user (some text)) where
  user t ht := by
    obtain rfl := Option.some.inj ht
    obtain ⟨backup, hbackup, hwhole⟩ := h.backup hmissing
    obtain rfl := Option.some.inj (hbak.symm.trans hbackup)
    exact hwhole
  backup hnone := nomatch hnone
  temp := h.temp

variable (disk) in
/-- Once the temp file has taken its place, nothing else matters. -/
theorem recoverable_committed (hwhole : Whole json saved text) :
    Recoverable json saved
      (Function.update (Function.update disk .tmp none) .user (some text)) where
  user t ht := by
    obtain rfl := Option.some.inj ht
    exact hwhole
  backup hnone := nomatch hnone
  temp _ hnone := nomatch hnone

/-! ## Saving

`kept` is what the disk was known to satisfy when the attempt began: the steps do
not look at it. -/

variable {kept : Prop}

theorem safe_rotate (h : kept → Recoverable json saved disk) (htmp : disk .tmp = some text) :
    Safe (fun disk => kept → Recoverable json saved disk) (fun _ disk => disk .tmp = some text)
      rotate disk := by
  refine safe_fileExists ?_
  cases huser : disk .user with
  | none => exact safe_pure h htmp
  | some file =>
    have hmove : ∀ disk : SettingsDisk, (kept → Recoverable json saved disk) →
        disk .tmp = some text → Safe (fun disk => kept → Recoverable json saved disk)
          (fun _ disk => disk .tmp = some text)
          (do let _ ← try_ (.rename .user .bak); pure ()) disk := by
      intro disk h htmp
      refine safe_rename h (fun file hfile => ?_) (safe_pure h htmp)
      exact safe_pure (fun hkept => (h hkept).rotate hfile) htmp
    refine safe_remove h (hmove _ (fun hkept => (h hkept).removeBak huser) htmp) (hmove _ h htmp)

/-- A commit that succeeds leaves the temp file in its place; one that fails removes it and
may bring back the backup. -/
theorem safe_commit_of {always ends : SettingsDisk → Prop} (h : always disk)
    (htmp : disk .tmp = some text)
    (hcommitted : always (Function.update (Function.update disk .tmp none) .user (some text)) ∧
      ends (Function.update (Function.update disk .tmp none) .user (some text)))
    (hremoved : always (Function.update disk .tmp none))
    (hrestored : ∀ (disk : SettingsDisk) (file : Text), always disk → disk .user = none →
      disk .bak = some file →
        always (Function.update (Function.update disk .bak none) .user (some file))) :
    Safe always (fun ok disk => ok = true → ends disk) commit disk := by
  have hrestore : ∀ disk : SettingsDisk, always disk →
      Safe always (fun ok disk => ok = true → ends disk)
        (do
          let finalExists ← fileExists .user
          if !finalExists then
            let _ ← try_ (.rename .bak .user)
          return false) disk := by
    intro disk h
    refine safe_fileExists ?_
    cases huser : disk .user with
    | some file => exact safe_pure h nofun
    | none =>
      refine safe_rename h (fun file hfile => ?_) (safe_pure h nofun)
      exact safe_pure (hrestored disk file h huser hfile) nofun
  refine safe_rename h (fun file hfile => ?_) ?_
  · obtain rfl := Option.some.inj (htmp.symm.trans hfile)
    exact safe_pure hcommitted.1 fun _ => hcommitted.2
  · exact safe_remove h (hrestore _ hremoved) (hrestore _ h)

theorem safe_commit (h : kept → Recoverable json saved disk) (htmp : disk .tmp = some text)
    (hwhole : Whole json [settings] text) (hmem : settings ∈ saved) :
    Safe (fun disk => kept → Recoverable json saved disk)
      (fun ok disk => ok = true → Recoverable json [settings] disk) commit disk := by
  have hcommitted := recoverable_committed disk hwhole
  refine safe_commit_of h htmp ⟨fun _ => hcommitted.mono (by simpa using hmem), hcommitted⟩ ?_ ?_
  · intro hkept
    exact (h hkept).setTmp nofun
  · intro disk file h huser hfile hkept
    exact (h hkept).restore huser hfile

/-- An attempt keeps what can be recovered, and one that succeeds leaves its own. -/
theorem safe_saveToDisk (hjson : json.Faithful settings)
    (h : kept → Recoverable json saved disk) :
    Safe (fun disk => kept → Recoverable json (settings :: saved) disk)
      (fun ok disk => ok = true → Recoverable json [settings] disk)
      (saveToDisk json settings) disk := by
  replace h : kept → Recoverable json (settings :: saved) disk :=
    fun hkept => (h hkept).mono (List.subset_cons_self _ _)
  have hmem : settings ∈ settings :: saved := List.mem_cons_self
  refine safe_createDirectories h ?_ (safe_pure h nofun)
  cases hdump : json.dump (settingsJson settings) with
  | none =>
    exact safe_pure h nofun
  | some text =>
    have hwritten : ∀ written, (json.parse ((text ++ utf8 "\n").take written)).isSome →
        Whole json (settings :: saved) ((text ++ utf8 "\n").take written) :=
      fun written hvalid => (whole_of_written hjson hdump written hvalid).mono (by simp)
    have hall : (text ++ utf8 "\n").take (text ++ utf8 "\n").length = text ++ utf8 "\n" :=
      List.take_length
    have hwhole : Whole json [settings] (text ++ utf8 "\n") := by
      have hvalid := whole_of_written hjson hdump (text ++ utf8 "\n").length
      rw [hall, hjson.line text hdump] at hvalid
      exact hvalid rfl
    refine safe_truncate h ?_ (safe_pure h nofun)
    have hopened : kept → Recoverable json (settings :: saved)
        (Function.update disk .tmp (some [])) := by
      refine fun hkept => (h hkept).setTmp fun file hfile hvalid => ?_
      obtain rfl := Option.some.inj hfile
      exact hwritten 0 hvalid
    refine safe_write hopened ?_ fun written => ?_
    · have hready : kept → Recoverable json (settings :: saved)
          (Function.update (Function.update disk .tmp (some [])) .tmp
            (some (text ++ utf8 "\n"))) := by
        refine fun hkept => (hopened hkept).setTmp fun file hfile _ => ?_
        obtain rfl := Option.some.inj hfile
        exact hwhole.mono (by simp)
      exact (safe_rotate hready rfl).bind fun _ disk h htmp => safe_commit h htmp hwhole hmem
    · have hcut : kept → Recoverable json (settings :: saved)
          (Function.update (Function.update disk .tmp (some [])) .tmp
            (some ((text ++ utf8 "\n").take written))) := by
        refine fun hkept => (hopened hkept).setTmp fun file hfile hvalid => ?_
        obtain rfl := Option.some.inj hfile
        exact hwritten written hvalid
      refine safe_remove hcut (safe_pure ?_ nofun) (safe_pure hcut nofun)
      exact fun hkept => (hcut hkept).setTmp nofun

/-! ## Repairing -/

theorem safe_isValidJsonFile {path : SettingsPath} (h : Recoverable json saved disk) :
    Safe (Recoverable json saved)
      (fun valid after => after = disk ∧
        (valid = true → ∃ text, disk path = some text ∧ (json.parse text).isSome))
      (isValidJsonFile json path) disk := by
  -- the file is read again where its size has been asked for
  refine (fun hrest => safe_readFile h ?size hrest) ?contents
  · split_ifs with hsize
    · exact safe_pure h ⟨rfl, Bool.false_ne_true.elim⟩
    · exact hrest
  · refine safe_readFile h ?_ (safe_pure h ⟨rfl, Bool.false_ne_true.elim⟩)
    cases hfile : disk path with
    | none => exact safe_pure h ⟨rfl, Bool.false_ne_true.elim⟩
    | some text => exact safe_pure h ⟨rfl, fun hvalid => ⟨text, rfl, hvalid⟩⟩

theorem safe_recoverFrom {wanted : Bool} {path : SettingsPath} (h : Recoverable json saved disk)
    (hmoved : wanted = true → ∀ text, disk path = some text → (json.parse text).isSome →
      Recoverable json saved
        (Function.update (Function.update disk path none) .user (some text))) :
    Safe (Recoverable json saved) (fun _ _ => True) (recoverFrom json wanted path) disk := by
  cases wanted with
  | false => exact safe_pure h trivial
  | true =>
    refine (safe_isValidJsonFile h).bind fun valid after _ hvalid => ?_
    obtain ⟨rfl, hvalid⟩ := hvalid
    cases valid with
    | false => exact safe_pure h trivial
    | true =>
      obtain ⟨text, hfile, hparse⟩ := hvalid rfl
      refine safe_rename h (fun file hfile' => ?_) (safe_pure h trivial)
      obtain rfl := Option.some.inj (hfile.symm.trans hfile')
      exact safe_pure (hmoved rfl text hfile hparse) trivial

theorem safe_removeStaleTmp {tmpExists : Bool} (h : Recoverable json saved disk) :
    Safe (Recoverable json saved) (fun _ _ => True) (removeStaleTmp tmpExists) disk := by
  cases tmpExists with
  | false => exact safe_pure h trivial
  | true => exact safe_remove h (safe_pure (h.setTmp nofun) trivial) (safe_pure h trivial)

/-- The repair loses nothing that can be recovered, also where a step of it fails. -/
theorem safe_repairUserSettingsFiles (h : Recoverable json saved disk) :
    Safe (Recoverable json saved) (fun _ _ => True) (repairUserSettingsFiles json) disk := by
  refine safe_fileExists (safe_fileExists (safe_fileExists ?_))
  have htmp : Safe (Recoverable json saved) (fun _ _ => True)
      (recoverFrom json (!(disk .user).isSome && (disk .tmp).isSome) .tmp) disk :=
    safe_recoverFrom h fun _ text hfile hvalid =>
      recoverable_committed _ (h.temp text hfile hvalid)
  refine htmp.bind fun _ disk h _ => ?_
  refine (safe_removeStaleTmp h).bind fun _ disk h _ => safe_fileExists ?_
  refine safe_recoverFrom h fun hwanted text hfile _ => h.restore ?_ hfile
  cases huser : disk .user with
  | none => rfl
  | some text => simp [huser] at hwanted

theorem safe_applySettingsFromFile {path : SettingsPath} {base : Settings}
    (h : Recoverable json saved disk) :
    Safe (Recoverable json saved) (fun _ _ => True) (applySettingsFromFile json path base)
      disk := by
  refine safe_readFile h ?_ (safe_pure h trivial)
  cases (disk path).bind json.parse with
  | none => exact safe_pure h trivial
  | some j => exact safe_pure h trivial

theorem safe_loadFromDisk (h : Recoverable json saved disk) :
    Safe (Recoverable json saved) (fun _ _ => True) (loadFromDisk json) disk := by
  refine (safe_repairUserSettingsFiles h).bind fun _ disk h _ => ?_
  refine (safe_applySettingsFromFile h).bind fun _ disk h _ => ?_
  refine (safe_applySettingsFromFile h).bind fun _ disk h _ => ?_
  exact safe_pure h trivial

/-! ## The load that goes through -/

variable (json) in
def isValid (text : Text) : Bool := text.length ≤ kMaxBytes && (json.parse text).isSome

theorem Whole.isValid (h : Whole json saved text) : isValid json text = true := by
  obtain ⟨settings, -, hparse, hsize⟩ := h
  simp [Config.isValid, hparse, hsize]

theorem finish_isValidJsonFile (path : SettingsPath) :
    (isValidJsonFile json path).finish disk = (disk, (disk path).any (isValid json)) := by
  cases hfile : disk path with
  | none => simp [isValidJsonFile, hfile]
  | some text =>
    by_cases hsize : kMaxBytes < text.length
    · simp [isValidJsonFile, isValid, hfile, hsize]
    · simp [isValidJsonFile, isValid, hfile, hsize, Nat.not_lt.mp hsize]

/-- Where the file is wanted and valid, it takes the place of settings.user.json. -/
theorem finish_recoverFrom_cases (wanted : Bool) (path : SettingsPath) :
    (∃ text, ((recoverFrom json wanted path).finish disk).1 .user = some text) ∨
      ((recoverFrom json wanted path).finish disk).1 = disk ∧
        (wanted = true → (disk path).any (isValid json) = false) := by
  cases wanted with
  | false => exact .inr ⟨rfl, nofun⟩
  | true =>
    cases hvalid : (disk path).any (isValid json) with
    | false =>
      right
      simp [recoverFrom, finish_isValidJsonFile, hvalid]
    | true =>
      left
      obtain ⟨text, hfile, htext⟩ := (Option.any_eq_true _ _).mp hvalid
      refine ⟨text, ?_⟩
      simp [recoverFrom, finish_isValidJsonFile, hfile, htext, Command.run]

theorem finish_removeStaleTmp {path : SettingsPath} (tmpExists : Bool) (h : path ≠ .tmp) :
    ((removeStaleTmp tmpExists).finish disk).1 path = disk path := by
  cases tmpExists with
  | false => rfl
  | true => exact Function.update_of_ne h _ _

/-- The repair puts a file back where there is none. -/
theorem exists_user_of_finish (h : Recoverable json saved disk) :
    ∃ text, ((repairUserSettingsFiles json).finish disk).1 .user = some text := by
  let recovered :=
    ((recoverFrom json (!(disk .user).isSome && (disk .tmp).isSome) .tmp).finish disk).1
  let cleaned := ((removeStaleTmp (disk .tmp).isSome).finish recovered).1
  have hlast : ((repairUserSettingsFiles json).finish disk).1 =
      ((recoverFrom json (!(cleaned .user).isSome && (disk .bak).isSome) .bak).finish
        cleaned).1 := by
    simp only [repairUserSettingsFiles, finish_bind, finish_fileExists]
    rfl
  rw [hlast]
  have huser : cleaned .user = recovered .user := finish_removeStaleTmp _ (by decide)
  have hbak : cleaned .bak = recovered .bak := finish_removeStaleTmp _ (by decide)
  rcases finish_recoverFrom_cases (!(cleaned .user).isSome && (disk .bak).isSome) .bak with
    hback | ⟨hsame, hinvalid⟩
  · exact hback
  · rw [hsame]
    cases hpresent : cleaned .user with
    | some text => exact ⟨text, rfl⟩
    | none =>
      -- Nothing was recovered, so the file was missing and the backup is whole.
      have hstill : recovered = disk := by
        rcases finish_recoverFrom_cases (!(disk .user).isSome && (disk .tmp).isSome) .tmp with
          ⟨text, hsome⟩ | ⟨hdisk, -⟩
        · have hrecovered : recovered .user = some text := hsome
          rw [← huser, hpresent] at hrecovered
          cases hrecovered
        · exact hdisk
      obtain ⟨backup, hbackup, hwhole⟩ :=
        h.backup (by rw [← hstill, ← huser, hpresent])
      rw [hpresent, hbak, hstill, hbackup] at hinvalid
      simp [hwhole.isValid] at hinvalid

theorem finish_applySettingsFromFile (path : SettingsPath) (base : Settings) :
    (applySettingsFromFile json path base).finish disk =
      (disk, ((disk path).bind json.parse).elim base (applyJsonToSettings · base)) := by
  cases hparse : (disk path).bind json.parse with
  | none => simp [applySettingsFromFile, hparse]
  | some j => simp [applySettingsFromFile, hparse]

/-- What the load finds is whole, and it is what it loads. -/
theorem exists_whole_of_finish (h : Recoverable json saved disk) :
    ∃ settings ∈ saved, ∃ text,
      ((loadFromDisk json).finish disk).1 .user = some text ∧
      json.parse text = some (readBack (settingsJson settings)) ∧
      (settings.clamp = settings → SameSaved ((loadFromDisk json).finish disk).2 settings) := by
  obtain ⟨text, huser⟩ := exists_user_of_finish h
  have hrepaired := (safe_repairUserSettingsFiles h).finish.1
  obtain ⟨settings, hmem, hparse, -⟩ := hrepaired.user text huser
  refine ⟨settings, hmem, text, ?_, hparse, fun hclamped => ?_⟩
  · simp [loadFromDisk, finish_applySettingsFromFile, huser]
  · have hloaded := sameSaved_clamp
      ((((repairUserSettingsFiles json).finish disk).1 .settings |>.bind json.parse).elim {}
        (applyJsonToSettings · {})) hclamped
    simpa [loadFromDisk, finish_applySettingsFromFile, huser, hparse] using hloaded

end

/-! ## Any sequence of attempts -/

/-- What the program does to the files: an attempt to save, or the load at its start. -/
inductive Operation
  | save (settings : Settings) (outcomes : List Outcome)
  | load (outcomes : List Outcome)

def Operation.run (json : Nlohmann) (disk : SettingsDisk) : Operation → SettingsDisk
  | .save settings outcomes => ((saveToDisk json settings).run outcomes disk).1
  | .load outcomes => ((loadFromDisk json).run outcomes disk).1

def attempted : List Operation → List Settings
  | [] => []
  | .save settings _ :: later => settings :: attempted later
  | .load _ :: later => attempted later

theorem recoverable_run {json : Nlohmann} {later : List Operation} {saved : List Settings}
    {disk : SettingsDisk} (hjson : ∀ settings ∈ attempted later, json.Faithful settings)
    (h : Recoverable json saved disk) :
    Recoverable json (saved ++ attempted later) (later.foldl (Operation.run json) disk) := by
  induction later generalizing saved disk with
  | nil => exact h.mono (List.subset_append_left _ _)
  | cons operation later ih =>
    cases operation with
    | save settings outcomes =>
      have hsave := safe_saveToDisk (hjson settings List.mem_cons_self) fun _ : True => h
      have hstep : Recoverable json (settings :: saved)
          ((saveToDisk json settings).run outcomes disk).1 := (hsave.run outcomes).1 trivial
      have hrest := ih (fun s hs => hjson s (List.mem_cons_of_mem _ hs)) hstep
      refine hrest.mono fun s hs => ?_
      simp only [attempted, List.mem_append, List.mem_cons] at hs ⊢
      tauto
    | load outcomes => exact ih hjson ((safe_loadFromDisk h).run outcomes).1

/-- Settings that have been saved survive: from whatever disk a save has succeeded, after
any attempts and loads that may fail or stop at any step, a load that goes through finds
the complete document of these settings or of settings attempted since, and loads it. -/
theorem settings_survive {json : Nlohmann} {disk : SettingsDisk} {settings : Settings}
    {outcomes : List Outcome} {later : List Operation}
    (hjson : ∀ s ∈ settings :: attempted later, json.Faithful s)
    (hsaved : ((saveToDisk json settings).run outcomes disk).2 = some true) :
    let left := later.foldl (Operation.run json) ((saveToDisk json settings).run outcomes disk).1
    ∃ found ∈ settings :: attempted later, ∃ text,
      ((loadFromDisk json).finish left).1 .user = some text ∧
      json.parse text = some (readBack (settingsJson found)) ∧
      (found.clamp = found → SameSaved ((loadFromDisk json).finish left).2 found) := by
  have hsave : Safe _ (fun ok disk => ok = true → Recoverable json [settings] disk)
      (saveToDisk json settings) disk :=
    safe_saveToDisk (hjson settings List.mem_cons_self)
      fun hnot : False => (hnot.elim : Recoverable json [] disk)
  have hcommitted : Recoverable json [settings] ((saveToDisk json settings).run outcomes disk).1 :=
    (hsave.run outcomes).2 true hsaved rfl
  exact exists_whole_of_finish
    (recoverable_run (fun s hs => hjson s (List.mem_cons_of_mem _ hs)) hcommitted)

/-! A save of the defaults succeeds; the next stops between the rotation and the commit,
and the load after it stops at once. -/

/-- The defaults as `dump(2)` writes them. -/
def defaultsText : Text :=
  utf8 "\x7b\n  \"hotkey\": \x7b\n    \"toggleKeyCode\": 62\n  \x7d,\n  \"language\": \"auto\",\n"
  ++ utf8 "  \"lootNotify\": \x7b\n    \"enabled\": true\n  \x7d,\n"
  ++ utf8 "  \"registration\": \x7b\n    \"normalize\": false,\n"
  ++ utf8 "    \"requireTccDisplayed\": false\n  \x7d,\n"
  ++ utf8 "  \"safety\": \x7b\n    \"protectFavorites\": true\n  \x7d,\n"
  ++ utf8 "  \"ui\": \x7b\n    \"destroyOnClose\": true,\n    \"disableFocusMenu\": false,\n"
  ++ utf8 "    \"inputScale\": 1.0,\n    \"pauseGame\": true\n  \x7d,\n  \"version\": 2\n\x7d"

/-- A library that knows one text, that of one document. -/
def oneText (text : Text) (settings : Settings) : Nlohmann where
  dump _ := some text
  parse t :=
    if t = text ∨ t = text ++ utf8 "\n" then some (readBack (settingsJson settings)) else none

theorem faithful_oneText {text : Text} (settings : Settings) (h : text.length < kMaxBytes) :
    (oneText text settings).Faithful settings where
  whole _ htext := by
    obtain rfl := Option.some.inj htext
    exact if_pos (.inl rfl)
  line _ htext := by
    obtain rfl := Option.some.inj htext
    exact if_pos (.inr rfl)
  cut _ htext written hlt := by
    obtain rfl := Option.some.inj htext
    refine if_neg fun heq => ?_
    rcases heq with heq | heq
    · have hlength := congrArg List.length heq
      rw [List.length_take] at hlength
      omega
    · have hlength := congrArg List.length heq
      rw [List.length_take, List.length_append] at hlength
      omega
  tiny _ htext := by
    obtain rfl := Option.some.inj htext
    exact h

theorem saveToDisk_oneText (text : Text) (settings : Settings) :
    ((saveToDisk (oneText text settings) settings).run (List.replicate 4 .done)
      fun _ => none).2 = some true := rfl

theorem settings_survive_defaults :
    let json := oneText defaultsText {}
    let saved := (saveToDisk json {}).run (List.replicate 4 .done) fun _ => none
    let later := [.save {} (List.replicate 5 .done), .load []]
    let left := later.foldl (Operation.run json) saved.1
    saved.2 = some true ∧
    ∃ found ∈ ({} : Settings) :: attempted later, ∃ text,
      ((loadFromDisk json).finish left).1 .user = some text ∧
      json.parse text = some (readBack (settingsJson found)) ∧
      (found.clamp = found → SameSaved ((loadFromDisk json).finish left).2 found) := by
  have hsmall : defaultsText.length < kMaxBytes := by decide +kernel
  have hjson : ∀ s ∈ [({} : Settings), {}], (oneText defaultsText {}).Faithful s := by
    simpa using faithful_oneText {} hsmall
  have hsaved := saveToDisk_oneText defaultsText {}
  exact ⟨hsaved, settings_survive hjson hsaved⟩

end Config

end CodexOfPower
