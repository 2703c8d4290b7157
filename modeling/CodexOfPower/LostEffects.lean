/-
# `CodexOfPower.LostEffects` — effects of actor values the reader does not know

An option whose effect key is not in the reader's table moves some actor value that
the reader skips.  Its total is never lost in the ledger itself: every amount for
such an actor value has one sign and is well above the epsilon, and adding amounts
of one sign keeps it there.  So the entry is written, and not read back.
-/
import CodexOfPower.StoredEffects

namespace CodexOfPower.Serialization

open RE Builds Rewards Binary32
open Float.Model.UnpackedFloat (Sign)

/-! ## Amounts that are not divided -/

def Plain (amount : Float32) (entries : List (ActorValue × Float32)) : Prop :=
  ∀ entry ∈ entries, isSupportedBuildEffectActorValue entry.1.raw = true ∨ entry.2 = amount

theorem plain_ite {amount : Float32} {c : Prop} [Decidable c]
    {entries entries' : List (ActorValue × Float32)} (h : Plain amount entries)
    (h' : Plain amount entries') : Plain amount (if c then entries else entries') := by
  split_ifs
  · exact h
  · exact h'

theorem plain_resolveActorValueKey (effectKey : Text) (amount : Float32) :
    Plain amount (resolveActorValueKey effectKey amount) := by
  unfold resolveActorValueKey
  repeat' refine plain_ite ?_ ?_
  all_goals simp [Plain]
  all_goals exact .inl (by decide)

theorem carryWeight_supported :
    ¬ isSupportedBuildEffectActorValue ActorValue.kCarryWeight.raw = false := by
  decide

theorem speechcraftModifier_supported :
    ¬ isSupportedBuildEffectActorValue ActorValue.kSpeechcraftModifier.raw = false := by
  decide

theorem eq_float_of_mem_deltas {effectType : BuildEffectType} {effectKey : Text}
    {magnitude : BuildMagnitude Float32} {entry : ActorValue × Float32}
    (hentry : entry ∈ resolveActorValueDeltas effectType effectKey magnitude)
    (hav : isSupportedBuildEffectActorValue entry.1.raw = false) :
    magnitude = .float entry.2 := by
  cases effectType with
  | ActorValue =>
    cases magnitude with
    | float amount =>
      rcases plain_resolveActorValueKey effectKey amount entry hentry with hknown | hsame
      · rw [hav] at hknown
        cases hknown
      · rw [hsame]
    | int32 amount => cases hentry
  | CarryWeight =>
    cases magnitude with
    | float amount =>
      simp only [resolveActorValueDeltas, toFloatMagnitude] at hentry
      split_ifs at hentry
      · cases hentry
      · rw [List.mem_singleton] at hentry
        rw [hentry] at hav
        exact absurd hav carryWeight_supported
    | int32 amount => cases hentry
  | Economy =>
    cases magnitude with
    | float amount => cases hentry
    | int32 amount =>
      simp only [resolveActorValueDeltas, toIntMagnitude] at hentry
      split_ifs at hentry
      · cases hentry
      · rw [List.mem_singleton] at hentry
        rw [hentry] at hav
        exact absurd hav speechcraftModifier_supported
  | UtilityFlag => cases hentry

/-! ## The sizes in the catalog -/

/-- Shout recovery falls, everything else rises. -/
def signFor (av : ActorValue) : Sign :=
  if av = .kShoutRecoveryMult then .negative else .positive

def optionSign (option : BuildOptionDef Float32) : Sign :=
  if option.effectKey = utf8 "shout_recovery_mult" then .negative else .positive

/-- A constant of this sign, at least so large and not above 1024. -/
def isConstant (s : Sign) (low : ℚ) (x : Float32) : Bool :=
  (constant? x).any fun c => c.1 = s && low ≤ c.2 && c.2 ≤ 1024

theorem isVal_of_isConstant {s : Sign} {low : ℚ} {x : Float32} (h : isConstant s low x = true) :
    ∃ v, IsVal s x v ∧ low ≤ v ∧ v ≤ 1024 := by
  unfold isConstant at h
  cases hx : constant? x with
  | none =>
    rw [hx] at h
    cases h
  | some c =>
    obtain ⟨s', v⟩ := c
    rw [hx] at h
    simp only [Option.any_some, Bool.and_eq_true, decide_eq_true_eq] at h
    obtain ⟨⟨rfl, hlow⟩, hhigh⟩ := h
    exact ⟨v, isVal_of_constant hx, hlow, hhigh⟩

/-- The magnitudes of an option, where they are floats. -/
def magnitudesInBounds (option : BuildOptionDef Float32) : Bool :=
  match option.magnitude, option.magnitudePerTier with
  | .float base, .float step =>
    isConstant (optionSign option) (1 / 256) base && isConstant (optionSign option) (1 / 1024) step
  | .int32 _, .int32 _ => true
  | _, _ => false

/-- The second part of each bundle: a base and a step. -/
def secondParts : List (Float32 × Float32) := [(0.04, 0.02), (0.02, 0.01), (2.0, 1.0), (4.0, 1.0)]

theorem catalogInBounds :
    (∀ option ∈ getBuildOptionCatalog (F := Float32), magnitudesInBounds option = true ∧
      ∀ av ∈ (optionEntries option 0).map Prod.fst, signFor av = optionSign option) ∧
    ∀ second ∈ secondParts, isConstant .positive (1 / 256) second.1 = true ∧
      isConstant .positive (1 / 1024) second.2 = true := by
  decide +kernel

/-- An amount of this sign and of a size that neither vanishes nor overflows. -/
def Sizable (s : Sign) (amount : Float32) : Prop :=
  ∃ v, IsVal s amount v ∧ 1 / 257 ≤ v ∧ v ≤ 2 ^ 34

theorem sizable_scaled {s : Sign} {base step : Float32} (hbase : isConstant s (1 / 256) base = true)
    (hstep : isConstant s (1 / 1024) step = true) (pointsCenti : BuildPointCenti) :
    Sizable s (base + step * FloatType.ofUInt32 (getBuildPointsTier pointsCenti)) := by
  obtain ⟨b, hb, hb₁, hb₂⟩ := isVal_of_isConstant hbase
  obtain ⟨p, hp, hp₁, hp₂⟩ := isVal_of_isConstant hstep
  obtain ⟨r, hr, hclose, hle⟩ := isVal_scaled hb hp hb₂ hp₁ hp₂ pointsCenti
  have hexact := le_exactAmount b p pointsCenti (by linarith)
  have hlower := hclose.lower
  rw [← exactAmount] at hlower
  exact ⟨r, hr, by linarith, hle⟩

/-- A part has the magnitude of the option or is the second one of a bundle. -/
theorem magnitude_of_mem_bundle {option : BuildOptionDef Float32} {pointsCenti : BuildPointCenti}
    {part : BuildResolvedEffectPart Float32}
    (hpart : part ∈ getResolvedBuildEffectBundle option pointsCenti) :
    part.magnitude = getScaledBuildMagnitude option pointsCenti ∨
      option.effectKey ≠ utf8 "shout_recovery_mult" ∧ ∃ second ∈ secondParts,
        part.magnitude = .float (scaleFloatMagnitude second.1 second.2 pointsCenti) := by
  unfold getResolvedBuildEffectBundle at hpart
  split_ifs at hpart with hreserve hwell hmeditation hhauler
  · rw [hreserve]
    rcases List.mem_pair.mp hpart with rfl | rfl
    · exact .inl rfl
    · exact .inr ⟨by decide, (0.04, 0.02), by simp [secondParts], rfl⟩
  · rw [hwell]
    rcases List.mem_pair.mp hpart with rfl | rfl
    · exact .inl rfl
    · exact .inr ⟨by decide, (0.02, 0.01), by simp [secondParts], rfl⟩
  · rw [hmeditation]
    rcases List.mem_pair.mp hpart with rfl | rfl
    · exact .inl rfl
    · exact .inr ⟨by decide, (2.0, 1.0), by simp [secondParts], rfl⟩
  · rw [hhauler]
    rcases List.mem_pair.mp hpart with rfl | rfl
    · exact .inl rfl
    · exact .inr ⟨by decide, (4.0, 1.0), by simp [secondParts], rfl⟩
  · rw [makeSingleEffectBundle, List.mem_singleton] at hpart
    exact .inl (by rw [hpart])

theorem sizable_of_mem_bundle {option : BuildOptionDef Float32}
    (hoption : option ∈ getBuildOptionCatalog (F := Float32)) {pointsCenti : BuildPointCenti}
    {part : BuildResolvedEffectPart Float32}
    (hpart : part ∈ getResolvedBuildEffectBundle option pointsCenti) {amount : Float32}
    (hmagnitude : part.magnitude = .float amount) : Sizable (optionSign option) amount := by
  rcases magnitude_of_mem_bundle hpart with hprimary | ⟨hkey, second, hsecond, heq⟩
  · have hbounds := (catalogInBounds.1 option hoption).1
    rw [hmagnitude] at hprimary
    unfold magnitudesInBounds at hbounds
    unfold getScaledBuildMagnitude at hprimary
    split at hbounds
    · rename_i base step hbase hstep
      rw [hbase, hstep] at hprimary
      cases hprimary
      rw [Bool.and_eq_true] at hbounds
      exact sizable_scaled hbounds.1 hbounds.2 pointsCenti
    · rename_i base step hbase hstep
      rw [hbase, hstep] at hprimary
      cases hprimary
    · cases hbounds
  · rw [hmagnitude] at heq
    cases heq
    have hsign : optionSign option = .positive := if_neg hkey
    obtain ⟨hbase, hstep⟩ := catalogInBounds.2 second hsecond
    rw [hsign]
    exact sizable_scaled hbase hstep pointsCenti

theorem sizable_of_mem_optionEntries {option : BuildOptionDef Float32}
    (hoption : option ∈ getBuildOptionCatalog (F := Float32)) {pointsCenti : BuildPointCenti}
    {entry : ActorValue × Float32} (hentry : entry ∈ optionEntries option pointsCenti)
    (hav : isSupportedBuildEffectActorValue entry.1.raw = false) :
    Sizable (signFor entry.1) entry.2 := by
  have hmem : entry.1 ∈ (optionEntries option 0).map Prod.fst := by
    rw [actorValues_option option 0 pointsCenti]
    exact List.mem_map_of_mem hentry
  obtain ⟨part, hpart, hdelta⟩ := List.mem_flatMap.mp hentry
  rw [(catalogInBounds.1 option hoption).2 _ hmem]
  exact sizable_of_mem_bundle hoption hpart (eq_float_of_mem_deltas hdelta hav)

end CodexOfPower.Serialization
