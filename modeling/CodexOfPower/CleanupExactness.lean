/-
# `CodexOfPower.CleanupExactness` — what is left of the legacy rewards

Loading brings a legacy total under its cap without a change to the player.  The
normalisation before the cleanup, which would take the excess from the player, then
finds nothing to do, and the cleanup subtracts what was loaded.  In exact arithmetic
the player keeps the part over the cap, and nothing else of more than 0.001
(`legacy_rewards_removed_iff`).

## What is not said

The arithmetic is exact.  In single precision a cleanup can also leave what the subtraction
rounds off, and no bound is given for that.  The player is the one of the co-save: his
permanent modifier is what the file says of each total, and nothing else is in it.
-/
import CodexOfPower.LegacyCleanup
import CodexOfPower.SerializationDecode
import Mathlib.Tactic.Linarith

namespace CodexOfPower

open RE Builds BuildProgression Serialization SerializationStateStore Rewards

/-! ## Totals under their caps -/

section Settled
variable {F : Type} [FloatType F] {totals : UnorderedMap ActorValue F}

/-- No total is over its cap. -/
def UnderCaps (totals : UnorderedMap ActorValue F) : Prop :=
  ∀ av total, totals.lookup av = some total →
    FloatType.abs (clampRewardTotal av total - total) ≤ kRewardCapEpsilon

/-- Where no total is over its cap there is nothing to normalise, neither in the totals nor on
the player. -/
theorem normalizeRewardCaps_of_underCaps (h : UnderCaps totals) (player : ActorValues F) :
    normalizeRewardCapsOnStateAndPlayer totals player = (totals, player) := by
  have hentry : ∀ entry ∈ totals.toPairs,
      FloatType.abs (clampRewardTotal entry.1 entry.2 - entry.2) ≤ kRewardCapEpsilon :=
    fun entry hmem => h entry.1 entry.2 (UnorderedMap.mem_toPairs.mp hmem)
  have hadjustments : capAdjustments totals = [] := by
    refine List.filterMap_eq_nil_iff.mpr fun entry hmem => ?_
    exact if_pos (hentry entry hmem)
  have hclamped : RewardStateStore.clampAll totals = totals := by
    have hloop : ∀ entries : List (ActorValue × F), (∀ entry ∈ entries,
        FloatType.abs (clampRewardTotal entry.1 entry.2 - entry.2) ≤ kRewardCapEpsilon) →
        ∀ m : UnorderedMap ActorValue F, entries.foldl
          (fun (totals : UnorderedMap ActorValue F) entry =>
            let clamped := clampRewardTotal entry.1 entry.2
            if FloatType.abs (clamped - entry.2) ≤ kRewardCapEpsilon then totals
            else if FloatType.abs clamped ≤ kRewardCapEpsilon then totals.erase entry.1
            else totals.insert entry.1 clamped) m = m := by
      intro entries
      induction entries with
      | nil => exact fun _ m => rfl
      | cons entry entries ih =>
        intro hentries m
        rw [List.foldl_cons, if_pos (hentries entry List.mem_cons_self)]
        exact ih (fun e he => hentries e (List.mem_cons_of_mem _ he)) m
    exact hloop _ hentry totals
  rw [normalizeRewardCapsOnStateAndPlayer, hadjustments, hclamped]
  rfl

/-- What a cleanup that succeeds subtracts where no total is over its cap. -/
theorem player_cleanup_of_underCaps (h : UnderCaps totals) {available : Bool}
    {player : ActorValues F}
    (hsucceeded : (cleanupLegacyRewardTotals available totals player).succeeded = true) :
    (cleanupLegacyRewardTotals available totals player).player =
      subtractTotals (snapshotAppliedTotals totals) player := by
  unfold cleanupLegacyRewardTotals at hsucceeded ⊢
  split_ifs at hsucceeded ⊢ with hempty
  · rw [hempty]
    rfl
  · rw [normalizeRewardCaps_of_underCaps h]

end Settled

/-! ## Subtracting, in exact arithmetic -/

section Exact
variable {totals : UnorderedMap ActorValue ℚ} {entries : List (ActorValue × ℚ)}
  {player : ActorValues ℚ} {av : ActorValue} {total : ℚ}

theorem subtractTotals_of_notMem (h : av ∉ entries.map Prod.fst) :
    (subtractTotals entries player).permanentModifier av = player.permanentModifier av := by
  induction entries generalizing player with
  | nil => rfl
  | cons entry entries ih =>
    rw [List.map_cons, List.mem_cons, not_or] at h
    have hstep : subtractTotals (entry :: entries) player =
        subtractTotals entries (player.restoreActorValue entry.1 (-entry.2)) := rfl
    rw [hstep, ih h.2]
    exact Function.update_of_ne h.1 _ _

theorem subtractTotals_of_mem (hnodup : (entries.map Prod.fst).Nodup)
    (h : (av, total) ∈ entries) :
    (subtractTotals entries player).permanentModifier av =
      player.permanentModifier av - total := by
  induction entries generalizing player with
  | nil => cases h
  | cons entry entries ih =>
    rw [List.map_cons, List.nodup_cons] at hnodup
    have hstep : subtractTotals (entry :: entries) player =
        subtractTotals entries (player.restoreActorValue entry.1 (-entry.2)) := rfl
    rw [hstep]
    rcases List.mem_cons.mp h with rfl | h
    · rw [subtractTotals_of_notMem hnodup.1]
      exact (Function.update_self _ _ _).trans (sub_eq_add_neg _ _).symm
    · have hav : av ≠ entry.1 := by
        rintro rfl
        exact hnodup.1 (List.mem_map.mpr ⟨_, h, rfl⟩)
      rw [ih hnodup.2 h]
      exact congrArg (· - total) (Function.update_of_ne hav _ _)

theorem clampRewardTotal_rat (av : ActorValue) (total : ℚ) :
    clampRewardTotal av total =
      (tryGetRewardCap av).elim total fun cap =>
        if cap + 1 / 1000 < total then cap else total := by
  rw [← kRewardCapEpsilon_rat]
  cases h : tryGetRewardCap (F := ℚ) av with
  | none => simp [clampRewardTotal, h, FloatType.isFinite]
  | some cap => simp [clampRewardTotal, h, FloatType.isFinite]

theorem lt_of_tryGetRewardCap {cap : ℚ} (h : tryGetRewardCap av = some cap) : 1 / 1000 < cap := by
  have hcaps : ∀ cap ∈ [(1.0 : ℚ), 50.0, 85.0, 80.0, 0.50], 1 / 1000 < cap := by
    simp only [List.forall_mem_cons, List.not_mem_nil, IsEmpty.forall_iff, implies_true]
    norm_num
  refine hcaps cap ?_
  unfold tryGetRewardCap at h
  split_ifs at h <;> cases h <;> simp

/-- A total is left as it is unless it is over its cap by more than the epsilon. -/
theorem clampRewardTotal_eq_self_iff_rat :
    clampRewardTotal av total = total ↔
      ∀ cap, tryGetRewardCap av = some cap → total ≤ cap + 1 / 1000 := by
  rw [clampRewardTotal_rat]
  cases h : tryGetRewardCap (F := ℚ) av with
  | none => simp
  | some cap =>
    simp only [Option.elim_some, Option.some.injEq, forall_eq']
    constructor
    · intro hclamp
      split_ifs at hclamp with hover
      · linarith
      · exact not_lt.mp hover
    · intro hunder
      exact if_neg (not_lt.mpr hunder)

theorem clampRewardTotal_idem_rat (av : ActorValue) (total : ℚ) :
    clampRewardTotal av (clampRewardTotal av total) = clampRewardTotal av total := by
  rw [clampRewardTotal_eq_self_iff_rat]
  intro cap hcap
  rw [clampRewardTotal_rat, hcap, Option.elim_some]
  split_ifs with hover
  · linarith
  · exact not_lt.mp hover

/-- The totals of a file, after the load. -/
def loadedTotals (saved : UnorderedMap ActorValue ℚ) : UnorderedMap ActorValue ℚ :=
  UnorderedMap.insertAll (keptTotals isSupportedRewardActorValue saved.toPairs) ∅

theorem lookup_loadedTotals (hlookup : totals.lookup av = some total)
    (hsupported : isSupportedRewardActorValue av.raw = true) :
    (loadedTotals totals).lookup av = some (clampRewardTotal av total) :=
  lookup_keptTotals.mpr ⟨hsupported, total, hlookup, rfl⟩

theorem underCaps_loadedTotals : UnderCaps (loadedTotals totals) := by
  intro av total hlookup
  obtain ⟨-, saved, -, rfl⟩ := lookup_keptTotals.mp hlookup
  rw [clampRewardTotal_idem_rat, sub_self]
  show |(0 : ℚ)| ≤ kRewardCapEpsilon
  rw [kRewardCapEpsilon_rat]
  norm_num

theorem actorAppliedRewardTotal_of_not_skill (hskill : isSkillActorValue av = false) (total : ℚ) :
    actorAppliedRewardTotal av (clampRewardTotal av total) = clampRewardTotal av total := by
  simp only [actorAppliedRewardTotal, hskill, clampRewardTotal_idem_rat]
  rfl

theorem mem_snapshotAppliedTotals {x : ℚ} :
    (av, x) ∈ snapshotAppliedTotals totals ↔
      ∃ total, totals.lookup av = some total ∧
        actorAppliedRewardTotal av (clampRewardTotal av total) = x ∧ 1 / 1000 < |x| := by
  rw [← kRewardCapEpsilon_rat]
  constructor
  · intro h
    obtain ⟨⟨av', total⟩, hmem, hentry⟩ := List.mem_filterMap.mp h
    dsimp only at hentry
    split_ifs at hentry with hvisible
    obtain ⟨rfl, rfl⟩ := Prod.mk.inj (Option.some.inj hentry)
    exact ⟨total, UnorderedMap.mem_toPairs.mp hmem, rfl, hvisible⟩
  · rintro ⟨total, hlookup, rfl, hvisible⟩
    exact List.mem_filterMap.mpr
      ⟨(av, total), UnorderedMap.mem_toPairs.mpr hlookup, if_pos hvisible⟩

theorem nodup_fst_snapshotAppliedTotals :
    ((snapshotAppliedTotals totals).map Prod.fst).Nodup := by
  have hsublist : ∀ entries : List (ActorValue × ℚ),
      ((entries.filterMap fun (av, total) =>
        let applied := actorAppliedRewardTotal av (clampRewardTotal av total)
        if kRewardCapEpsilon < FloatType.abs applied then some (av, applied) else none).map
          Prod.fst).Sublist (entries.map Prod.fst) := by
    intro entries
    induction entries with
    | nil => exact List.Sublist.slnil
    | cons entry entries ih =>
      rw [List.filterMap_cons]
      dsimp only
      split_ifs
      · exact ih.cons_cons _
      · exact ih.cons _
  exact totals.nodup_fst_toPairs.sublist (hsublist _)

/-- What the cleanup leaves of a total that was saved. -/
theorem permanentModifier_cleanup {available : Bool}
    (hsucceeded : (cleanupLegacyRewardTotals available (loadedTotals totals) player).succeeded =
      true)
    (hlookup : totals.lookup av = some total)
    (hsupported : isSupportedRewardActorValue av.raw = true)
    (hskill : isSkillActorValue av = false) :
    (cleanupLegacyRewardTotals available (loadedTotals totals)
        player).player.permanentModifier av =
      player.permanentModifier av -
        if 1 / 1000 < |clampRewardTotal av total| then clampRewardTotal av total else 0 := by
  rw [player_cleanup_of_underCaps underCaps_loadedTotals hsucceeded]
  have hloaded := lookup_loadedTotals hlookup hsupported
  have happlied : actorAppliedRewardTotal av (clampRewardTotal av (clampRewardTotal av total)) =
      clampRewardTotal av total := by
    rw [actorAppliedRewardTotal_of_not_skill hskill, clampRewardTotal_idem_rat]
  split_ifs with hvisible
  · exact subtractTotals_of_mem nodup_fst_snapshotAppliedTotals
      (mem_snapshotAppliedTotals.mpr ⟨_, hloaded, happlied, hvisible⟩)
  · rw [sub_zero]
    refine subtractTotals_of_notMem fun hmem => hvisible ?_
    obtain ⟨⟨av', x⟩, hentry, hav⟩ := List.mem_map.mp hmem
    obtain rfl : av' = av := hav
    obtain ⟨total', hlookup', hx, hlarge⟩ := mem_snapshotAppliedTotals.mp hentry
    have hsame : clampRewardTotal av' total = total' :=
      Option.some.inj (hloaded.symm.trans hlookup')
    rw [← hsame, happlied] at hx
    rwa [hx]

/-- What the cleanup leaves is negligible exactly if the total was not over its cap. -/
theorem abs_left_le_iff :
    |total - if 1 / 1000 < |clampRewardTotal av total| then clampRewardTotal av total else 0|
        ≤ 1 / 1000 ↔
      ∀ cap, tryGetRewardCap av = some cap → total ≤ cap + 1 / 1000 := by
  rw [← clampRewardTotal_eq_self_iff_rat]
  constructor
  · intro hsmall
    rw [clampRewardTotal_eq_self_iff_rat]
    intro cap hcap
    by_contra hover
    rw [not_le] at hover
    have hclamped : clampRewardTotal av total = cap := by
      rw [clampRewardTotal_rat, hcap, Option.elim_some, if_pos hover]
    have hvisible : 1 / 1000 < |cap| := (lt_of_tryGetRewardCap hcap).trans_le (le_abs_self cap)
    rw [hclamped, if_pos hvisible] at hsmall
    linarith [le_abs_self (total - cap)]
  · intro hsame
    rw [hsame]
    split_ifs with hvisible
    · rw [sub_self, abs_zero]
      norm_num
    · rw [sub_zero]
      exact not_lt.mp hvisible

/-! ## The whole migration -/

/-- After `Load` of a co-save that held this, with the player as saved. -/
def loadLegacy (lookupFormType : FormTypeLookup) (saved : Snapshot ℚ) (player : ActorValues ℚ) :
    Character ℚ where
  state := normalizeLoadedSnapshot lookupFormType none
    { saved with rewardTotals := loadedTotals saved.rewardTotals }
  player := player

variable {saved : Snapshot ℚ} {lookupFormType lookupFormType' : FormTypeLookup}

/-- The load leaves a migration that is pending as long as there are totals. -/
theorem state_loadLegacy (lookupFormType : FormTypeLookup) (player : ActorValues ℚ)
    (hversion : saved.buildMigrationVersion < kBuildMigrationVersion) :
    kBuildMigrationVersion ≤
        (loadLegacy lookupFormType saved player).state.buildMigrationVersion ∧
      (loadLegacy lookupFormType saved player).state.rewardTotals =
        loadedTotals saved.rewardTotals ∧
      (loadLegacy lookupFormType saved player).state.buildMigrationState =
        if (loadedTotals saved.rewardTotals).size ≠ 0 then .kPendingCleanup else .kComplete := by
  have hold : ({ saved with rewardTotals := loadedTotals saved.rewardTotals } :
      Snapshot ℚ).buildMigrationVersion < kBuildMigrationVersion := hversion
  have hmigrated : Migrated lookupFormType none _
      (loadLegacy lookupFormType saved player).state := normalize_of_old hold
  refine ⟨?_, hmigrated.rewardTotals, state_normalize_of_old hold⟩
  rw [hmigrated.buildMigrationVersion]
  exact UInt32.le_refl _

/-- A pass that completes the migration does to the player what the cleanup does. -/
theorem player_process_loadLegacy
    (hversion : saved.buildMigrationVersion < kBuildMigrationVersion)
    (htotals : (loadedTotals saved.rewardTotals).size ≠ 0) {available : Bool}
    (hcomplete : ((loadLegacy lookupFormType saved player).process lookupFormType'
      available).state.buildMigrationState = .kComplete) :
    (cleanupLegacyRewardTotals available (loadedTotals saved.rewardTotals) player).succeeded =
        true ∧
      ((loadLegacy lookupFormType saved player).process lookupFormType' available).player =
        (cleanupLegacyRewardTotals available (loadedTotals saved.rewardTotals) player).player := by
  obtain ⟨hcurrent, hrewards, hpending⟩ :=
    state_loadLegacy lookupFormType player hversion
  rw [if_pos htotals] at hpending
  obtain ⟨hplayer, hstate⟩ := Character.process_pending lookupFormType' available hcurrent
    hpending (by rw [hrewards]; exact htotals)
  have hcleanup : (loadLegacy lookupFormType saved player).cleanup available =
      cleanupLegacyRewardTotals available (loadedTotals saved.rewardTotals) player := by
    unfold Character.cleanup
    rw [hrewards]
    rfl
  rw [hcleanup] at hplayer hstate
  refine ⟨?_, hplayer⟩
  rw [hstate, consumeMigrationNotice_frame] at hcomplete
  cases hsucceeded : (cleanupLegacyRewardTotals available (loadedTotals saved.rewardTotals)
      player).succeeded with
  | true => rfl
  | false =>
    rw [hsucceeded] at hcomplete
    have hstill : (loadLegacy lookupFormType saved player).state.buildMigrationState =
      .kComplete := hcomplete
    rw [hpending] at hstill
    cases hstill

/-- What a completed migration leaves on the player's permanent modifier. -/
theorem permanentModifier_process_loadLegacy
    (hversion : saved.buildMigrationVersion < kBuildMigrationVersion) {available : Bool}
    (hcomplete : ((loadLegacy lookupFormType saved player).process lookupFormType'
      available).state.buildMigrationState = .kComplete)
    (hlookup : saved.rewardTotals.lookup av = some total)
    (hsupported : isSupportedRewardActorValue av.raw = true)
    (hskill : isSkillActorValue av = false) :
    ((loadLegacy lookupFormType saved player).process lookupFormType'
        available).player.permanentModifier av =
      player.permanentModifier av -
        if 1 / 1000 < |clampRewardTotal av total| then clampRewardTotal av total else 0 := by
  have htotals := UnorderedMap.size_ne_zero_of_lookup (lookup_loadedTotals hlookup hsupported)
  obtain ⟨hsucceeded, hplayer⟩ := player_process_loadLegacy hversion htotals hcomplete
  rw [hplayer, permanentModifier_cleanup hsucceeded hlookup hsupported hskill]

/-- With the player there, the pass after the load completes the migration. -/
theorem complete_process_loadLegacy
    (hversion : saved.buildMigrationVersion < kBuildMigrationVersion) :
    ((loadLegacy lookupFormType saved player).process lookupFormType'
      true).state.buildMigrationState = .kComplete := by
  obtain ⟨hcurrent, hrewards, hstate⟩ :=
    state_loadLegacy lookupFormType player hversion
  by_cases htotals : (loadedTotals saved.rewardTotals).size ≠ 0
  · rw [if_pos htotals] at hstate
    have hprocess : ((loadLegacy lookupFormType saved player).process lookupFormType'
        true).state = _ :=
      (Character.process_pending lookupFormType' true hcurrent hstate
        (by rw [hrewards]; exact htotals)).2
    have hsucceeded : ((loadLegacy lookupFormType saved player).cleanup true).succeeded = true :=
      succeeded_of_available _ _
    rw [hprocess, consumeMigrationNotice_frame, if_pos hsucceeded]
    rfl
  · rw [if_neg htotals] at hstate
    have hprocess : ((loadLegacy lookupFormType saved player).process lookupFormType'
      true).state = _ := process_of_complete hcurrent hstate
    rw [hprocess, consumeMigrationNotice_frame]
    exact hstate

/-- The legacy rewards are gone from the player after a migration that has completed
exactly if no total was over its cap: of such a total the excess stays. -/
theorem legacy_rewards_removed_iff
    (hversion : saved.buildMigrationVersion < kBuildMigrationVersion)
    (hsupported : ∀ av ∈ saved.rewardTotals,
      isSupportedRewardActorValue av.raw = true ∧ isSkillActorValue av = false)
    (happlied : ∀ av total, saved.rewardTotals.lookup av = some total →
      player.permanentModifier av = total) {available : Bool}
    (hcomplete : ((loadLegacy lookupFormType saved player).process lookupFormType'
      available).state.buildMigrationState = .kComplete) :
    (∀ av ∈ saved.rewardTotals,
        |((loadLegacy lookupFormType saved player).process lookupFormType'
          available).player.permanentModifier av| ≤ 1 / 1000) ↔
      ∀ av total cap, saved.rewardTotals.lookup av = some total →
        tryGetRewardCap av = some cap → total ≤ cap + 1 / 1000 := by
  have hleft : ∀ av total, saved.rewardTotals.lookup av = some total →
      ((loadLegacy lookupFormType saved player).process lookupFormType'
          available).player.permanentModifier av =
        total - if 1 / 1000 < |clampRewardTotal av total| then clampRewardTotal av total
          else 0 := by
    intro av total hlookup
    obtain ⟨hav, hskill⟩ := hsupported av (UnorderedMap.mem_of_lookup hlookup)
    rw [permanentModifier_process_loadLegacy hversion hcomplete hlookup hav hskill,
      happlied av total hlookup]
  constructor
  · intro h av total cap hlookup hcap
    have hsmall := h av (UnorderedMap.mem_of_lookup hlookup)
    rw [hleft av total hlookup, abs_left_le_iff] at hsmall
    exact hsmall cap hcap
  · intro h av hmem
    obtain ⟨total, hlookup⟩ := Option.isSome_iff_exists.mp (AList.lookup_isSome.mpr hmem)
    rw [hleft av total hlookup, abs_left_le_iff]
    exact fun cap hcap => h av total cap hlookup hcap

/-- A co-save of version 1 that holds one total, with the player as it was saved. -/
def oneTotal (av : ActorValue) (total : ℚ) : Snapshot ℚ :=
  { rewardTotals := (∅ : UnorderedMap ActorValue ℚ).insert av total
    buildMigrationVersion := 1 }

def rewardedPlayer (av : ActorValue) (total : ℚ) : ActorValues ℚ where
  base _ := 100
  permanentModifier av' := if av' = av then total else 0

theorem rewardTotals_oneTotal : (oneTotal av total).rewardTotals.lookup av = some total :=
  AList.lookup_insert _

theorem eq_of_lookup_oneTotal {av' : ActorValue} {total' : ℚ}
    (h : (oneTotal av total).rewardTotals.lookup av' = some total') :
    av' = av ∧ total' = total := by
  have hinsert : ((∅ : UnorderedMap ActorValue ℚ).insert av total).lookup av' = some total' := h
  rw [UnorderedMap.lookup_insert_eq] at hinsert
  split_ifs at hinsert with hav
  · exact ⟨hav, (Option.some.inj hinsert).symm⟩
  · rw [UnorderedMap.lookup_empty] at hinsert
    cases hinsert

theorem permanentModifier_rewardedPlayer : (rewardedPlayer av total).permanentModifier av = total :=
  if_pos rfl

/-- What holds of the one actor value of the co-save holds of all that it has a total for. -/
theorem forall_mem_oneTotal {p : ActorValue → Prop} (h : p av) :
    ∀ av' ∈ (oneTotal av total).rewardTotals, p av' := by
  intro av' hmem
  obtain ⟨total', hlookup⟩ := Option.isSome_iff_exists.mp (AList.lookup_isSome.mpr hmem)
  rw [(eq_of_lookup_oneTotal hlookup).1]
  exact h

/-- The player saved with one total has what the total says. -/
theorem applied_oneTotal : ∀ av' total',
    (oneTotal av total).rewardTotals.lookup av' = some total' →
      (rewardedPlayer av total).permanentModifier av' = total' := by
  intro av' total' hlookup
  obtain ⟨rfl, rfl⟩ := eq_of_lookup_oneTotal hlookup
  exact permanentModifier_rewardedPlayer

/-- Ten points of health are gone. -/
theorem legacy_rewards_removed_health :
    (∀ av ∈ (oneTotal .kHealth 10).rewardTotals,
        |((loadLegacy (fun _ => none) (oneTotal .kHealth 10)
          (rewardedPlayer .kHealth 10)).process (fun _ => none)
            true).player.permanentModifier av| ≤ 1 / 1000) ↔
      ∀ av total cap, (oneTotal .kHealth 10).rewardTotals.lookup av = some total →
        tryGetRewardCap av = some cap → total ≤ cap + 1 / 1000 := by
  have hsupported : isSupportedRewardActorValue ActorValue.kHealth.raw = true ∧
      isSkillActorValue .kHealth = false := ⟨by decide, by decide⟩
  exact legacy_rewards_removed_iff (by decide) (forall_mem_oneTotal hsupported) applied_oneTotal
    (complete_process_loadLegacy (by decide))

/-- Of a resistance of 100, the player keeps 15. -/
theorem not_legacy_rewards_removed :
    ¬ ∀ (saved : Snapshot ℚ) (player : ActorValues ℚ)
        (lookupFormType lookupFormType' : FormTypeLookup) (available : Bool),
      saved.buildMigrationVersion < kBuildMigrationVersion →
      (∀ av ∈ saved.rewardTotals,
        isSupportedRewardActorValue av.raw = true ∧ isSkillActorValue av = false) →
      (∀ av total, saved.rewardTotals.lookup av = some total →
        player.permanentModifier av = total) →
      ((loadLegacy lookupFormType saved player).process lookupFormType'
        available).state.buildMigrationState = .kComplete →
      ∀ av ∈ saved.rewardTotals,
        |((loadLegacy lookupFormType saved player).process lookupFormType'
          available).player.permanentModifier av| ≤ 1 / 1000 := by
  intro h
  have hversion : (oneTotal .kResistMagic 100).buildMigrationVersion < kBuildMigrationVersion := by
    decide
  have hcomplete : ((loadLegacy (fun _ => none) (oneTotal .kResistMagic 100)
      (rewardedPlayer .kResistMagic 100)).process (fun _ => none)
        true).state.buildMigrationState = .kComplete := complete_process_loadLegacy hversion
  have hsupported : isSupportedRewardActorValue ActorValue.kResistMagic.raw = true ∧
      isSkillActorValue .kResistMagic = false := ⟨by decide, by decide⟩
  have hsmall := h (oneTotal .kResistMagic 100) (rewardedPlayer .kResistMagic 100)
    (fun _ => none) (fun _ => none) true hversion (forall_mem_oneTotal hsupported)
    applied_oneTotal hcomplete .kResistMagic (UnorderedMap.mem_of_lookup rewardTotals_oneTotal)
  have hcap : tryGetRewardCap .kResistMagic = some (85 : ℚ) := by
    have hcap' : tryGetRewardCap .kResistMagic = some (85.0 : ℚ) := rfl
    rw [hcap']
    norm_num
  rw [permanentModifier_process_loadLegacy hversion hcomplete rewardTotals_oneTotal
    hsupported.1 hsupported.2, permanentModifier_rewardedPlayer, abs_left_le_iff] at hsmall
  have hover := hsmall 85 hcap
  norm_num at hover

end Exact

end CodexOfPower
