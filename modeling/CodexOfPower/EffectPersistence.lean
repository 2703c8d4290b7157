/-
# `CodexOfPower.EffectPersistence` — when the ledger survives a save and a load

Right after a sync the ledger is what the slots are worth.  It comes back whole, and
the next sync has nothing to give, exactly when the reader keeps what every option
in effect gives (`ledger_persists_iff`): an entry that is lost, or that comes back
smaller, is given to the player once more.

## What is not said

The co-save is the state's own, and every form id in it resolves to itself.  A state between
a change of the slots and the sync that follows is not considered, and neither is what later
saves make of an entry that was given twice.
-/
import CodexOfPower.LostEffects
import CodexOfPower.SyncOutcome
import CodexOfPower.SaveLoad

namespace CodexOfPower.Serialization

open RE Builds Rewards Binary32 BuildProgression SerializationStateStore
open Float.Model.UnpackedFloat (Sign)

/-! ## One option among others -/

section Amounts

variable {F : Type} [FloatType F]

/-- Only one element of the list contributes. -/
theorem flatMap_eq_of_unique {α β : Type} {xs : List α} (hnodup : xs.Nodup) {x : α} (hx : x ∈ xs)
    {f : α → List β} (hothers : ∀ y ∈ xs, y ≠ x → f y = []) : xs.flatMap f = f x := by
  induction xs with
  | nil => cases hx
  | cons y ys ih =>
    rw [List.nodup_cons] at hnodup
    rw [List.flatMap_cons]
    by_cases hxy : y = x
    · subst hxy
      have hrest : ys.flatMap f = [] := by
        rw [List.flatMap_eq_nil_iff]
        intro z hz
        exact hothers z (List.mem_cons_of_mem _ hz) fun h => hnodup.1 (h ▸ hz)
      rw [hrest, List.append_nil]
    · have hmem : x ∈ ys := (List.mem_cons.mp hx).resolve_left fun h => hxy h.symm
      rw [hothers y List.mem_cons_self hxy, List.nil_append]
      exact ih hnodup.2 hmem fun z hz => hothers z (List.mem_cons_of_mem _ hz)

theorem lookup_accumulatedTotals_of_unique {snapshot : BuildRuntimeSnapshot}
    {option : BuildOptionDef F} (hoption : option ∈ optionsInEffect snapshot) {av : ActorValue}
    {amount : F}
    (hentries : optionEntries option (buildPointsForDiscipline snapshot option.discipline) =
      [(av, amount)])
    (hunique : ∀ other ∈ optionsInEffect (F := F) snapshot,
      av ∈ (optionEntries other 0).map Prod.fst → other = option) :
    (accumulatedTotals snapshot).lookup av = some (0.0 + amount) := by
  have hothers : ∀ other ∈ optionsInEffect (F := F) snapshot, other ≠ option →
      amountsFor av
        (optionEntries other (buildPointsForDiscipline snapshot other.discipline)) = [] :=
    fun other hother hne => amountsFor_eq_nil fun hmem => hne (hunique other hother hmem)
  rw [lookup_accumulatedTotals,
    flatMap_eq_of_unique (nodup_optionsInEffect snapshot) hoption hothers, hentries]
  simp [amountsFor, sumFrom]

end Amounts

/-! ## Facts about the catalog -/

/-- An option outside the reader's table moves an actor value the reader does not know;
none moves more than three. -/
theorem known_or_lost : ∀ option ∈ getBuildOptionCatalog (F := Float32),
    ((∃ effect ∈ storedEffects, option.effectKey = effect.1) ∨
      ∃ av ∈ (optionEntries option 0).map Prod.fst,
        isSupportedBuildEffectActorValue av.raw = false) ∧
      ((optionEntries option 0).map Prod.fst).length ≤ 3 := by
  decide +kernel

/-- No two options of the table move the same actor value, and no other option at all moves
that of one with a limit. -/
theorem eq_of_moves_stored : ∀ stored ∈ storedOptions,
    ∀ av ∈ (optionEntries stored.1 0).map Prod.fst,
      (∀ stored' ∈ storedOptions, av ∈ (optionEntries stored'.1 0).map Prod.fst →
        stored'.1 = stored.1) ∧
      (stored.2 ≠ none → ∀ option ∈ getBuildOptionCatalog (F := Float32),
        av ∈ (optionEntries option 0).map Prod.fst → option = stored.1) := by
  decide +kernel

/-! ## Totals that are lost -/

section Lost

variable (snapshot : BuildRuntimeSnapshot)

theorem length_takeOption_le (taken : List (BuildOptionDef Float32)) (slotId : BuildSlotId) :
    (takeOption snapshot taken slotId).length ≤ taken.length + 1 := by
  rcases takeOption_cases snapshot taken slotId with ⟨hsame, -⟩ | ⟨option, -, -, htaken⟩
  · rw [hsame]
    exact Nat.le_succ _
  · rw [htaken, List.length_append, List.length_singleton]

theorem length_foldl_takeOption_le (slots : List BuildSlotId)
    (taken : List (BuildOptionDef Float32)) :
    (slots.foldl (takeOption snapshot) taken).length ≤ taken.length + slots.length := by
  induction slots generalizing taken with
  | nil => exact Nat.le_refl _
  | cons slotId slots ih =>
    have hstep := length_takeOption_le snapshot taken slotId
    have hrest := ih (takeOption snapshot taken slotId)
    rw [List.foldl_cons, List.length_cons]
    omega

theorem length_optionsInEffect_le : (optionsInEffect (F := Float32) snapshot).length ≤ 6 :=
  length_foldl_takeOption_le snapshot getInitialBuildSlotLayout []

/-- Six options with three entries each are few enough for the sum. -/
theorem length_amounts_le (av : ActorValue) :
    ((optionsInEffect (F := Float32) snapshot).flatMap fun option =>
      amountsFor av
        (optionEntries option (buildPointsForDiscipline snapshot option.discipline))).length ≤
      18 := by
  rw [List.length_flatMap]
  have hsum := List.sum_le_card_nsmul ((optionsInEffect (F := Float32) snapshot).map fun option =>
    (amountsFor av
      (optionEntries option (buildPointsForDiscipline snapshot option.discipline))).length) 3 (by
    intro n hn
    obtain ⟨option, hoption, rfl⟩ := List.mem_map.mp hn
    have hthree := (known_or_lost option (mem_catalog_of_mem_optionsInEffect hoption)).2
    rw [actorValues_option option 0 (buildPointsForDiscipline snapshot option.discipline),
      List.length_map] at hthree
    unfold amountsFor
    rw [List.length_map]
    exact (List.length_filter_le _ _).trans hthree)
  rw [List.length_map, nsmul_eq_mul, Nat.cast_id] at hsum
  have hsix := length_optionsInEffect_le snapshot
  omega

theorem kRewardCapEpsilon_isVal :
    IsVal .positive (kRewardCapEpsilon : Float32) (8589935 / 8589934592) :=
  isVal_of_constant (constant?_of_mem (by simp [effectConstants]))

/-- Amounts of one sign and of a size do not add up to nothing. -/
theorem exists_total_of_sizable {s : Sign} {amounts : List Float32} (hne : amounts ≠ [])
    (hsizable : ∀ amount ∈ amounts, Sizable s amount) (hlength : amounts.length ≤ 18) :
    ∃ total, sumFrom none amounts = some total ∧ ¬ total.abs ≤ kRewardCapEpsilon := by
  cases amounts with
  | nil => exact absurd rfl hne
  | cons amount amounts =>
    obtain ⟨v, hv, hlow, hhigh⟩ := hsizable amount List.mem_cons_self
    have hbound : (2 : ℚ) ^ 96 ≤ bound := by unfold bound; norm_num
    obtain ⟨r, hr, hnear⟩ := isVal_zero_add hv (hhigh.trans (by linarith))
    have hr₁ := hnear.lower
    have hr₂ := hnear.le_two_mul hv.nonneg
    rw [List.length_cons] at hlength
    obtain ⟨total, w, hsum, hw, hlow', hhigh'⟩ := isVal_sumFrom amounts
      (fun a ha => by
        obtain ⟨u, hu, -, hle⟩ := hsizable a (List.mem_cons_of_mem _ ha)
        exact ⟨u, hu, hle⟩)
      hr (by norm_num : (0 : ℚ) ≤ 1 / 258) (by linarith) (j := 0)
      (by norm_num; linarith) (by omega)
    refine ⟨total, hsum, ?_⟩
    have hcount : (amounts.length : ℚ) ≤ 18 := by exact_mod_cast (by omega)
    exact kRewardCapEpsilon_isVal.not_le (hw.abs (hhigh'.trans hbound)) (by linarith)

variable {snapshot}

theorem exists_total_of_unsupported {option : BuildOptionDef Float32}
    (hoption : option ∈ optionsInEffect snapshot) {av : ActorValue}
    (hmoves : av ∈ (optionEntries option 0).map Prod.fst)
    (hav : isSupportedBuildEffectActorValue av.raw = false) :
    ∃ total, (accumulatedTotals (F := Float32) snapshot).lookup av = some total ∧
      ¬ total.abs ≤ kRewardCapEpsilon := by
  rw [lookup_accumulatedTotals]
  refine exists_total_of_sizable (s := signFor av) ?_ ?_ (length_amounts_le snapshot av)
  · rw [actorValues_option option 0 (buildPointsForDiscipline snapshot option.discipline)] at hmoves
    obtain ⟨entry, hentry, hfst⟩ := List.mem_map.mp hmoves
    refine List.ne_nil_of_mem (a := entry.2) (List.mem_flatMap.mpr ⟨option, hoption, ?_⟩)
    exact List.mem_map_of_mem (List.mem_filter.mpr ⟨hentry, decide_eq_true hfst⟩)
  · intro amount hamount
    obtain ⟨other, hother, hmem⟩ := List.mem_flatMap.mp hamount
    obtain ⟨entry, hentry, rfl⟩ := List.mem_map.mp hmem
    rw [List.mem_filter, decide_eq_true_eq] at hentry
    obtain ⟨hentry, rfl⟩ := hentry
    exact sizable_of_mem_optionEntries (mem_catalog_of_mem_optionsInEffect hother) hentry hav

end Lost

/-! ## Totals that are kept -/

/-- The reader keeps what every option in a slot gives. -/
def EffectsStored (snapshot : BuildRuntimeSnapshot) : Prop :=
  ∀ slotId option, slotOption snapshot slotId = some option →
    OptionStored option (getBuildPointsTier (buildPointsForDiscipline snapshot option.discipline))

/-- The reader takes over a total as it is. -/
structure TotalKept (av : ActorValue) (total : Float32) : Prop where
  supported : isSupportedBuildEffectActorValue av.raw = true
  unclamped : clampRewardTotal av total = total

section Kept

variable {snapshot : BuildRuntimeSnapshot}

theorem eq_of_moves {limit : Option UInt32} {option : BuildOptionDef Float32}
    {pointsCenti : BuildPointCenti} {av av' : ActorValue} {amount : Float32}
    (h : KeptWithin limit option pointsCenti av amount)
    (hmoves : av' ∈ (optionEntries option 0).map Prod.fst) : av' = av := by
  rw [actorValues_option option 0 pointsCenti, h.entries] at hmoves
  exact List.mem_singleton.mp hmoves

theorem moves_of_kept {limit : Option UInt32} {option : BuildOptionDef Float32}
    {pointsCenti : BuildPointCenti} {av : ActorValue} {amount : Float32}
    (h : KeptWithin limit option pointsCenti av amount) :
    av ∈ (optionEntries option 0).map Prod.fst := by
  rw [actorValues_option option 0 pointsCenti, h.entries]
  exact List.mem_singleton.mpr rfl

/-- Where every option is stored, so is every total. -/
theorem totalKept_of_effectsStored (h : EffectsStored snapshot) {av : ActorValue}
    {total : Float32} (htotal : (accumulatedTotals snapshot).lookup av = some total) :
    TotalKept av total ∧ ∃ v, IsVal .positive total v := by
  have hstored : ∀ option ∈ optionsInEffect (F := Float32) snapshot, ∃ limit,
      (option, limit) ∈ storedOptions ∧
        Within limit
          (getBuildPointsTier (buildPointsForDiscipline snapshot option.discipline)) := by
    intro option hoption
    obtain ⟨slotId, hslot⟩ := mem_optionsInEffect.mp hoption
    obtain ⟨limit, heffect, hwithin⟩ := h slotId option hslot
    exact ⟨limit, mem_storedOptions option (mem_catalog_of_mem_optionsInEffect hoption)
      (option.effectKey, limit) heffect rfl, hwithin⟩
  -- some option moves the actor value
  have hmover : ∃ option ∈ optionsInEffect (F := Float32) snapshot,
      av ∈ (optionEntries option 0).map Prod.fst := by
    by_contra hnone
    have hempty : ((optionsInEffect (F := Float32) snapshot).flatMap fun option =>
        amountsFor av
          (optionEntries option (buildPointsForDiscipline snapshot option.discipline))) = [] := by
      rw [List.flatMap_eq_nil_iff]
      intro option hoption
      exact amountsFor_eq_nil fun hmoves => hnone ⟨option, hoption, hmoves⟩
    rw [lookup_accumulatedTotals, hempty] at htotal
    cases htotal
  obtain ⟨option, hoption, hmoves⟩ := hmover
  obtain ⟨limit, hmem, hwithin⟩ := hstored option hoption
  obtain ⟨av', amount, hkept⟩ :=
    exists_keptWithin (buildPointsForDiscipline snapshot option.discipline) hmem
  obtain rfl := eq_of_moves hkept hmoves
  rw [lookup_accumulatedTotals_of_unique hoption hkept.entries fun other hother hother' => by
    obtain ⟨limit', hmem', -⟩ := hstored other hother
    exact (eq_of_moves_stored _ hmem _ hmoves).1 _ hmem' hother'] at htotal
  cases htotal
  obtain ⟨v, hv, -⟩ := hkept.isVal
  exact ⟨⟨hkept.supported, hkept.kept.mpr hwithin⟩, v, hv⟩

/-- Where every visible total is stored, so is every option. -/
theorem effectsStored_of_totalKept
    (h : ∀ av total, (accumulatedTotals (F := Float32) snapshot).lookup av = some total →
      ¬ total.abs ≤ kRewardCapEpsilon → TotalKept av total) : EffectsStored snapshot := by
  intro slotId option hslot
  have hoption : option ∈ optionsInEffect snapshot := mem_optionsInEffect.mpr ⟨slotId, hslot⟩
  have hcatalog := mem_catalog_of_mem_optionsInEffect hoption
  rcases (known_or_lost option hcatalog).1 with ⟨effect, heffect, hkey⟩ | ⟨av, hmoves, hav⟩
  · have hmem := mem_storedOptions option hcatalog effect heffect hkey
    refine ⟨effect.2, hkey ▸ heffect, ?_⟩
    obtain ⟨av, amount, hkept⟩ :=
      exists_keptWithin (buildPointsForDiscipline snapshot option.discipline) hmem
    by_cases hlimit : effect.2 = none
    · rw [hlimit]
      exact within_none _
    · have hmoves := moves_of_kept hkept
      have htotal := lookup_accumulatedTotals_of_unique hoption hkept.entries
        fun other hother hother' => (eq_of_moves_stored _ hmem _ hmoves).2 hlimit other
          (mem_catalog_of_mem_optionsInEffect hother) hother'
      obtain ⟨v, hv, hlow, hhigh⟩ := hkept.isVal
      have hbound : (2 : ℚ) ^ 96 ≤ bound := by unfold bound; norm_num
      have hvisible : ¬ (0.0 + amount).abs ≤ kRewardCapEpsilon :=
        kRewardCapEpsilon_isVal.not_le (hv.abs (by linarith)) (by linarith)
      exact hkept.kept.mp (h av _ htotal hvisible).unclamped
  · obtain ⟨total, htotal, hvisible⟩ := exists_total_of_unsupported hoption hmoves hav
    have hsupported := (h av total htotal hvisible).supported
    rw [hav] at hsupported
    cases hsupported

end Kept

/-! ## The ledger that comes back -/

theorem same_keptTotals_iff {totals : UnorderedMap ActorValue Float32} :
    (UnorderedMap.insertAll
        (keptTotals isSupportedBuildEffectActorValue totals.toPairs) ∅).Same totals ↔
      ∀ av total, totals.lookup av = some total → TotalKept av total := by
  constructor
  · intro h av total htotal
    obtain ⟨hsupported, saved, hsaved, hclamp⟩ := lookup_keptTotals.mp ((h av).trans htotal)
    rw [htotal] at hsaved
    cases hsaved
    exact ⟨hsupported, hclamp⟩
  · intro h av
    refine Option.ext fun total => ?_
    rw [lookup_keptTotals]
    constructor
    · rintro ⟨-, saved, hsaved, rfl⟩
      rw [(h av saved hsaved).unclamped]
      exact hsaved
    · intro htotal
      exact ⟨(h av total htotal).supported, total, htotal, (h av total htotal).unclamped⟩

/-- A sync has just run on slots and points that a game can have, and the migration is
behind. -/
structure JustSynced (state : RuntimeState Float32) : Prop where
  slotsValid : SlotsValid state
  ledger : state.buildAppliedEffectTotals.Same (desiredTotals state)
  version : kBuildMigrationVersion ≤ state.buildMigrationVersion
  complete : state.buildMigrationState = .kComplete
  /-- The count in front of a list of deltas has 32 bits. -/
  rewardDeltas : ∀ record ∈ state.undoHistory, record.rewardDeltas.length < 2 ^ 32

section Load

variable {state : RuntimeState Float32} {accepts : Nat → Bool} {resolveFormID : FormIDResolver}
  {records : List Record}

/-- A slot text that names an option comes back as it was. -/
theorem slot_restored (hslots : SlotsValid state) (slotId : BuildSlotId) :
    (if (state.activeBuildSlots slotId).take kMaxSerializedBuildSlotStringLength.toNat = [] then
        (state.activeBuildSlots slotId).take kMaxSerializedBuildSlotStringLength.toNat
      else remapLegacyOptionId
        ((state.activeBuildSlots slotId).take kMaxSerializedBuildSlotStringLength.toNat)) =
      state.activeBuildSlots slotId := by
  rcases hslots slotId with hempty | ⟨option, hfind, -⟩
  · rw [hempty]
    rfl
  · obtain ⟨hlength, hcurrent⟩ := text_of_findOption hfind
    rw [List.take_of_length_le hlength, hcurrent, ite_self]

/-- What a load makes of the ledger, and what it leaves as it was. -/
theorem load_ledger (h : JustSynced state)
    (hresolve : ResolvesStored resolveFormID state)
    (hsave : save accepts state = (true, records)) (lookupFormType : FormTypeLookup)
    (before : RuntimeState Float32) :
    (load resolveFormID lookupFormType records before).state.buildAppliedEffectTotals =
        UnorderedMap.insertAll (keptTotals isSupportedBuildEffectActorValue
          state.buildAppliedEffectTotals.toPairs) ∅ ∧
      snapshotCurrentBuildRuntime (load resolveFormID lookupFormType records before).state =
        snapshotCurrentBuildRuntime state := by
  have hstorable : Storable state := by
    refine ⟨fun slotId => ?_, h.rewardDeltas⟩
    rcases h.slotsValid slotId with hempty | ⟨option, hfind, -⟩
    · rw [hempty]
      decide
    · exact Nat.lt_of_le_of_lt (text_of_findOption hfind).1 (by decide)
  rw [load_state, decode_saved hstorable hresolve hsave]
  dsimp only
  rw [normalize_of_complete (show kBuildMigrationVersion ≤ (reloaded state).buildMigrationVersion
    from h.version) h.complete]
  refine ⟨rfl, ?_⟩
  have hrestored : (stripLegacyUndoRewardDeltas
      (normalizeActiveSlotOptionIds (reloaded state))).activeBuildSlots =
      state.activeBuildSlots := funext (slot_restored h.slotsValid)
  unfold snapshotCurrentBuildRuntime
  rw [hrestored]
  rfl

theorem syncedCalls_of_self {desired current : UnorderedMap ActorValue Float32}
    (reading : ActorValue → Float32) {av : ActorValue}
    (h : totalOf desired av - totalOf current av = .ofModel (.pack (.zero .positive))) :
    syncedCalls desired current reading av = [] := by
  have hzero : FloatType.abs (syncedDelta desired current reading av) ≤ kRewardCapEpsilon := by
    unfold syncedDelta clampBuildSyncDeltaForActorValue
    rw [h]
    split_ifs with hfinite hsign
    · decide +kernel
    · decide +kernel
    · exact absurd (.inr (by decide +kernel)) hsign
  exact if_pos hzero

/-- Equal ledgers and totals that are numbers leave a sync with nothing to give. -/
theorem snd_sync_of_same {loaded : RuntimeState Float32}
    (hsame : loaded.buildAppliedEffectTotals.Same (desiredTotals loaded))
    (hval : ∀ av total, (desiredTotals loaded).lookup av = some total →
      ∃ v, IsVal .positive total v) (reading : ActorValue → Float32) :
    (syncCurrentBuildEffectsToPlayer (some reading) loaded).2 = [] := by
  rw [snd_sync, List.flatMap_eq_nil_iff]
  intro av _
  refine syncedCalls_of_self reading ?_
  unfold totalOf
  rw [hsame av]
  cases htotal : (desiredTotals loaded).lookup av with
  | none => decide +kernel
  | some total =>
    obtain ⟨v, hv⟩ := hval av total htotal
    exact hv.sub_self

/-- Reading back the ledger of a sync. -/
theorem same_ledger_iff (h : JustSynced state) :
    (UnorderedMap.insertAll (keptTotals isSupportedBuildEffectActorValue
        state.buildAppliedEffectTotals.toPairs) ∅).Same state.buildAppliedEffectTotals ↔
      EffectsStored (snapshotCurrentBuildRuntime state) := by
  rw [same_keptTotals_iff]
  constructor
  · intro hkept
    refine effectsStored_of_totalKept fun av total htotal hvisible => hkept av total ?_
    rw [h.ledger av, lookup_desiredTotals]
    exact ⟨htotal, hvisible⟩
  · intro hstored av total htotal
    rw [h.ledger av, lookup_desiredTotals] at htotal
    exact (totalKept_of_effectsStored hstored htotal.1).1

/-- A state in which a sync has just run, saved and loaded: the ledger comes back entry for
entry and the next sync gives nothing, exactly when every option in a slot is stored. -/
theorem ledger_persists_iff (h : JustSynced state) (hresolve : ResolvesStored resolveFormID state)
    (hsave : save accepts state = (true, records)) (lookupFormType : FormTypeLookup)
    (before : RuntimeState Float32) :
    ((load resolveFormID lookupFormType records (revert before)).state.buildAppliedEffectTotals.Same
          state.buildAppliedEffectTotals ∧
        ∀ reading, (syncCurrentBuildEffectsToPlayer (some reading)
          (load resolveFormID lookupFormType records (revert before)).state).2 = []) ↔
      EffectsStored (snapshotCurrentBuildRuntime state) := by
  obtain ⟨hledger, hruntime⟩ := load_ledger h hresolve hsave lookupFormType (revert before)
  have hiff := same_ledger_iff h
  rw [← hledger] at hiff
  refine ⟨fun hboth => hiff.mp hboth.1, fun hstored => ⟨hiff.mpr hstored, ?_⟩⟩
  have hdesired : desiredTotals (load resolveFormID lookupFormType records (revert before)).state =
      desiredTotals state := by
    unfold desiredTotals
    rw [hruntime]
  refine snd_sync_of_same ?_ fun av total htotal => ?_
  · rw [hdesired]
    exact (hiff.mpr hstored).trans h.ledger
  · rw [hdesired, lookup_desiredTotals] at htotal
    exact (totalKept_of_effectsStored hstored htotal.1).2

end Load

/-! ## Two states -/

/-- A current state with 16 defense points and one option, just synced. -/
def equipped (optionId : Text) : RuntimeState Float32 :=
  let state : RuntimeState Float32 :=
    { defenseBuildPointsCenti := 1600
      activeBuildSlots := ActiveBuildSlots.set (fun _ => []) .Defense1 optionId
      buildMigrationVersion := 2
      buildMigrationState := .kComplete }
  { state with buildAppliedEffectTotals := desiredTotals state }

theorem justSynced_equipped {optionId : Text}
    (h : MayHold (F := Float32) { defenseBuildPointsCenti := 1600 } .Defense1 optionId) :
    JustSynced (equipped optionId) where
  slotsValid := by
    have hempty : SlotsValid (F := Float32) { defenseBuildPointsCenti := 1600 } :=
      slotsValid_of_empty fun _ => rfl
    exact hempty.set (.inr h) rfl rfl
  ledger _ := rfl
  version := UInt32.le_refl _
  complete := rfl
  rewardDeltas := nofun

/-- The armor option is stored. -/
theorem ledger_persists_guard :
    (load some (fun _ => none) (save (fun _ => true) (equipped guard.id)).2
        (revert {})).state.buildAppliedEffectTotals.Same
          (equipped guard.id).buildAppliedEffectTotals := by
  have hhold : MayHold (F := Float32) { defenseBuildPointsCenti := 1600 } .Defense1 guard.id :=
    ⟨guard, by decide +kernel, by decide +kernel, by decide +kernel⟩
  have hsave := save_eq_of_fst
    (by decide +kernel : (save (fun _ => true) (equipped guard.id)).1 = true)
  refine ((ledger_persists_iff (justSynced_equipped hhold) (resolvesStored_some _) hsave
    (fun _ => none) {}).mpr ?_).1
  intro slotId option hslot
  have hmem := mem_optionsInEffect.mpr ⟨slotId, hslot⟩
  have honly : optionsInEffect (F := Float32)
      (snapshotCurrentBuildRuntime (equipped guard.id)) = [guard] := by decide +kernel
  rw [honly, List.mem_singleton] at hmem
  rw [hmem]
  exact ⟨none, by decide +kernel, within_none _⟩

def warding : BuildOptionDef Float32 :=
  makeOption "build.defense.warding" .Defense 10 .SameDisciplineOnly
    .ActorValue "magic_resist_bundle" (.float 2.0) (.float 0.5)

/-- The ward against magic is not stored: its entry is dropped by the load. -/
theorem not_ledger_persists :
    ¬ ∀ (state : RuntimeState Float32), JustSynced state →
      ∀ resolveFormID : FormIDResolver, ResolvesStored resolveFormID state →
      ∀ (accepts : Nat → Bool) (records : List Record),
      save accepts state = (true, records) →
      ∀ (lookupFormType : FormTypeLookup) (before : RuntimeState Float32),
      (load resolveFormID lookupFormType records
          (revert before)).state.buildAppliedEffectTotals.Same
          state.buildAppliedEffectTotals ∧
        ∀ reading, (syncCurrentBuildEffectsToPlayer (some reading)
          (load resolveFormID lookupFormType records (revert before)).state).2 = [] := by
  intro h
  have hhold : MayHold (F := Float32) { defenseBuildPointsCenti := 1600 } .Defense1
      warding.id :=
    ⟨warding, by decide +kernel, by decide +kernel, by decide +kernel⟩
  have hsave := save_eq_of_fst
    (by decide +kernel : (save (fun _ => true) (equipped warding.id)).1 = true)
  have hsynced := justSynced_equipped hhold
  obtain ⟨hsame, -⟩ := h _ hsynced some (resolvesStored_some _) _ _ hsave (fun _ => none) {}
  obtain ⟨hledger, -⟩ := load_ledger hsynced (resolvesStored_some _) hsave (fun _ => none)
    (revert {})
  rw [hledger, same_ledger_iff hsynced] at hsame
  obtain ⟨limit, hmem, -⟩ := hsame .Defense1 warding (by decide +kernel)
  have hunknown : warding.effectKey ∉ storedEffects.map Prod.fst := by decide +kernel
  exact hunknown (List.mem_map_of_mem hmem)

end CodexOfPower.Serialization
