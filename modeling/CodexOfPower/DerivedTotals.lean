/-
# `CodexOfPower.DerivedTotals` — the totals as a sum over the options in effect

The loop over the slots decides for each slot in turn: is the option known, unlocked, may
it stand here, has it been counted?  What comes out is a sum over the catalog: every
option that is unlocked and stands in some slot where it may stand, once
(`derived_totals_sum`).  An ineffective copy of an option never stands in the way of an
effective one.

Every option moves an actor value in the same direction as every other, so with more
points, in exact arithmetic, no total comes nearer to zero.

## What is not said

The sum is that of `ℚ`.  In `Float32` the order of the slots can show in the last bits of a
total, and nothing is claimed about these here; what single precision makes of one option
is in `CodexOfPower.EffectBounds`.
-/
import CodexOfPower.SyncOutcome
import CodexOfPower.TierGrowth

namespace CodexOfPower.Builds

open RE Rewards

/-! ## What should come out -/

section Spec

variable {F : Type} [FloatType F]

/-- The option is unlocked, and in some slot where it may stand. -/
def effective (snapshot : BuildRuntimeSnapshot) (option : BuildOptionDef F) : Bool :=
  option.unlockPointsCenti ≤ buildPointsForDiscipline snapshot option.discipline &&
    getInitialBuildSlotLayout.any fun slotId =>
      snapshot.activeBuildSlots slotId = option.id && isSlotCompatible option slotId

/-- What the parts of an option's bundle are worth for an actor value. -/
def optionAmount (av : ActorValue) (option : BuildOptionDef ℚ) (pointsCenti : BuildPointCenti) :
    ℚ :=
  (amountsFor av (optionEntries option pointsCenti)).sum

def effectiveTotal (snapshot : BuildRuntimeSnapshot) (av : ActorValue) : ℚ :=
  (getBuildOptionCatalog.map fun option =>
    if effective snapshot option then
      optionAmount av option (buildPointsForDiscipline snapshot option.discipline)
    else 0).sum

/-- The total of an actor value in the output, 0 when absent. -/
def derivedTotal (snapshot : BuildRuntimeSnapshot) (av : ActorValue) : ℚ :=
  match (computeDerivedBuildActorValueTotals snapshot).find? fun entry => entry.1 = av with
  | none => 0
  | some entry => entry.2

/-! ## The options in effect -/

theorem nodup_catalog_ids : (getBuildOptionCatalog.map (BuildOptionDef.id (F := F))).Nodup := by
  have hids : getBuildOptionCatalog.map (BuildOptionDef.id (F := F)) =
      getBuildOptionCatalog.map (BuildOptionDef.id (F := ℚ)) := rfl
  rw [hids]
  decide +kernel

theorem findOption_of_mem_catalog {option : BuildOptionDef F}
    (h : option ∈ getBuildOptionCatalog) : findOption option.id = some option := by
  have hfound : ∀ options : List (BuildOptionDef F), (options.map BuildOptionDef.id).Nodup →
      option ∈ options → (options.find? fun other => other.id = option.id) = some option := by
    intro options
    induction options with
    | nil => exact fun _ h => absurd h List.not_mem_nil
    | cons first options ih =>
      intro hnodup hmem
      rw [List.map_cons, List.nodup_cons] at hnodup
      rcases List.mem_cons.mp hmem with rfl | hmem
      · simp
      · have hne : first.id ≠ option.id := fun heq =>
          hnodup.1 (heq ▸ List.mem_map_of_mem hmem)
        rw [List.find?_cons_of_neg (by simpa using hne)]
        exact ih hnodup.2 hmem
  exact hfound _ nodup_catalog_ids h

theorem mem_optionsInEffect_iff {snapshot : BuildRuntimeSnapshot} {option : BuildOptionDef F} :
    option ∈ optionsInEffect snapshot ↔
      option ∈ getBuildOptionCatalog ∧ effective snapshot option = true := by
  rw [mem_optionsInEffect]
  constructor
  · rintro ⟨slotId, hslot⟩
    have hfind := findOption_of_slotOption hslot
    refine ⟨mem_catalog_of_findOption hfind, ?_⟩
    simp only [slotOption] at hslot
    split_ifs at hslot with hempty
    split at hslot
    · cases hslot
    · rename_i found hfound
      split_ifs at hslot with hlocked hmisplaced
      obtain rfl := Option.some.inj hslot
      rw [effective, Bool.and_eq_true, decide_eq_true_eq, List.any_eq_true]
      refine ⟨UInt32.not_lt.mp hlocked, slotId, mem_getInitialBuildSlotLayout slotId, ?_⟩
      rw [Bool.and_eq_true, decide_eq_true_eq]
      exact ⟨(id_of_findOption hfound).symm, by simpa using hmisplaced⟩
  · rintro ⟨hmem, heffective⟩
    rw [effective, Bool.and_eq_true, decide_eq_true_eq, List.any_eq_true] at heffective
    obtain ⟨hunlocked, slotId, -, hslot⟩ := heffective
    rw [Bool.and_eq_true, decide_eq_true_eq] at hslot
    obtain ⟨hid, hcompatible⟩ := hslot
    have hfind := findOption_of_mem_catalog hmem
    have hne : option.id ≠ [] := by
      intro hnil
      rw [hnil, findOption_nil] at hfind
      cases hfind
    refine ⟨slotId, ?_⟩
    rw [slotOption, hid]
    simp only [hfind, if_neg hne, if_neg (UInt32.not_lt.mpr hunlocked), hcompatible,
      Bool.not_true, Bool.false_eq_true, if_false]

end Spec

/-! ## The sum -/

section Sum

variable {snapshot snapshot' : BuildRuntimeSnapshot} {av : ActorValue}

theorem sumFrom_rat (total : Option ℚ) (amounts : List ℚ) :
    sumFrom total amounts = if amounts = [] then total else some (total.getD 0 + amounts.sum) := by
  have hzero : (0.0 : ℚ) = 0 := by norm_num
  induction amounts generalizing total with
  | nil => rfl
  | cons amount amounts ih =>
    have hnext : sumFrom total (amount :: amounts) =
        sumFrom (some (total.getD 0.0 + amount)) amounts := rfl
    rw [hnext, ih, hzero, List.sum_cons, if_neg (List.cons_ne_nil _ _)]
    split_ifs with hnil
    · rw [hnil, List.sum_nil, add_zero]
    · rw [Option.getD_some, add_assoc]

/-- In the order of the slots the sum is that of the catalog. -/
theorem sum_optionsInEffect (amount : BuildOptionDef ℚ → ℚ) :
    ((optionsInEffect snapshot).map amount).sum =
      (getBuildOptionCatalog.map fun option =>
        if effective snapshot option then amount option else 0).sum := by
  have hperm : (optionsInEffect snapshot).Perm
      (getBuildOptionCatalog.filter (effective (F := ℚ) snapshot)) := by
    refine (List.perm_ext_iff_of_nodup (nodup_optionsInEffect snapshot)
      ((nodup_catalog_ids.of_map _).filter _)).mpr fun option => ?_
    rw [mem_optionsInEffect_iff, List.mem_filter]
  have hfilter : ∀ options : List (BuildOptionDef ℚ),
      ((options.filter (effective snapshot)).map amount).sum =
        (options.map fun option => if effective snapshot option then amount option else 0).sum := by
    intro options
    induction options with
    | nil => rfl
    | cons option options ih =>
      rw [List.map_cons, List.sum_cons, ← ih]
      cases heffective : effective snapshot option with
      | true => simp [heffective]
      | false => simp [heffective]
  rw [(hperm.map amount).sum_eq, hfilter]

theorem sum_amounts :
    ((optionsInEffect snapshot).flatMap fun option => amountsFor av
      (optionEntries option (buildPointsForDiscipline snapshot option.discipline))).sum =
      effectiveTotal snapshot av := by
  rw [List.flatMap_def, List.sum_flatten, List.map_map]
  exact sum_optionsInEffect fun option =>
    optionAmount av option (buildPointsForDiscipline snapshot option.discipline)

/-- What the output says of an actor value. -/
theorem mem_derived_iff {total : ℚ} :
    (av, total) ∈ computeDerivedBuildActorValueTotals snapshot ↔
      total = effectiveTotal snapshot av ∧ 1 / 1000 < |total| := by
  have habs : FloatType.abs total = |total| := rfl
  rw [mem_derived, lookup_accumulatedTotals, sumFrom_rat, kRewardCapEpsilon_rat, habs, not_le]
  refine and_congr_left fun hlarge => ?_
  rw [← sum_amounts]
  split_ifs with hnil
  · rw [hnil, List.sum_nil]
    constructor
    · nofun
    · intro hzero
      rw [hzero, abs_zero] at hlarge
      exact absurd hlarge (by norm_num)
  · rw [Option.getD_none, zero_add, Option.some_inj]
    exact eq_comm

/-- The output is in the order of the actor values, with each of them once. -/
theorem sorted_derived (snapshot : BuildRuntimeSnapshot) :
    (computeDerivedBuildActorValueTotals (F := ℚ) snapshot).Pairwise fun lhs rhs =>
      lhs.1.raw < rhs.1.raw := by
  have htrans : ∀ a b c : ActorValue × ℚ, decide (a.1.raw ≤ b.1.raw) = true →
      decide (b.1.raw ≤ c.1.raw) = true → decide (a.1.raw ≤ c.1.raw) = true :=
    fun a b c hab hbc =>
      decide_eq_true (UInt32.le_trans (of_decide_eq_true hab) (of_decide_eq_true hbc))
  have htotal : ∀ a b : ActorValue × ℚ,
      (decide (a.1.raw ≤ b.1.raw) || decide (b.1.raw ≤ a.1.raw)) = true := by
    intro a b
    rw [Bool.or_eq_true, decide_eq_true_eq, decide_eq_true_eq]
    exact UInt32.le_total a.1.raw b.1.raw
  have hle : (computeDerivedBuildActorValueTotals (F := ℚ) snapshot).Pairwise fun lhs rhs =>
      decide (lhs.1.raw ≤ rhs.1.raw) = true := List.pairwise_mergeSort htrans htotal _
  have hne := List.pairwise_map.mp (nodup_fst_derived (F := ℚ) snapshot)
  refine (hle.and hne).imp fun hboth => ?_
  refine UInt32.lt_of_le_of_ne (of_decide_eq_true hboth.1) fun hsame => hboth.2 ?_
  exact congrArg ActorValue.mk hsame

end Sum

/-! ## Growth -/

section Growth

variable {snapshot snapshot' : BuildRuntimeSnapshot} {av : ActorValue}
  {pointsCenti pointsCenti' : BuildPointCenti}

/-- Entries that are multiples of the amount, by one positive factor. -/
def Proportional (entries : ℚ → List (ActorValue × ℚ)) : Prop :=
  ∃ factor : ℚ, 0 < factor ∧ ∃ avs : List ActorValue,
    ∀ amount, entries amount = avs.map fun av => (av, amount * factor)

theorem proportional_ite {c : Prop} [Decidable c] {entries entries' : ℚ → List (ActorValue × ℚ)}
    (h : Proportional entries) (h' : Proportional entries') :
    Proportional fun amount => if c then entries amount else entries' amount := by
  by_cases hc : c
  · simpa only [if_pos hc] using h
  · simpa only [if_neg hc] using h'

theorem proportional_self (avs : List ActorValue) :
    Proportional fun amount => avs.map fun av => (av, amount) :=
  ⟨1, one_pos, avs, fun amount => by simp only [mul_one]⟩

theorem proportional_hundredth (av : ActorValue) :
    Proportional fun amount => [(av, amount / 100.0)] := by
  refine ⟨1 / 100, by norm_num, [av], fun amount => ?_⟩
  have hhundred : (100.0 : ℚ) = 100 := by norm_num
  show [(av, amount / 100.0)] = [(av, amount * (1 / 100))]
  rw [hhundred, div_eq_mul_one_div]

theorem proportional_resolveActorValueKey (effectKey : Text) :
    Proportional (resolveActorValueKey effectKey) := by
  unfold resolveActorValueKey
  repeat' refine proportional_ite ?_ ?_
  all_goals
    first
      | exact proportional_hundredth _
      | exact proportional_self [_]
      | exact proportional_self [_, _]
      | exact proportional_self [_, _, _]
      | exact proportional_self []

theorem proportional_resolveActorValueDeltas (effectType : BuildEffectType) (effectKey : Text) :
    Proportional (fun amount => resolveActorValueDeltas effectType effectKey (.float amount)) := by
  cases effectType with
  | ActorValue => exact proportional_resolveActorValueKey effectKey
  | CarryWeight => exact proportional_ite (proportional_self []) (proportional_self [_])
  | Economy => exact proportional_self []
  | UtilityFlag => exact proportional_self []

/-- The entries of two bundles, pairwise. -/
structure EntryGrows (sign : ℚ) (entry entry' : ActorValue × ℚ) : Prop where
  av : entry'.1 = entry.1
  nonneg : 0 ≤ sign * entry.2
  le : sign * entry.2 ≤ sign * entry'.2

theorem entries_grow {sign : ℚ} {part part' : BuildResolvedEffectPart ℚ}
    (h : PartGrows sign part part') :
    List.Forall₂ (EntryGrows sign)
      (resolveActorValueDeltas part.effectType part.effectKey part.magnitude)
      (resolveActorValueDeltas part'.effectType part'.effectKey part'.magnitude) := by
  obtain ⟨hkind, hnonneg, hle⟩ := h.magnitude
  rw [h.effectType, h.effectKey]
  rcases hkind with ⟨a, b, ha, hb⟩ | ⟨a, b, ha, hb⟩
  · rw [ha] at hnonneg hle ⊢
    rw [hb] at hle ⊢
    obtain ⟨factor, hfactor, avs, hentries⟩ :=
      proportional_resolveActorValueDeltas part.effectType part.effectKey
    dsimp only at hentries
    rw [hentries a, hentries b, List.forall₂_map_left_iff, List.forall₂_map_right_iff]
    refine List.forall₂_same.mpr fun av _ => ⟨rfl, ?_, ?_⟩
    · show 0 ≤ sign * (a * factor)
      rw [← mul_assoc]
      exact mul_nonneg hnonneg hfactor.le
    · show sign * (a * factor) ≤ sign * (b * factor)
      rw [← mul_assoc, ← mul_assoc]
      exact mul_le_mul_of_nonneg_right hle hfactor.le
  · rw [ha] at hnonneg hle ⊢
    rw [hb] at hle ⊢
    have hrate : (0 : ℚ) < 0.05 := by norm_num
    cases part.effectType with
    | ActorValue => exact .nil
    | CarryWeight => exact .nil
    | Economy =>
      simp only [resolveActorValueDeltas, toIntMagnitude]
      split_ifs
      · exact .nil
      · refine .cons ⟨rfl, ?_, ?_⟩ .nil
        · show 0 ≤ sign * ((a.toInt : ℚ) * 0.05)
          rw [← mul_assoc]
          exact mul_nonneg hnonneg hrate.le
        · show sign * ((a.toInt : ℚ) * 0.05) ≤ sign * ((b.toInt : ℚ) * 0.05)
          rw [← mul_assoc, ← mul_assoc]
          exact mul_le_mul_of_nonneg_right hle hrate.le
    | UtilityFlag => exact .nil

/-- What an option is worth for an actor value grows its way. -/
theorem optionAmount_grows {option : BuildOptionDef ℚ} (hoption : option ∈ getBuildOptionCatalog)
    (h : pointsCenti ≤ pointsCenti') (av : ActorValue) :
    0 ≤ effectSign option * optionAmount av option pointsCenti ∧
      effectSign option * optionAmount av option pointsCenti ≤
        effectSign option * optionAmount av option pointsCenti' := by
  have hentries : List.Forall₂ (EntryGrows (effectSign option)) (optionEntries option pointsCenti)
      (optionEntries option pointsCenti') :=
    List.rel_flatMap (bundle_grows hoption h) fun _ _ hpart => entries_grow hpart
  unfold optionAmount amountsFor
  generalize optionEntries option pointsCenti = entries at hentries
  generalize optionEntries option pointsCenti' = entries' at hentries
  induction hentries with
  | nil => exact ⟨by simp, by simp⟩
  | @cons entry entry' entries entries' hentry hrest ih =>
    have hav : (entry'.1 = av) = (entry.1 = av) := by rw [hentry.av]
    by_cases hmine : entry.1 = av
    · have hmine' : entry'.1 = av := hav ▸ hmine
      simp only [List.filter_cons, decide_eq_true hmine, decide_eq_true hmine', if_true,
        List.map_cons, List.sum_cons, mul_add]
      have hnonneg := hentry.nonneg
      have hle := hentry.le
      exact ⟨by linarith [ih.1], by linarith [ih.2]⟩
    · have hmine' : ¬ entry'.1 = av := fun hsame => hmine (hav ▸ hsame)
      simp only [List.filter_cons, decide_eq_false hmine, decide_eq_false hmine',
        Bool.false_eq_true, if_false]
      exact ih

/-- The direction in which an actor value is moved. -/
def avSign (av : ActorValue) : ℚ := if av = .kShoutRecoveryMult then -1 else 1

theorem avSign_cases (av : ActorValue) : avSign av = 1 ∨ avSign av = -1 := by
  unfold avSign
  split_ifs
  · exact .inr rfl
  · exact .inl rfl

/-- All options that move an actor value move it that way. -/
theorem effectSign_eq_avSign : ∀ option ∈ getBuildOptionCatalog (F := ℚ),
    ∀ av ∈ (optionEntries option 0).map Prod.fst, effectSign option = avSign av := by
  decide +kernel

theorem optionAmount_grows_avSign {option : BuildOptionDef ℚ}
    (hoption : option ∈ getBuildOptionCatalog) (h : pointsCenti ≤ pointsCenti')
    (av : ActorValue) :
    0 ≤ avSign av * optionAmount av option pointsCenti ∧
      avSign av * optionAmount av option pointsCenti ≤
        avSign av * optionAmount av option pointsCenti' := by
  by_cases hmoves : av ∈ (optionEntries option 0).map Prod.fst
  · rw [← effectSign_eq_avSign option hoption av hmoves]
    exact optionAmount_grows hoption h av
  · have hnone : ∀ points, optionAmount av option points = 0 := by
      intro points
      rw [optionAmount, amountsFor_eq_nil hmoves, List.sum_nil]
    rw [hnone, hnone, mul_zero]
    exact ⟨le_refl _, le_refl _⟩

/-- More points for the same slots: what was effective still is, and is worth no less. -/
theorem effectiveTotal_grows (hslots : snapshot'.activeBuildSlots = snapshot.activeBuildSlots)
    (hpoints : ∀ d, buildPointsForDiscipline snapshot d ≤ buildPointsForDiscipline snapshot' d)
    (av : ActorValue) :
    0 ≤ avSign av * effectiveTotal snapshot av ∧
      avSign av * effectiveTotal snapshot av ≤ avSign av * effectiveTotal snapshot' av := by
  have hsum : ∀ options : List (BuildOptionDef ℚ), (∀ option ∈ options,
      option ∈ getBuildOptionCatalog) →
      0 ≤ avSign av * (options.map fun option => if effective snapshot option then
          optionAmount av option (buildPointsForDiscipline snapshot option.discipline)
        else 0).sum ∧
      avSign av * (options.map fun option => if effective snapshot option then
          optionAmount av option (buildPointsForDiscipline snapshot option.discipline)
        else 0).sum ≤
      avSign av * (options.map fun option => if effective snapshot' option then
          optionAmount av option (buildPointsForDiscipline snapshot' option.discipline)
        else 0).sum := by
    intro options
    induction options with
    | nil => exact fun _ => ⟨by simp, by simp⟩
    | cons option options ih =>
      intro hcatalog
      obtain ⟨hnonneg, hle⟩ := ih fun other hother => hcatalog other (List.mem_cons_of_mem _ hother)
      obtain ⟨hone, hmore⟩ := optionAmount_grows_avSign (hcatalog option List.mem_cons_self)
        (hpoints option.discipline) av
      have hstill : effective snapshot option = true → effective snapshot' option = true := by
        intro heffective
        rw [effective, Bool.and_eq_true, decide_eq_true_eq] at heffective ⊢
        rw [hslots]
        exact ⟨UInt32.le_trans heffective.1 (hpoints _), heffective.2⟩
      rw [List.map_cons, List.map_cons, List.sum_cons, List.sum_cons, mul_add, mul_add]
      cases hbefore : effective snapshot option with
      | true =>
        rw [hstill hbefore, if_pos rfl, if_pos rfl]
        exact ⟨by linarith, by linarith⟩
      | false =>
        rw [if_neg Bool.false_ne_true, mul_zero]
        refine ⟨by linarith, ?_⟩
        split_ifs
        · linarith
        · linarith
  exact hsum _ fun _ h => h

theorem derivedTotal_eq (snapshot : BuildRuntimeSnapshot) (av : ActorValue) :
    derivedTotal snapshot av =
      if 1 / 1000 < |effectiveTotal snapshot av| then effectiveTotal snapshot av else 0 := by
  unfold derivedTotal
  cases hfind : (computeDerivedBuildActorValueTotals (F := ℚ) snapshot).find? fun entry =>
      entry.1 = av with
  | none =>
    rw [List.find?_eq_none] at hfind
    split_ifs with hlarge
    · exact absurd (decide_eq_true rfl) (hfind _ (mem_derived_iff.mpr ⟨rfl, hlarge⟩))
    · rfl
  | some entry =>
    obtain ⟨av', total⟩ := entry
    have hav := List.find?_some hfind
    obtain rfl : av' = av := by simpa using hav
    obtain ⟨htotal, hlarge⟩ := mem_derived_iff.mp (List.mem_of_find?_eq_some hfind)
    rw [← htotal, if_pos hlarge]

theorem abs_derivedTotal_grows (hslots : snapshot'.activeBuildSlots = snapshot.activeBuildSlots)
    (hpoints : ∀ d, buildPointsForDiscipline snapshot d ≤ buildPointsForDiscipline snapshot' d)
    (av : ActorValue) : |derivedTotal snapshot av| ≤ |derivedTotal snapshot' av| := by
  obtain ⟨hnonneg, hle⟩ := effectiveTotal_grows hslots hpoints av
  have habs := abs_eq_of_sign (avSign_cases av) hnonneg
  have habs' := abs_eq_of_sign (avSign_cases av) (hnonneg.trans hle)
  have hgrows : |effectiveTotal snapshot av| ≤ |effectiveTotal snapshot' av| := by
    rw [habs, habs']
    exact hle
  rw [derivedTotal_eq, derivedTotal_eq]
  split_ifs with hlarge hlarge'
  · exact hgrows
  · exact absurd (hlarge.trans_le hgrows) hlarge'
  · rw [abs_zero]
    exact abs_nonneg _
  · exact le_refl _

end Growth

/-! ## The output as a whole -/

/-- Two lists in one order with the same entries. -/
theorem eq_of_sorted {entries entries' : List (ActorValue × ℚ)}
    (h : entries.Pairwise fun lhs rhs => lhs.1.raw < rhs.1.raw)
    (h' : entries'.Pairwise fun lhs rhs => lhs.1.raw < rhs.1.raw)
    (hmem : ∀ entry, entry ∈ entries ↔ entry ∈ entries') : entries = entries' := by
  have hnodup : ∀ {entries : List (ActorValue × ℚ)},
      (entries.Pairwise fun lhs rhs => lhs.1.raw < rhs.1.raw) → entries.Nodup := by
    intro entries hsorted
    refine hsorted.imp ?_
    rintro entry entry' hlt rfl
    exact UInt32.lt_irrefl _ hlt
  have hperm := (List.perm_ext_iff_of_nodup (hnodup h) (hnodup h')).mpr fun entry => hmem entry
  refine hperm.eq_of_pairwise ?_ h h'
  intro entry entry' _ _ hlt hgt
  exact absurd hgt (UInt32.lt_asymm hlt)

/-- Only the points and the options in effect matter. -/
theorem derived_congr {snapshot snapshot' : BuildRuntimeSnapshot}
    (hpoints : ∀ d, buildPointsForDiscipline snapshot' d = buildPointsForDiscipline snapshot d)
    (heffective : ∀ option ∈ getBuildOptionCatalog (F := ℚ),
      effective snapshot' option = effective snapshot option) :
    computeDerivedBuildActorValueTotals (F := ℚ) snapshot' =
      computeDerivedBuildActorValueTotals snapshot := by
  have htotal : ∀ av, effectiveTotal snapshot' av = effectiveTotal snapshot av := by
    intro av
    unfold effectiveTotal
    refine congrArg List.sum (List.map_congr_left fun option hoption => ?_)
    rw [heffective option hoption, hpoints]
  refine eq_of_sorted (sorted_derived _) (sorted_derived _) ?_
  rintro ⟨av, total⟩
  rw [mem_derived_iff, mem_derived_iff, htotal]

/-- The totals are the sums over the distinct effective options, in the order of the
actor values and without the ones of at most a thousandth.  They depend on nothing but
the points and the options in effect, and more points never bring one nearer to zero. -/
theorem derived_totals_sum (snapshot : BuildRuntimeSnapshot) :
    ((computeDerivedBuildActorValueTotals (F := ℚ) snapshot).Pairwise fun lhs rhs =>
      lhs.1.raw < rhs.1.raw) ∧
    (∀ av total, (av, total) ∈ computeDerivedBuildActorValueTotals snapshot ↔
      total = effectiveTotal snapshot av ∧ 1 / 1000 < |total|) ∧
    (∀ snapshot', (∀ d, buildPointsForDiscipline snapshot' d =
        buildPointsForDiscipline snapshot d) →
      (∀ option ∈ getBuildOptionCatalog (F := ℚ),
        effective snapshot' option = effective snapshot option) →
      computeDerivedBuildActorValueTotals (F := ℚ) snapshot' =
        computeDerivedBuildActorValueTotals snapshot) ∧
    ∀ snapshot', snapshot'.activeBuildSlots = snapshot.activeBuildSlots →
      (∀ d, buildPointsForDiscipline snapshot d ≤ buildPointsForDiscipline snapshot' d) →
      ∀ av, |derivedTotal snapshot av| ≤ |derivedTotal snapshot' av| := by
  refine ⟨sorted_derived snapshot, fun av total => mem_derived_iff, ?_, ?_⟩
  · intro snapshot' hpoints heffective
    exact derived_congr hpoints heffective
  · intro snapshot' hslots hpoints av
    exact abs_derivedTotal_grows hslots hpoints av

/-- A second copy of an option, out of place and past the first, changes nothing; a
second tier only adds. -/
theorem derived_totals_sum_ferocity :
    let ferocity : BuildRuntimeSnapshot :=
      { attackBuildPointsCenti := 800
        activeBuildSlots := fun slotId =>
          if slotId = .Attack2 then utf8 "build.attack.ferocity" else [] }
    let copied : BuildRuntimeSnapshot :=
      { ferocity with
        attackScore := 7
        activeBuildSlots := ferocity.activeBuildSlots.set .Defense1 (utf8 "build.attack.ferocity") }
    let grown : BuildRuntimeSnapshot := { ferocity with attackBuildPointsCenti := 1600 }
    computeDerivedBuildActorValueTotals (F := ℚ) copied =
        computeDerivedBuildActorValueTotals ferocity ∧
      ∀ av, |derivedTotal ferocity av| ≤ |derivedTotal grown av| := by
  intro ferocity copied grown
  refine ⟨(derived_totals_sum ferocity).2.2.1 copied ?_ (by decide +kernel),
    (derived_totals_sum ferocity).2.2.2 grown rfl ?_⟩
  · intro d
    cases d with
    | Attack => rfl
    | Defense => rfl
    | Utility => rfl
    | unnamed => rfl
  · intro d
    cases d with
    | Attack => show (800 : UInt32) ≤ 1600; decide
    | Defense => exact UInt32.le_refl _
    | Utility => exact UInt32.le_refl _
    | unnamed => exact UInt32.le_refl _

end CodexOfPower.Builds
