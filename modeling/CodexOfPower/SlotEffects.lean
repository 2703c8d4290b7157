/-
# `CodexOfPower.SlotEffects` — the derived totals, option by option

The loop over the slots is read as a list: the options in effect, each once, in
slot order.  Each adds its entries to the totals (`accumulatedTotals_eq`), so the
total of an actor value is the sum of the entries under it (`lookup_foldl_addDelta`),
and what has an entry at all is decided by the options alone (`actorValues_option`).
-/
import CodexOfPower.BuildEffectRuntime

namespace CodexOfPower.Builds

open RE Rewards

variable {F : Type} [FloatType F]

def totalOf (totals : UnorderedMap ActorValue F) (av : ActorValue) : F :=
  (totals.lookup av).getD 0.0

def optionEntries (option : BuildOptionDef F) (pointsCenti : BuildPointCenti) :
    List (ActorValue × F) :=
  (getResolvedBuildEffectBundle option pointsCenti).flatMap fun part =>
    resolveActorValueDeltas part.effectType part.effectKey part.magnitude

/-! ## The actor values of an option -/

/-- Which actor values a key stands for does not depend on the amount. -/
theorem actorValues_key (effectKey : Text) (amount amount' : F) :
    (resolveActorValueKey effectKey amount).map Prod.fst =
      (resolveActorValueKey effectKey amount').map Prod.fst := by
  simp only [resolveActorValueKey, apply_ite (List.map Prod.fst), List.map_cons, List.map_nil]

theorem actorValues_scaled (effectType : BuildEffectType) (effectKey : Text)
    (option : BuildOptionDef F) (points points' : BuildPointCenti) :
    (resolveActorValueDeltas effectType effectKey
        (getScaledBuildMagnitude option points)).map Prod.fst =
      (resolveActorValueDeltas effectType effectKey
        (getScaledBuildMagnitude option points')).map Prod.fst := by
  unfold getScaledBuildMagnitude
  -- the kind of the magnitude is the option's, whatever the points
  rcases option.magnitude <;> rcases option.magnitudePerTier <;> cases effectType
  all_goals first | rfl | exact actorValues_key _ _ _ | skip
  all_goals
    simp only [resolveActorValueDeltas, toFloatMagnitude, toIntMagnitude]
    split_ifs <;> rfl

/-- Which actor values an option moves does not depend on the points. -/
theorem actorValues_option (option : BuildOptionDef F) (points points' : BuildPointCenti) :
    (optionEntries option points).map Prod.fst = (optionEntries option points').map Prod.fst := by
  simp only [optionEntries, getResolvedBuildEffectBundle, makeSingleEffectBundle]
  split_ifs <;>
    simp only [List.flatMap_cons, List.flatMap_nil, List.append_nil, List.map_append] <;>
    rw [actorValues_scaled _ _ option points points']
  · exact congrArg _ (actorValues_key _ _ _)
  · exact congrArg _ (actorValues_key _ _ _)
  · exact congrArg _ (actorValues_key _ _ _)
  · rfl

/-! ## The options in effect -/

/-- The loop's decision about one slot, after the options in front of it. -/
def takeOption (snapshot : BuildRuntimeSnapshot) (taken : List (BuildOptionDef F))
    (slotId : BuildSlotId) : List (BuildOptionDef F) :=
  match slotOption snapshot slotId with
  | none => taken
  | some option =>
    if option.stackRule = .OnceOnly ∧ ∃ other ∈ taken, other.id = option.id then taken
    else taken ++ [option]

/-- The options that count, each once, in slot order. -/
def optionsInEffect (snapshot : BuildRuntimeSnapshot) : List (BuildOptionDef F) :=
  getInitialBuildSlotLayout.foldl (takeOption snapshot) []

def entriesOf (snapshot : BuildRuntimeSnapshot) (options : List (BuildOptionDef F)) :
    List (ActorValue × F) :=
  options.flatMap fun option =>
    optionEntries option (buildPointsForDiscipline snapshot option.discipline)

theorem foldl_accumulateEffect (bundle : BuildResolvedEffectBundle F)
    (totals : UnorderedMap ActorValue F) :
    bundle.foldl accumulateEffect totals =
      (bundle.flatMap fun part =>
        resolveActorValueDeltas part.effectType part.effectKey part.magnitude).foldl
          addDelta totals := by
  rw [List.foldl_flatMap]
  rfl

/-- The loop keeps two things: the totals are those of the options taken so far,
and the ids it remembers are theirs. -/
theorem foldl_accumulateSlot (snapshot : BuildRuntimeSnapshot) (slots : List BuildSlotId)
    (acc : UnorderedMap ActorValue F × List Text) (taken : List (BuildOptionDef F))
    (htotals : acc.1 = (entriesOf snapshot taken).foldl addDelta ∅)
    (hids : ∀ id, id ∈ acc.2 ↔ id ∈ taken.map BuildOptionDef.id) :
    (slots.foldl (accumulateSlot snapshot) acc).1 =
      (entriesOf snapshot (slots.foldl (takeOption snapshot) taken)).foldl addDelta ∅ := by
  induction slots generalizing acc taken with
  | nil => exact htotals
  | cons slotId slots ih =>
    rw [List.foldl_cons, List.foldl_cons]
    cases hslot : slotOption (F := F) snapshot slotId with
    | none =>
      have hacc : accumulateSlot snapshot acc slotId = acc := by simp [accumulateSlot, hslot]
      have htaken : takeOption snapshot taken slotId = taken := by simp [takeOption, hslot]
      rw [hacc, htaken]
      exact ih acc taken htotals hids
    | some option =>
      by_cases honce : option.stackRule = .OnceOnly ∧ option.id ∈ taken.map BuildOptionDef.id
      · have hacc : accumulateSlot snapshot acc slotId = acc := by
          simp [accumulateSlot, hslot, honce.1, (hids option.id).mpr honce.2]
        have htaken : takeOption snapshot taken slotId = taken := by
          rw [takeOption, hslot]
          exact if_pos ⟨honce.1, List.mem_map.mp honce.2⟩
        rw [hacc, htaken]
        exact ih acc taken htotals hids
      · have htaken : takeOption snapshot taken slotId = taken ++ [option] := by
          rw [takeOption, hslot]
          exact if_neg fun h => honce ⟨h.1, List.mem_map.mpr h.2⟩
        have hacc : accumulateSlot snapshot acc slotId =
            ((getResolvedBuildEffectBundle option
                (buildPointsForDiscipline snapshot option.discipline)).foldl
                  accumulateEffect acc.1, option.id :: acc.2) := by
          rw [accumulateSlot, hslot]
          exact if_neg fun h => honce ⟨h.1, (hids option.id).mp h.2⟩
        rw [hacc, htaken]
        refine ih _ _ ?_ ?_
        · rw [foldl_accumulateEffect, htotals, ← List.foldl_append, entriesOf, entriesOf,
            List.flatMap_append]
          simp [optionEntries]
        · intro id
          simp [hids, or_comm]

/-- The accumulated totals are the entries of the options in effect, added up. -/
theorem accumulatedTotals_eq (snapshot : BuildRuntimeSnapshot) :
    accumulatedTotals (F := F) snapshot =
      (entriesOf snapshot (optionsInEffect snapshot)).foldl addDelta ∅ :=
  foldl_accumulateSlot snapshot getInitialBuildSlotLayout (∅, []) [] rfl fun _ => Iff.rfl

/-- What the loop may do with a slot. -/
theorem takeOption_cases (snapshot : BuildRuntimeSnapshot) (taken : List (BuildOptionDef F))
    (slotId : BuildSlotId) :
    takeOption snapshot taken slotId = taken ∧
        (∀ option, slotOption (F := F) snapshot slotId = some option →
          option.id ∈ taken.map BuildOptionDef.id) ∨
      ∃ option, slotOption snapshot slotId = some option ∧
        option.id ∉ taken.map BuildOptionDef.id ∧
        takeOption snapshot taken slotId = taken ++ [option] := by
  cases hslot : slotOption (F := F) snapshot slotId with
  | none =>
    refine .inl ⟨?_, nofun⟩
    rw [takeOption, hslot]
  | some option =>
    -- every option may count once only
    have hrule : option.stackRule = .OnceOnly := rfl
    by_cases hmem : option.id ∈ taken.map BuildOptionDef.id
    · refine .inl ⟨?_, ?_⟩
      · rw [takeOption, hslot]
        exact if_pos ⟨hrule, List.mem_map.mp hmem⟩
      · rintro _ ⟨⟩
        exact hmem
    · refine .inr ⟨option, rfl, hmem, ?_⟩
      rw [takeOption, hslot]
      exact if_neg fun h => hmem (List.mem_map.mpr h.2)

/-- Options that stand in slots, each id once. -/
structure TakenFrom (snapshot : BuildRuntimeSnapshot) (taken : List (BuildOptionDef F)) :
    Prop where
  slot : ∀ option ∈ taken, ∃ slotId, slotOption snapshot slotId = some option
  nodup : (taken.map BuildOptionDef.id).Nodup

theorem TakenFrom.take {snapshot : BuildRuntimeSnapshot} {taken : List (BuildOptionDef F)}
    (h : TakenFrom snapshot taken) (slotId : BuildSlotId) :
    TakenFrom snapshot (takeOption snapshot taken slotId) := by
  rcases takeOption_cases snapshot taken slotId with ⟨hsame, -⟩ | ⟨option, hslot, hnew, htaken⟩
  · rw [hsame]
    exact h
  · rw [htaken]
    constructor
    · intro option' hmem
      rcases List.mem_append.mp hmem with hmem | hmem
      · exact h.slot option' hmem
      · rw [List.mem_singleton] at hmem
        exact ⟨slotId, hmem ▸ hslot⟩
    · rw [List.map_append, List.map_singleton]
      exact List.Nodup.append h.nodup (List.nodup_singleton _)
        (List.disjoint_singleton.mpr hnew)

theorem takenFrom_foldl {snapshot : BuildRuntimeSnapshot} (slots : List BuildSlotId)
    {taken : List (BuildOptionDef F)} (h : TakenFrom snapshot taken) :
    TakenFrom snapshot (slots.foldl (takeOption snapshot) taken) := by
  induction slots generalizing taken with
  | nil => exact h
  | cons slotId slots ih => exact ih (h.take slotId)

theorem takenFrom_optionsInEffect (snapshot : BuildRuntimeSnapshot) :
    TakenFrom (F := F) snapshot (optionsInEffect snapshot) :=
  takenFrom_foldl _ ⟨nofun, List.nodup_nil⟩

/-- What was taken stays, and a slot that was visited is represented. -/
theorem id_mem_foldl_takeOption {snapshot : BuildRuntimeSnapshot} (slots : List BuildSlotId)
    (taken : List (BuildOptionDef F)) {option : BuildOptionDef F}
    (h : option.id ∈ taken.map BuildOptionDef.id ∨
      ∃ slotId ∈ slots, slotOption snapshot slotId = some option) :
    option.id ∈ (slots.foldl (takeOption snapshot) taken).map BuildOptionDef.id := by
  induction slots generalizing taken with
  | nil =>
    rcases h with htaken | ⟨slotId, hslots, -⟩
    · exact htaken
    · cases hslots
  | cons head slots ih =>
    refine ih _ ?_
    rcases takeOption_cases snapshot taken head with ⟨hsame, hhead⟩ | ⟨new, hnew, -, htaken⟩
    · rw [hsame]
      rcases h with htaken | ⟨slotId, hslots, hslot⟩
      · exact .inl htaken
      · rcases List.mem_cons.mp hslots with rfl | hslots
        · exact .inl (hhead option hslot)
        · exact .inr ⟨slotId, hslots, hslot⟩
    · rw [htaken, List.map_append, List.mem_append]
      rcases h with htaken | ⟨slotId, hslots, hslot⟩
      · exact .inl (.inl htaken)
      · rcases List.mem_cons.mp hslots with rfl | hslots
        · rw [hslot] at hnew
          cases hnew
          exact .inl (.inr List.mem_cons_self)
        · exact .inr ⟨slotId, hslots, hslot⟩

theorem findOption_of_slotOption {snapshot : BuildRuntimeSnapshot} {slotId : BuildSlotId}
    {option : BuildOptionDef F} (hslot : slotOption snapshot slotId = some option) :
    findOption option.id = some option := by
  simp only [slotOption] at hslot
  split_ifs at hslot
  split at hslot
  · cases hslot
  · rename_i found hfind
    split_ifs at hslot
    cases hslot
    rw [id_of_findOption hfind]
    exact hfind

/-- The options in effect are those that the slots hold. -/
theorem mem_optionsInEffect {snapshot : BuildRuntimeSnapshot} {option : BuildOptionDef F} :
    option ∈ optionsInEffect snapshot ↔ ∃ slotId, slotOption snapshot slotId = some option := by
  have htaken := takenFrom_optionsInEffect (F := F) snapshot
  refine ⟨htaken.slot option, ?_⟩
  rintro ⟨slotId, hslot⟩
  have hid := id_mem_foldl_takeOption getInitialBuildSlotLayout []
    (.inr ⟨slotId, mem_getInitialBuildSlotLayout slotId, hslot⟩)
  obtain ⟨other, hother, hsame⟩ := List.mem_map.mp hid
  -- one id, one option
  obtain ⟨slotId', hslot'⟩ := htaken.slot other hother
  have hfind := findOption_of_slotOption hslot
  rw [← hsame, findOption_of_slotOption hslot'] at hfind
  cases hfind
  exact hother

theorem mem_catalog_of_mem_optionsInEffect {snapshot : BuildRuntimeSnapshot}
    {option : BuildOptionDef F} (hmem : option ∈ optionsInEffect snapshot) :
    option ∈ getBuildOptionCatalog (F := F) := by
  obtain ⟨slotId, hslot⟩ := mem_optionsInEffect.mp hmem
  exact mem_catalog_of_findOption (findOption_of_slotOption hslot)

/-! ## Adding entries up -/

def amountsFor (av : ActorValue) (entries : List (ActorValue × F)) : List F :=
  (entries.filter fun entry => entry.1 = av).map Prod.snd

def sumFrom (total : Option F) (amounts : List F) : Option F :=
  amounts.foldl (fun total amount => some (total.getD 0.0 + amount)) total

theorem lookup_foldl_addDelta (entries : List (ActorValue × F))
    (totals : UnorderedMap ActorValue F) (av : ActorValue) :
    (entries.foldl addDelta totals).lookup av =
      sumFrom (totals.lookup av) (amountsFor av entries) := by
  induction entries generalizing totals with
  | nil => rfl
  | cons entry entries ih =>
    rw [List.foldl_cons, ih, addDelta, UnorderedMap.lookup_insert_eq]
    by_cases hav : av = entry.1
    · subst hav
      simp [amountsFor, sumFrom]
    · have hne : ¬ entry.1 = av := fun h => hav h.symm
      simp [amountsFor, sumFrom, hav, hne]

/-- An option without an entry for the actor value contributes nothing. -/
theorem amountsFor_eq_nil {option : BuildOptionDef F} {pointsCenti : BuildPointCenti}
    {av : ActorValue} (h : av ∉ (optionEntries option 0).map Prod.fst) :
    amountsFor av (optionEntries option pointsCenti) = [] := by
  rw [actorValues_option option 0 pointsCenti] at h
  unfold amountsFor
  rw [List.map_eq_nil_iff, List.filter_eq_nil_iff]
  intro entry hentry hav
  rw [decide_eq_true_eq] at hav
  exact h (hav ▸ List.mem_map_of_mem hentry)

omit [FloatType F] in
theorem amountsFor_flatMap {α : Type} (av : ActorValue) (xs : List α)
    (entries : α → List (ActorValue × F)) :
    amountsFor av (xs.flatMap entries) = xs.flatMap fun x => amountsFor av (entries x) := by
  simp only [amountsFor, List.filter_flatMap, List.map_flatMap]

theorem nodup_optionsInEffect (snapshot : BuildRuntimeSnapshot) :
    (optionsInEffect (F := F) snapshot).Nodup :=
  (takenFrom_optionsInEffect snapshot).nodup.of_map _

/-- The accumulated total of an actor value: the amounts of the options in effect, summed. -/
theorem lookup_accumulatedTotals (snapshot : BuildRuntimeSnapshot) (av : ActorValue) :
    (accumulatedTotals (F := F) snapshot).lookup av =
      sumFrom none ((optionsInEffect snapshot).flatMap fun option =>
        amountsFor av
          (optionEntries option (buildPointsForDiscipline snapshot option.discipline))) := by
  rw [accumulatedTotals_eq, lookup_foldl_addDelta, UnorderedMap.lookup_empty, entriesOf,
    amountsFor_flatMap]

end CodexOfPower.Builds
