/-
# `CodexOfPower.SyncOutcome` — what a sync does to one actor value

The loop of a sync goes over a set of actor values and rebuilds the ledger as it
goes.  Each round writes under its own actor value only and reads the maps as
they were before the loop, so the result is one function of the actor value:
`syncedDelta` is what the player is asked to take, `syncedTotal` what the ledger
says afterwards (`lookup_sync`, `snd_sync`).
-/
import CodexOfPower.SlotEffects

namespace CodexOfPower.Builds

open RE Rewards

variable {F : Type} [FloatType F]

section Round

variable (desired current : UnorderedMap ActorValue F) (reading : ActorValue → F)

/-- What a sync would give to the player. -/
def syncedDelta (av : ActorValue) : F :=
  clampBuildSyncDeltaForActorValue av (reading av) (totalOf desired av - totalOf current av)

/-- The calls to `RestoreActorValue`: one, or none below the epsilon. -/
def syncedCalls (av : ActorValue) : List (ActorValue × F) :=
  if FloatType.abs (syncedDelta desired current reading av) ≤ kRewardCapEpsilon then []
  else [(av, syncedDelta desired current reading av)]

def keptTotal (total : F) : Option F :=
  if FloatType.abs total ≤ kRewardCapEpsilon then none else some total

def syncedTotal (av : ActorValue) : Option F :=
  if FloatType.abs (syncedDelta desired current reading av) ≤ kRewardCapEpsilon then
    keptTotal (totalOf current av)
  else keptTotal (totalOf current av + syncedDelta desired current reading av)

variable {desired current reading}

theorem lookup_syncActorValue (acc : UnorderedMap ActorValue F × List (ActorValue × F))
    (av av' : ActorValue) :
    (syncActorValue desired current reading acc av).1.lookup av' =
      if av' = av then syncedTotal desired current reading av else acc.1.lookup av' := by
  simp only [syncActorValue, syncedTotal, syncedDelta, keptTotal, totalOf]
  split_ifs <;> simp_all [UnorderedMap.lookup_insert_eq, UnorderedMap.lookup_erase_eq]

theorem snd_syncActorValue (acc : UnorderedMap ActorValue F × List (ActorValue × F))
    (av : ActorValue) :
    (syncActorValue desired current reading acc av).2 =
      acc.2 ++ syncedCalls desired current reading av := by
  simp only [syncActorValue, syncedCalls, syncedDelta, totalOf]
  split_ifs <;> simp_all

theorem lookup_foldl_syncActorValue (avs : List ActorValue)
    (acc : UnorderedMap ActorValue F × List (ActorValue × F)) (av : ActorValue) :
    (avs.foldl (syncActorValue desired current reading) acc).1.lookup av =
      if av ∈ avs then syncedTotal desired current reading av else acc.1.lookup av := by
  induction avs generalizing acc with
  | nil => simp
  | cons head avs ih =>
    rw [List.foldl_cons, ih, lookup_syncActorValue]
    by_cases hmem : av ∈ avs
    · simp [hmem]
    · by_cases hav : av = head
      · subst hav; simp [hmem]
      · simp [hmem, hav]

theorem snd_foldl_syncActorValue (avs : List ActorValue)
    (acc : UnorderedMap ActorValue F × List (ActorValue × F)) :
    (avs.foldl (syncActorValue desired current reading) acc).2 =
      acc.2 ++ avs.flatMap (syncedCalls desired current reading) := by
  induction avs generalizing acc with
  | nil => simp
  | cons head avs ih =>
    rw [List.foldl_cons, ih, snd_syncActorValue, List.flatMap_cons, List.append_assoc]

end Round

/-! ## The whole loop -/

omit [FloatType F] in
theorem mem_syncedActorValues {current desired : UnorderedMap ActorValue F} {av : ActorValue} :
    av ∈ syncedActorValues current desired ↔ av ∈ current ∨ av ∈ desired := by
  rw [syncedActorValues, List.mem_dedup, List.mem_append, AList.mem_keys, AList.mem_keys]

omit [FloatType F] in
theorem nodup_syncedActorValues (current desired : UnorderedMap ActorValue F) :
    (syncedActorValues current desired).Nodup :=
  List.nodup_dedup _

/-- The ledger after a sync, entry by entry. -/
theorem lookup_sync (reading : ActorValue → F) (state : RuntimeState F) (av : ActorValue) :
    (syncCurrentBuildEffectsToPlayer (some reading) state).1.buildAppliedEffectTotals.lookup av =
      if av ∈ syncedActorValues state.buildAppliedEffectTotals (desiredTotals state) then
        syncedTotal (desiredTotals state) state.buildAppliedEffectTotals reading av
      else none := by
  refine (lookup_foldl_syncActorValue
    (syncedActorValues state.buildAppliedEffectTotals (desiredTotals state))
    (state.buildAppliedEffectTotals, []) av).trans ?_
  by_cases hmem : av ∈ syncedActorValues state.buildAppliedEffectTotals (desiredTotals state)
  · rw [if_pos hmem, if_pos hmem]
  · rw [if_neg hmem, if_neg hmem]
    rw [mem_syncedActorValues, not_or] at hmem
    exact AList.lookup_eq_none.mpr hmem.1

theorem snd_sync (reading : ActorValue → F) (state : RuntimeState F) :
    (syncCurrentBuildEffectsToPlayer (some reading) state).2 =
      (syncedActorValues state.buildAppliedEffectTotals (desiredTotals state)).flatMap
        (syncedCalls (desiredTotals state) state.buildAppliedEffectTotals reading) :=
  (snd_foldl_syncActorValue
    (syncedActorValues state.buildAppliedEffectTotals (desiredTotals state))
    (state.buildAppliedEffectTotals, [])).trans (List.nil_append _)

theorem desiredTotals_sync (avOwner : Option (ActorValue → F)) (state : RuntimeState F) :
    desiredTotals (syncCurrentBuildEffectsToPlayer avOwner state).1 = desiredTotals state := by
  rw [sync_frame]
  rfl

/-! ## What the slots are worth -/

section Derived

variable (snapshot : BuildRuntimeSnapshot)

theorem derived_perm : (computeDerivedBuildActorValueTotals (F := F) snapshot).Perm
    ((accumulatedTotals snapshot).toPairs.filter fun entry =>
      !(FloatType.abs entry.2 ≤ kRewardCapEpsilon)) := List.mergeSort_perm _ _

theorem nodup_fst_derived :
    ((computeDerivedBuildActorValueTotals (F := F) snapshot).map Prod.fst).Nodup := by
  refine ((derived_perm snapshot).map Prod.fst).nodup_iff.mpr ?_
  exact (UnorderedMap.nodup_fst_toPairs _).sublist (List.filter_sublist.map _)

/-- The derived totals are the accumulated ones that do not vanish. -/
theorem mem_derived {av : ActorValue} {total : F} :
    (av, total) ∈ computeDerivedBuildActorValueTotals snapshot ↔
      (accumulatedTotals snapshot).lookup av = some total ∧
        ¬ FloatType.abs total ≤ kRewardCapEpsilon := by
  rw [(derived_perm snapshot).mem_iff, List.mem_filter, UnorderedMap.mem_toPairs]
  simp

end Derived

/-- The desired totals, as a map, are the accumulated ones that do not vanish. -/
theorem lookup_desiredTotals (state : RuntimeState F) (av : ActorValue) (total : F) :
    (desiredTotals state).lookup av = some total ↔
      (accumulatedTotals (snapshotCurrentBuildRuntime state)).lookup av = some total ∧
        ¬ FloatType.abs total ≤ kRewardCapEpsilon := by
  have hnodup := nodup_fst_derived (F := F) (snapshotCurrentBuildRuntime state)
  show (UnorderedMap.emplaceAll (computeDerivedBuildActorValueTotals
    (snapshotCurrentBuildRuntime state)) ∅).lookup av = some total ↔ _
  rw [UnorderedMap.emplaceAll_eq_insertAll hnodup fun k _ => AList.notMem_empty k,
    UnorderedMap.lookup_insertAll_iff hnodup, mem_derived]

end CodexOfPower.Builds
