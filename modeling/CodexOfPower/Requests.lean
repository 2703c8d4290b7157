/-
# `CodexOfPower.Requests` — the build requests of the UI

What the main-thread task of each build request does to the state, after its
payload was parsed and the combat lock checked.

## What is not said

The parsing of a payload and the check for combat are in `CodexOfPower.BuildPanel`, next to
the page that sends it.  Toasts and the refresh of the page are left out here
(`CodexOfPower.PendingRefresh`).
-/
import CodexOfPower.BuildEffectRuntime

namespace CodexOfPower.PrismaUIManager

open RE Builds

variable {F : Type} [FloatType F] (avOwner : Option (ActorValue → F))

/-- `HandleActivateBuildOptionRequest` -/
def activateBuildOption (state : RuntimeState F) (slotId : BuildSlotId) (optionId : Text) :
    RuntimeState F × Bool :=
  let (state, applied) := BuildStateStore.setActiveSlot state slotId optionId
  (if applied then (syncCurrentBuildEffectsToPlayer avOwner state).1 else state, applied)

/-- `HandleDeactivateBuildOptionRequest` -/
def deactivateBuildOption (state : RuntimeState F) (slotId : BuildSlotId) : RuntimeState F :=
  (syncCurrentBuildEffectsToPlayer avOwner (BuildStateStore.clearActiveSlot state slotId)).1

/-- `HandleSwapBuildOptionRequest` -/
def swapBuildOption (state : RuntimeState F) (fromSlotId toSlotId : BuildSlotId)
    (optionId : Text) : RuntimeState F × Bool :=
  if BuildStateStore.getActiveSlot state fromSlotId = some optionId then
    let state := BuildStateStore.clearActiveSlot state fromSlotId
    let (state, applied) := BuildStateStore.setActiveSlot state toSlotId optionId
    if !applied then ((BuildStateStore.setActiveSlot state fromSlotId optionId).1, applied)
    else ((syncCurrentBuildEffectsToPlayer avOwner state).1, applied)
  else (state, false)

/-! ## A request moves the slots and the ledger, and nothing else -/

theorem activate_frame (state : RuntimeState F) (slotId : BuildSlotId) (optionId : Text) :
    ∃ slots ledger, (activateBuildOption avOwner state slotId optionId).1 =
      { state with activeBuildSlots := slots, buildAppliedEffectTotals := ledger } := by
  obtain ⟨slots, hset⟩ := BuildStateStore.setActiveSlot_frame state slotId optionId
  unfold activateBuildOption
  dsimp only
  rw [hset]
  split_ifs
  · rw [sync_frame]; exact ⟨_, _, rfl⟩
  · exact ⟨_, _, rfl⟩

theorem deactivate_frame (state : RuntimeState F) (slotId : BuildSlotId) :
    ∃ slots ledger, deactivateBuildOption avOwner state slotId =
      { state with activeBuildSlots := slots, buildAppliedEffectTotals := ledger } := by
  unfold deactivateBuildOption
  rw [sync_frame]
  exact ⟨_, _, rfl⟩

theorem swap_frame (state : RuntimeState F) (fromSlotId toSlotId : BuildSlotId)
    (optionId : Text) :
    ∃ slots ledger, (swapBuildOption avOwner state fromSlotId toSlotId optionId).1 =
      { state with activeBuildSlots := slots, buildAppliedEffectTotals := ledger } := by
  unfold swapBuildOption
  split_ifs with hactive
  · obtain ⟨slots, hset⟩ := BuildStateStore.setActiveSlot_frame
      (BuildStateStore.clearActiveSlot state fromSlotId) toSlotId optionId
    dsimp only
    rw [hset]
    split_ifs
    · obtain ⟨slots', hback⟩ := BuildStateStore.setActiveSlot_frame
        { BuildStateStore.clearActiveSlot state fromSlotId with activeBuildSlots := slots }
        fromSlotId optionId
      rw [hback]
      exact ⟨_, _, rfl⟩
    · rw [sync_frame]
      exact ⟨_, _, rfl⟩
  · exact ⟨_, _, rfl⟩

end CodexOfPower.PrismaUIManager
