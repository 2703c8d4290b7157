/-
# `CodexOfPower.WrappedIds` — a session in which the action ids run out

Action ids are 64-bit numbers and nothing stops the counter at its limit.  A sword
is registered and kept; a second one is registered and undone until the counter is
back at zero (`reachable_wrapped`).  From then on the newest record has a greater id
than the counter, which the two places that raise the counter above a record notice:
a failed undo (`CodexOfPower.UndoAtomicity`) and a load (`CodexOfPower.RoundTrip`).
-/
import CodexOfPower.Session

namespace CodexOfPower.Session

open RE Builds BuildProgression Registration Serialization

/-! ## Two swords -/

def weapons : FormID → FormType := fun _ => .Weapon

/-- The player holds some swords, `count` of each, and `countAfter` once it was moved. -/
def armory (count countAfter : Int) : Environment Float32 where
  player := true
  avOwner := none
  form := fun _ => { name := utf8 "Sword" }
  lookupByID := fun _ => true
  settings := {}
  tccMaster := none
  tccDisplayed := none
  excluded := ∅
  variantBase := ∅
  questProtected := fun _ => false
  questProtectedAgain := fun _ => false
  inventory := [1, 2, 3, 4, 5, 6].map fun sword => { object := sword }
  itemCount := fun _ => count
  itemCountAfter := fun _ => countAfter
  l10n := fun _ fallback => fallback

def swordContribution : BuildScoreContribution where
  discipline := .Attack
  recordDelta := 1
  pointsDeltaCenti := 70

def swordRecord (actionId : UInt64) (sword : FormID) : UndoRecord Float32 where
  actionId := actionId
  formId := sword
  regKey := sword
  group := 0
  buildContribution := some swordContribution

/-- The first sword registered, and a next action id. -/
def oneSword (nextActionId : UInt64) : RuntimeState Float32 :=
  { newGameState with
    registeredItems := AList.insert 1 0 ∅
    attackScore := 1
    attackBuildPointsCenti := 70
    undoHistory := [swordRecord 1 1]
    undoNextActionId := nextActionId }

/-- The second sword registered as well. -/
def twoSwords (actionId : UInt64) : RuntimeState Float32 :=
  { newGameState with
    registeredItems := AList.insert 2 0 (AList.insert 1 0 ∅)
    attackScore := 2
    attackBuildPointsCenti := 140
    undoHistory := [swordRecord 1 1, swordRecord actionId 2]
    undoNextActionId := actionId + 1 }

theorem register_first :
    (tryRegisterItem weapons (armory 1 0) newGameState 1).1 = oneSword 2 ∧
      (tryRegisterItem weapons (armory 1 0) newGameState 1).2.success = true := ⟨rfl, rfl⟩

theorem register_second (n : UInt64) :
    (tryRegisterItem weapons (armory 1 0) (oneSword n) 2).1 = twoSwords n ∧
      (tryRegisterItem weapons (armory 1 0) (oneSword n) 2).2.success = true := by
  have hkey : getRegisterKey (armory 1 0) 2 = 2 := rfl
  have hpasses : registrationRefusal weapons (armory 1 0) (oneSword n) 2 2 = none := rfl
  have hgroup : getDiscoveryGroup weapons (armory 1 0) (oneSword n) 2 = 0 := rfl
  have hcommit : (commitRegistration weapons (armory 1 0) (oneSword n) 2 2 0).1 = twoSwords n := rfl
  unfold tryRegisterItem
  dsimp only
  rw [hkey, hpasses]
  dsimp only
  rw [hgroup]
  exact ⟨hcommit, rfl⟩

theorem undo_second (n : UInt64) :
    (tryUndoRegistration (armory 0 1) (twoSwords n) n).1 = oneSword (n + 1) := by
  have hhistory : (twoSwords n).undoHistory = [swordRecord 1 1] ++ [swordRecord n 2] := rfl
  have hpop := RegistrationStateStore.popLatestUndoRecord_newest hhistory
  have hrollback : (rollbackRegistrationContributionDetailed
      (takenBack (twoSwords n) [swordRecord 1 1] (swordRecord n 2)) swordContribution).1 =
        oneSword (n + 1) := by
    rw [rollbackRegistrationContributionDetailed_eq ⟨by decide, by decide⟩]
    show { oneSword (n + 1) with
      attackScore := saturatingSub 2 1
      attackBuildPointsCenti := saturatingSub 140 70 } = _
    rw [show saturatingSub 2 1 = 1 from rfl, show saturatingSub 140 70 = 70 from rfl]
    rfl
  rw [show (swordRecord n 2).actionId = n from rfl] at hpop
  unfold tryUndoRegistration
  rw [hpop]
  exact hrollback

/-! ## The run -/

variable (files : Files)

theorem reachable_newGame : (system weapons files).Reachable { state := newGameState } :=
  .of_init ⟨fun _ => none, fun _ => true, none, by rw [newGame_eq]⟩

/-- After `k` rounds with the second sword. -/
theorem reachable_rounds (k : Nat) : (system weapons files).Reachable
    { state := oneSword (2 + UInt64.ofNat k), saves := [], registrations := 1 + k } := by
  induction k with
  | zero =>
    have hstep := (reachable_newGame files).step (.act _ (.register (armory 1 0) 1))
    obtain ⟨hstate, hsuccess⟩ := register_first
    unfold Session.act perform at hstep
    dsimp only at hstep
    rw [hstate, hsuccess] at hstep
    exact hstep
  | succ k ih =>
    have hregister := ih.step (.act _ (.register (armory 1 0) 2))
    obtain ⟨hstate, hsuccess⟩ := register_second (2 + UInt64.ofNat k)
    unfold Session.act perform at hregister
    dsimp only at hregister
    rw [hstate, hsuccess] at hregister
    have hundo := hregister.step (.act _ (.undo (armory 0 1) (2 + UInt64.ofNat k)))
    unfold Session.act perform at hundo
    dsimp only at hundo
    rw [undo_second, if_pos rfl, Nat.add_zero, UInt64.add_assoc, Nat.add_assoc] at hundo
    rw [UInt64.ofNat_add]
    exact hundo

/-- The counter is back at zero, and a record with id 1 is in the history. -/
theorem reachable_wrapped : ∃ registrations, (system weapons files).Reachable
    { state := oneSword 0, saves := [], registrations } := by
  have h := reachable_rounds files (2 ^ 64 - 2)
  exact ⟨_, h⟩

end CodexOfPower.Session
