/-
# `CodexOfPower.MigrationUndo` — undoing a registration that was migrated

A migration credits every registered item by its form type, or by its group.  The
undo record of the item was written before that, and says what the version that wrote
it would take back: nothing (versions 1 and 2), a fixed number of points for each
discipline (version 3), or a number of its own (version 4).  The undo trusts the
record.  So the totals after the undo are those a migration without the item would
give exactly when, discipline by discipline, what is taken back is what was credited,
or the rest is worth nothing and no less is taken back than was credited
(`undo_after_migration_iff`).

## What is not said

Only the newest record can be undone, so only that is considered, and only for the first
undo after the load.  What the undo gives the player is in `CodexOfPower.Registration`, and
the legacy reward deltas it may take back are in `CodexOfPower.RollbackAgreement`.
-/
import CodexOfPower.LegacyMigration
import CodexOfPower.SerializationSafety
import CodexOfPower.SerializationSave
import CodexOfPower.WrappedIds

namespace CodexOfPower

open RE Builds BuildProgression Registration Serialization SerializationStateStore

/-! ## What is credited, and what is taken back -/

section Credit

variable {lookupFormType : FormTypeLookup} {resolver : Option LegacyDisciplineResolver}
  {items : UnorderedMap FormID UInt32} {regKey : FormID} {group : UInt32}

theorem sum_toPairs_erase {f : FormID × UInt32 → UInt32} (h : items.lookup regKey = some group) :
    (items.toPairs.map f).sum =
      (UnorderedMap.toPairs (items.erase regKey) |>.map f).sum + f (regKey, group) := by
  have hperm := (UnorderedMap.toPairs_perm_erase h).map f
  have hsum : (items.toPairs.map f).sum =
      (((regKey, group) :: UnorderedMap.toPairs (items.erase regKey)).map f).sum :=
    hperm.foldr_eq' (fun x _ y _ z => by
      rw [← UInt32.add_assoc, UInt32.add_comm y x, UInt32.add_assoc]) 0
  rw [hsum, List.map_cons, List.sum_cons, UInt32.add_comm]

def takenScore (record : UndoRecord Float32) (d : BuildDiscipline) : UInt32 :=
  match record.buildContribution with
  | none => 0
  | some c => if Effective c ∧ d = c.discipline then c.recordDelta.toUInt32 else 0

/-- The points a record takes back from a discipline. -/
def takenPoints (record : UndoRecord Float32) (d : BuildDiscipline) : UInt32 :=
  match record.buildContribution with
  | none => 0
  | some c => if Effective c ∧ d = c.discipline then c.pointsDeltaCenti.toUInt32 else 0

/-- Taking `taken` back from `others` and `own` leaves `others`. -/
def Matches (others own taken : UInt32) : Prop :=
  (own = taken ∧ others.toNat + own.toNat < 2 ^ 32) ∨ (others = 0 ∧ own ≤ taken)

theorem saturatingSub_add_eq_iff (others own taken : UInt32) :
    saturatingSub (others + own) taken = others ↔ Matches others own taken := by
  have hothers := others.toNat_lt
  have hown := own.toNat_lt
  have htaken := taken.toNat_lt
  have hzero : others = 0 ↔ others.toNat = 0 := UInt32.toNat_inj.symm
  unfold Matches
  rw [← UInt32.toNat_inj, toNat_saturatingSub, UInt32.toNat_add, hzero,
    ← UInt32.toNat_inj (a := own), UInt32.le_iff_toNat_le]
  omega

theorem saturatingSub_zero (current : UInt32) : saturatingSub current 0 = current := by
  rw [← UInt32.toNat_inj, toNat_saturatingSub]
  rfl

end Credit

/-! ## The totals after the undo -/

section Undo

variable {env : Environment Float32} {state : RuntimeState Float32}
  {older : List (UndoRecord Float32)} {record : UndoRecord Float32}

theorem totals_undone (env : Environment Float32) (state : RuntimeState Float32)
    (older : List (UndoRecord Float32)) (record : UndoRecord Float32) {d : BuildDiscipline}
    (hd : d.IsDeclared) :
    (undone env state older record).score d =
        saturatingSub (state.score d) (takenScore record d) ∧
      (undone env state older record).pointsCenti d =
        saturatingSub (state.pointsCenti d) (takenPoints record d) := by
  unfold takenScore takenPoints
  cases hc : record.buildContribution with
  | none =>
    rw [undone_of_no_contribution env state older hc, Rewards.rollbackRewardDeltas_frame]
    exact ⟨(saturatingSub_zero _).symm, (saturatingSub_zero _).symm⟩
  | some c =>
    obtain ⟨ledger, heq⟩ := undone_of_contribution env state older hc
    rw [heq]
    change (rollbackRegistrationContributionDetailed (takenBack state older record) c).1.score d =
        _ ∧
      (rollbackRegistrationContributionDetailed (takenBack state older record) c).1.pointsCenti d =
        _
    dsimp only
    by_cases heffective : Effective c
    · rw [score_rollback heffective hd, pointsCenti_rollback heffective hd]
      by_cases hsame : d = c.discipline
      · rw [if_pos hsame, if_pos hsame, if_pos ⟨heffective, hsame⟩, if_pos ⟨heffective, hsame⟩]
        exact ⟨rfl, rfl⟩
      · have hnot : ¬ (Effective c ∧ d = c.discipline) := fun h => hsame h.2
        rw [if_neg hsame, if_neg hsame, if_neg hnot, if_neg hnot, saturatingSub_zero,
          saturatingSub_zero]
        exact ⟨rfl, rfl⟩
    · have hnot : ¬ (Effective c ∧ d = c.discipline) := fun h => heffective h.1
      rw [rollbackRegistrationContributionDetailed_of_not_effective heffective, if_neg hnot,
        if_neg hnot, saturatingSub_zero, saturatingSub_zero]
      exact ⟨rfl, rfl⟩

end Undo

/-! ## Undoing after a migration -/

section Migration

variable {lookupFormType : FormTypeLookup} {resolveFormID : FormIDResolver}
  {records : List Record} {decoded : Snapshot Float32} {older : List (UndoRecord Float32)}
  {record : UndoRecord Float32}

/-- In every discipline the record takes back what its key was credited with, or the
remaining items are worth nothing and it takes back no less. -/
def TakesBackCredit (lookupFormType : FormTypeLookup) (items : UnorderedMap FormID UInt32)
    (record : UndoRecord Float32) : Prop :=
  ∀ d : BuildDiscipline, d.IsDeclared →
    Matches (derivedScore lookupFormType none (items.erase record.regKey) d)
        (creditScore lookupFormType none d (record.regKey, record.group)) (takenScore record d) ∧
      Matches (derivedPoints lookupFormType none (items.erase record.regKey) d)
        (creditPoints lookupFormType none d (record.regKey, record.group)) (takenPoints record d)

theorem newest_of_migrated {migrated : Snapshot Float32}
    (h : Migrated lookupFormType none decoded migrated)
    (hnewest : decoded.undoHistory = older ++ [record]) :
    ∃ older' rewardDeltas,
      migrated.undoHistory = older' ++ [{ record with rewardDeltas }] := by
  rcases h.state with ⟨-, hhistory⟩ | ⟨-, hhistory⟩
  · refine ⟨older.map fun record => { record with rewardDeltas := [] }, [], hhistory.trans ?_⟩
    show decoded.undoHistory.map _ = _
    rw [hnewest, List.map_append, List.map_singleton]
  · exact ⟨older, record.rewardDeltas, hhistory.trans hnewest⟩

/-- An old co-save is loaded and its newest registration undone: the totals are those of a
migration without the item exactly when the record takes back what was credited. -/
theorem undo_after_migration_iff (lookupFormType : FormTypeLookup) (before : RuntimeState Float32)
    (hdecode : decodeRecords resolveFormID records {} = some decoded)
    (hold : decoded.buildMigrationVersion < kBuildMigrationVersion)
    (hnewest : decoded.undoHistory = older ++ [record])
    (hregistered : decoded.registeredItems.lookup record.regKey = some record.group)
    (env : Environment Float32)
    (hsuccess : (tryUndoRegistration env
      (load resolveFormID lookupFormType records before).state record.actionId).2.success = true) :
    (∀ d : BuildDiscipline, d.IsDeclared →
      (tryUndoRegistration env (load resolveFormID lookupFormType records before).state
          record.actionId).1.score d =
        (normalizeLoadedSnapshot lookupFormType none { decoded with
          registeredItems := decoded.registeredItems.erase record.regKey }).score d ∧
      (tryUndoRegistration env (load resolveFormID lookupFormType records before).state
          record.actionId).1.pointsCenti d =
        (normalizeLoadedSnapshot lookupFormType none { decoded with
          registeredItems := decoded.registeredItems.erase record.regKey }).pointsCenti d) ↔
    TakesBackCredit lookupFormType decoded.registeredItems record := by
  have hload : (load resolveFormID lookupFormType records before).state =
      normalizeLoadedSnapshot lookupFormType none decoded := by rw [load_state, hdecode]
  rw [hload] at hsuccess ⊢
  have hmigrated : Migrated lookupFormType none decoded _ := normalize_of_old hold
  have hwithout : Migrated lookupFormType none { decoded with
      registeredItems := decoded.registeredItems.erase record.regKey } _ := normalize_of_old hold
  obtain ⟨older', rewardDeltas, hhistory⟩ := newest_of_migrated hmigrated hnewest
  have hundone := undone_of_success hhistory hsuccess
  rw [hundone]
  refine forall_congr' fun d => forall_congr' fun hd => ?_
  obtain ⟨hscore, hpoints⟩ := totals_undone env
    (normalizeLoadedSnapshot lookupFormType none decoded) older' { record with rewardDeltas } hd
  rw [hscore, hpoints, hmigrated.score d hd, hmigrated.points d hd, hwithout.score d hd,
    hwithout.points d hd]
  unfold derivedScore derivedPoints
  rw [sum_toPairs_erase hregistered, sum_toPairs_erase hregistered]
  exact and_congr (saturatingSub_add_eq_iff _ _ _) (saturatingSub_add_eq_iff _ _ _)

/-- A co-save of the second version: one weapon, registered before build points existed. -/
def oldUndoFile : List Record :=
  [({ type := kRecordRegisteredItems
      version := 2
      contents := toBytes (1 : UInt32) ++ toBytes (1 : FormID) ++ toBytes (0 : UInt32)
      fits := by decide } : WrittenRecord).toRecord,
   ({ type := kRecordUndoHistory
      version := 2
      contents := toBytes (1 : UInt32) ++ toBytes (2 : UInt64) ++ toBytes (1 : UInt64) ++
        toBytes (1 : FormID) ++ toBytes (1 : FormID) ++ toBytes (0 : UInt32) ++
        toBytes (0 : UInt32)
      fits := by decide } : WrittenRecord).toRecord]

/-- The record of that weapon, without a contribution. -/
def oldUndoRecord : UndoRecord Float32 where
  actionId := 1
  formId := 1
  regKey := 1
  group := 0

def oldUndoSnapshot : Snapshot Float32 :=
  { registeredItems := AList.insert 1 0 ∅
    undoHistory := [oldUndoRecord]
    undoNextActionId := 2 }

theorem decode_oldUndoFile : decodeRecords some oldUndoFile {} = some oldUndoSnapshot := rfl

theorem undo_oldUndoFile :
    (tryUndoRegistration (Session.armory 0 1)
        (load some (fun _ => some .Weapon) oldUndoFile {}).state 1).2.success = true ∧
      (tryUndoRegistration (Session.armory 0 1)
        (load some (fun _ => some .Weapon) oldUndoFile {}).state 1).1.score .Attack = 1 := by
  rw [load_state, decode_oldUndoFile]
  exact ⟨by decide +kernel, by decide +kernel⟩

theorem undo_after_migration_iff_oldUndoFile :
    (∀ d : BuildDiscipline, d.IsDeclared →
      (tryUndoRegistration (Session.armory 0 1)
          (load some (fun _ => some .Weapon) oldUndoFile {}).state 1).1.score d =
        (normalizeLoadedSnapshot (fun _ => some .Weapon) none { oldUndoSnapshot with
          registeredItems := oldUndoSnapshot.registeredItems.erase 1 }).score d ∧
      (tryUndoRegistration (Session.armory 0 1)
          (load some (fun _ => some .Weapon) oldUndoFile {}).state 1).1.pointsCenti d =
        (normalizeLoadedSnapshot (fun _ => some .Weapon) none { oldUndoSnapshot with
          registeredItems := oldUndoSnapshot.registeredItems.erase 1 }).pointsCenti d) ↔
    TakesBackCredit (fun _ => some .Weapon) oldUndoSnapshot.registeredItems oldUndoRecord :=
  undo_after_migration_iff (fun _ => some .Weapon) {} decode_oldUndoFile (by decide)
    (show oldUndoSnapshot.undoHistory = [] ++ [oldUndoRecord] from rfl) rfl
    (Session.armory 0 1) undo_oldUndoFile.1

/-- The totals after the undo of a record without a contribution are not those of a migration
without the item. -/
theorem not_undo_after_migration :
    ¬ ∀ (resolveFormID : FormIDResolver) (lookupFormType : FormTypeLookup) (records : List Record)
      (before : RuntimeState Float32) (decoded : Snapshot Float32),
      decodeRecords resolveFormID records {} = some decoded →
      decoded.buildMigrationVersion < kBuildMigrationVersion →
      ∀ (older : List (UndoRecord Float32)) (record : UndoRecord Float32),
      decoded.undoHistory = older ++ [record] →
      decoded.registeredItems.lookup record.regKey = some record.group →
      ∀ env : Environment Float32,
      (tryUndoRegistration env (load resolveFormID lookupFormType records before).state
        record.actionId).2.success = true →
      ∀ d : BuildDiscipline, d.IsDeclared →
        (tryUndoRegistration env (load resolveFormID lookupFormType records before).state
            record.actionId).1.score d =
          (normalizeLoadedSnapshot lookupFormType none { decoded with
            registeredItems := decoded.registeredItems.erase record.regKey }).score d ∧
        (tryUndoRegistration env (load resolveFormID lookupFormType records before).state
            record.actionId).1.pointsCenti d =
          (normalizeLoadedSnapshot lookupFormType none { decoded with
            registeredItems := decoded.registeredItems.erase record.regKey }).pointsCenti d := by
  intro h
  obtain ⟨hsuccess, hscore⟩ := undo_oldUndoFile
  obtain ⟨hsame, -⟩ := h some (fun _ => some .Weapon) oldUndoFile {} _ decode_oldUndoFile
    (by decide) [] oldUndoRecord rfl rfl (Session.armory 0 1) hsuccess .Attack trivial
  have hwithout : (normalizeLoadedSnapshot (fun _ => some .Weapon) none { oldUndoSnapshot with
      registeredItems := oldUndoSnapshot.registeredItems.erase 1 }).score .Attack = 0 := by
    decide +kernel
  have hwrong : (1 : UInt32) = 0 := hscore.symm.trans (hsame.trans hwithout)
  exact absurd hwrong (by decide)

end Migration

end CodexOfPower
