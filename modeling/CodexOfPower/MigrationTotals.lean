/-
# `CodexOfPower.MigrationTotals` — the derived totals as a count and a sum

The migration loop adds in place, item by item, in whatever order the table of
registered items is walked.  Over the natural numbers it comes to this: each item is
resolved to one discipline or to none, the score of a discipline counts its items, its
points are the sum of their point values, and what is left over is the unresolved
count of the notice (`migration_totals`).  Nothing else of the snapshot plays a part.

## What is not said

Totals that overflow are left out by a premise (`TotalsFit`): the additions of the loop are
those of `uint32_t`.  Whether the fallback points of a group are the right ones is not
asked.
-/
import CodexOfPower.LegacyMigration

namespace CodexOfPower.BuildProgression

open RE Builds Registration SerializationStateStore

/-! ## What the items come to -/

section Items

variable (lookupFormType : FormTypeLookup) (resolver : Option LegacyDisciplineResolver)

def pointValuesOf (d : BuildDiscipline) (items : List (FormID × UInt32)) : List BuildPointCenti :=
  items.filterMap fun item =>
    (derivedCredit lookupFormType resolver item).bind fun (discipline, points) =>
      if discipline = d then some points else none

def unresolvedItems (items : List (FormID × UInt32)) : List (FormID × UInt32) :=
  items.filter fun item => (derivedCredit lookupFormType resolver item).isNone

/-- No total exceeds its 32 bits. -/
structure TotalsFit (items : List (FormID × UInt32)) : Prop where
  score : ∀ d : BuildDiscipline, d.IsDeclared →
    (pointValuesOf lookupFormType resolver d items).length < 2 ^ 32
  points : ∀ d : BuildDiscipline, d.IsDeclared →
    ((pointValuesOf lookupFormType resolver d items).map UInt32.toNat).sum < 2 ^ 32
  unresolved : (unresolvedItems lookupFormType resolver items).length < 2 ^ 32

end Items

def AnswersDeclared (resolver : Option LegacyDisciplineResolver) : Prop :=
  ∀ resolve ∈ resolver, ∀ formId, ∀ discipline ∈ resolve formId, discipline.IsDeclared

section Sums

variable {lookupFormType : FormTypeLookup} {resolver : Option LegacyDisciplineResolver}
  {items items' : List (FormID × UInt32)}

theorem toNat_sum (xs : List UInt32) : xs.sum.toNat = (xs.map UInt32.toNat).sum % 2 ^ 32 := by
  induction xs with
  | nil => rfl
  | cons x xs ih => rw [List.sum_cons, UInt32.toNat_add, ih, List.map_cons, List.sum_cons,
      Nat.add_mod_mod]

/-- The scores that the loop adds, counted. -/
theorem sum_creditScore (d : BuildDiscipline) (items : List (FormID × UInt32)) :
    ((items.map (creditScore lookupFormType resolver d)).map UInt32.toNat).sum =
      (pointValuesOf lookupFormType resolver d items).length := by
  induction items with
  | nil => rfl
  | cons item items ih =>
    rw [List.map_cons, List.map_cons, List.sum_cons, ih]
    simp only [pointValuesOf, List.filterMap_cons, creditScore]
    cases derivedCredit lookupFormType resolver item with
    | none => exact Nat.zero_add _
    | some credit =>
      dsimp only [Option.bind_some]
      split_ifs
      · exact Nat.add_comm _ _
      · exact Nat.zero_add _

theorem sum_creditPoints (d : BuildDiscipline) (items : List (FormID × UInt32)) :
    ((items.map (creditPoints lookupFormType resolver d)).map UInt32.toNat).sum =
      ((pointValuesOf lookupFormType resolver d items).map UInt32.toNat).sum := by
  induction items with
  | nil => rfl
  | cons item items ih =>
    rw [List.map_cons, List.map_cons, List.sum_cons, ih]
    simp only [pointValuesOf, List.filterMap_cons, creditPoints]
    cases derivedCredit lookupFormType resolver item with
    | none => exact Nat.zero_add _
    | some credit =>
      dsimp only [Option.bind_some]
      split_ifs
      · rfl
      · exact Nat.zero_add _

theorem toNat_derivedScore {registeredItems : UnorderedMap FormID UInt32}
    (hfit : TotalsFit lookupFormType resolver registeredItems.toPairs) {d : BuildDiscipline}
    (hd : d.IsDeclared) :
    (derivedScore lookupFormType resolver registeredItems d).toNat =
      (pointValuesOf lookupFormType resolver d registeredItems.toPairs).length := by
  rw [derivedScore, toNat_sum, sum_creditScore, Nat.mod_eq_of_lt (hfit.score d hd)]

theorem toNat_derivedPoints {registeredItems : UnorderedMap FormID UInt32}
    (hfit : TotalsFit lookupFormType resolver registeredItems.toPairs) {d : BuildDiscipline}
    (hd : d.IsDeclared) :
    (derivedPoints lookupFormType resolver registeredItems d).toNat =
      ((pointValuesOf lookupFormType resolver d registeredItems.toPairs).map UInt32.toNat).sum := by
  rw [derivedPoints, toNat_sum, sum_creditPoints, Nat.mod_eq_of_lt (hfit.points d hd)]

/-! ## Nothing is lost and nothing counted twice -/

theorem isDeclared_of_formType {formType : FormType} {discipline : BuildDiscipline}
    (h : tryResolveDisciplineFromFormType formType = some discipline) :
    discipline.IsDeclared := by
  unfold tryResolveDisciplineFromFormType at h
  split at h <;> first | cases h; trivial | cases h

/-- By the stored group, by the given resolver, or by the form type. -/
theorem isDeclared_of_legacy (hdeclared : AnswersDeclared resolver) {regKey : FormID}
    {group : UInt32} {discipline : BuildDiscipline}
    (h : tryResolveLegacyDiscipline lookupFormType regKey group resolver = some discipline) :
    discipline.IsDeclared := by
  unfold tryResolveLegacyDiscipline at h
  split_ifs at h with hgroup
  · obtain rfl := Option.some.inj h
    exact isDeclared_convertLegacyGroup group
  · cases resolver with
    | none =>
      obtain ⟨formType, -, hform⟩ := Option.bind_eq_some_iff.mp h
      exact isDeclared_of_formType hform
    | some resolve => exact hdeclared resolve rfl regKey discipline h

theorem isDeclared_of_derivedCredit (hdeclared : AnswersDeclared resolver)
    {item : FormID × UInt32} {discipline : BuildDiscipline} {points : BuildPointCenti}
    (h : derivedCredit lookupFormType resolver item = some (discipline, points)) :
    discipline.IsDeclared := by
  unfold derivedCredit at h
  rcases Option.or_eq_some_iff.mp h with hform | ⟨-, hlegacy⟩
  · split at hform
    · obtain ⟨formType, -, hform⟩ := Option.bind_eq_some_iff.mp hform
      obtain ⟨other, hresolved, hform⟩ := Option.bind_eq_some_iff.mp hform
      split_ifs at hform
      obtain ⟨rfl, -⟩ := Prod.mk.inj (Option.some.inj hform)
      exact isDeclared_of_formType hresolved
    · cases hform
  · obtain ⟨other, hresolved, heq⟩ := Option.map_eq_some_iff.mp hlegacy
    obtain ⟨rfl, -⟩ := Prod.mk.inj heq
    exact isDeclared_of_legacy hdeclared hresolved

/-- Every item is resolved to one of the three disciplines, or to none. -/
theorem length_partition (hdeclared : AnswersDeclared resolver)
    (items : List (FormID × UInt32)) :
    (pointValuesOf lookupFormType resolver .Attack items).length +
        (pointValuesOf lookupFormType resolver .Defense items).length +
        (pointValuesOf lookupFormType resolver .Utility items).length +
        (unresolvedItems lookupFormType resolver items).length = items.length := by
  induction items with
  | nil => rfl
  | cons item items ih =>
    simp only [pointValuesOf, unresolvedItems, List.filterMap_cons, List.filter_cons,
      List.length_cons] at ih ⊢
    cases hcredit : derivedCredit lookupFormType resolver item with
    | none =>
      simp only [Option.bind_none, Option.isNone_none, if_true, List.length_cons]
      omega
    | some credit =>
      obtain ⟨discipline, points⟩ := credit
      have hdisc := isDeclared_of_derivedCredit hdeclared hcredit
      simp only [Option.bind_some, Option.isNone_some, Bool.false_eq_true, if_false]
      cases discipline with
      | Attack => simp; omega
      | Defense => simp; omega
      | Utility => simp; omega
      | unnamed => exact hdisc.elim

end Sums

/-! ## The unresolved count -/

section Unresolved

variable {F : Type} {lookupFormType : FormTypeLookup} {resolver : Option LegacyDisciplineResolver}

theorem unresolved_deriveRegistration (acc : Snapshot F × UInt32) (item : FormID × UInt32) :
    (deriveRegistration lookupFormType resolver acc item).2 =
      acc.2 + if (derivedCredit lookupFormType resolver item).isNone then 1 else 0 := by
  obtain ⟨snapshot, unresolved⟩ := acc
  obtain ⟨formId, group⟩ := item
  unfold deriveRegistration derivedCredit
  dsimp only
  split
  · rename_i heq
    rw [heq]
    exact (UInt32.add_zero _).symm
  · rename_i heq
    rw [heq, Option.none_or]
    cases tryResolveLegacyDiscipline lookupFormType formId group resolver with
    | none => rfl
    | some discipline => exact (UInt32.add_zero _).symm

theorem unresolved_foldl (items : List (FormID × UInt32)) (acc : Snapshot F × UInt32) :
    (items.foldl (deriveRegistration lookupFormType resolver) acc).2 =
      acc.2 + (unresolvedItems lookupFormType resolver items).length.toUInt32 := by
  induction items generalizing acc with
  | nil => exact (UInt32.add_zero _).symm
  | cons item items ih =>
    rw [List.foldl_cons, ih, unresolved_deriveRegistration, UInt32.add_assoc, unresolvedItems,
      unresolvedItems, List.filter_cons]
    congr 1
    split_ifs
    · rw [List.length_cons, Nat.toUInt32_eq, Nat.toUInt32_eq, UInt32.ofNat_add, UInt32.add_comm]
      rfl
    · exact UInt32.zero_add _

/-- The notice carries the count of the loop whenever there was an item to migrate. -/
theorem notice_settleMigration (hadLegacyRewards hadLegacyUndo : Bool)
    (derived : Snapshot F × UInt32) :
    (settleMigration true hadLegacyRewards hadLegacyUndo
      derived).buildMigrationNotice.unresolvedHistoricalRegistrations = derived.2 := by
  cases hadLegacyRewards <;> rfl

variable {snapshot : Snapshot F}

theorem notice_normalize_of_old (h : snapshot.buildMigrationVersion < kBuildMigrationVersion)
    (hitems : snapshot.registeredItems.size ≠ 0) :
    (normalizeLoadedSnapshot lookupFormType resolver
      snapshot).buildMigrationNotice.unresolvedHistoricalRegistrations =
      (unresolvedItems lookupFormType resolver
        snapshot.registeredItems.toPairs).length.toUInt32 := by
  have hversion : ¬ kBuildMigrationVersion ≤
      (normalizeActiveSlotOptionIds snapshot).buildMigrationVersion := UInt32.not_le.mpr h
  have hhad : decide ((normalizeActiveSlotOptionIds snapshot).registeredItems.size ≠ 0) = true :=
    decide_eq_true hitems
  unfold normalizeLoadedSnapshot
  dsimp only
  rw [if_neg hversion, hhad, notice_settleMigration, unresolved_foldl, UInt32.zero_add]
  rfl

end Unresolved

/-! ## The totals -/

section Totals

variable {F : Type}

/-- Two older snapshots with the same registered items, in any order and whatever else they
hold, come out with the same totals. -/
theorem totals_congr {lookupFormType : FormTypeLookup} {resolver : Option LegacyDisciplineResolver}
    {snapshot snapshot' : Snapshot F}
    (h : snapshot.buildMigrationVersion < kBuildMigrationVersion)
    (h' : snapshot'.buildMigrationVersion < kBuildMigrationVersion)
    (hsame : snapshot'.registeredItems.Same snapshot.registeredItems) {d : BuildDiscipline}
    (hd : d.IsDeclared) :
    (normalizeLoadedSnapshot lookupFormType resolver snapshot').score d =
        (normalizeLoadedSnapshot lookupFormType resolver snapshot).score d ∧
      (normalizeLoadedSnapshot lookupFormType resolver snapshot').pointsCenti d =
        (normalizeLoadedSnapshot lookupFormType resolver snapshot).pointsCenti d := by
  have hperm : snapshot'.registeredItems.toPairs.Perm snapshot.registeredItems.toPairs :=
    hsame.perm.map _
  rw [(normalize_of_old h').score d hd, (normalize_of_old h).score d hd,
    (normalize_of_old h').points d hd, (normalize_of_old h).points d hd]
  exact ⟨(hperm.map _).sum_eq, (hperm.map _).sum_eq⟩

/-- Two older snapshots with the same registered items come out with the same unresolved
count. -/
theorem notice_congr {lookupFormType : FormTypeLookup} {resolver : Option LegacyDisciplineResolver}
    {snapshot snapshot' : Snapshot F}
    (h : snapshot.buildMigrationVersion < kBuildMigrationVersion)
    (h' : snapshot'.buildMigrationVersion < kBuildMigrationVersion)
    (hsame : snapshot'.registeredItems.Same snapshot.registeredItems)
    (hitems : snapshot.registeredItems.size ≠ 0) :
    (normalizeLoadedSnapshot lookupFormType resolver
        snapshot').buildMigrationNotice.unresolvedHistoricalRegistrations =
      (normalizeLoadedSnapshot lookupFormType resolver
        snapshot).buildMigrationNotice.unresolvedHistoricalRegistrations := by
  have hperm : snapshot'.registeredItems.toPairs.Perm snapshot.registeredItems.toPairs :=
    hsame.perm.map _
  have hitems' : snapshot'.registeredItems.size ≠ 0 := hsame.size_eq ▸ hitems
  have hlength : (unresolvedItems lookupFormType resolver
      snapshot'.registeredItems.toPairs).length =
      (unresolvedItems lookupFormType resolver snapshot.registeredItems.toPairs).length :=
    (hperm.filter _).length_eq
  rw [notice_normalize_of_old h' hitems', notice_normalize_of_old h hitems, hlength]

/-- With no total overflowing, the scores and the unresolved count make up the registered
items, and a discipline has the count and the summed point values of the items resolved
to it: in any order of the table, and whatever the snapshot held before. -/
theorem migration_totals (lookupFormType : FormTypeLookup)
    (resolver : Option LegacyDisciplineResolver) (snapshot : Snapshot F)
    (hversion : snapshot.buildMigrationVersion < kBuildMigrationVersion)
    (hdeclared : AnswersDeclared resolver)
    (hfit : TotalsFit lookupFormType resolver snapshot.registeredItems.toPairs) :
    let items := snapshot.registeredItems.toPairs
    let after := normalizeLoadedSnapshot lookupFormType resolver snapshot
    after.attackScore.toNat + after.defenseScore.toNat + after.utilityScore.toNat +
        (unresolvedItems lookupFormType resolver items).length =
      snapshot.registeredItems.size ∧
    (snapshot.registeredItems.size ≠ 0 →
      after.buildMigrationNotice.unresolvedHistoricalRegistrations.toNat =
        (unresolvedItems lookupFormType resolver items).length) ∧
    (∀ d : BuildDiscipline, d.IsDeclared →
      (after.score d).toNat = (pointValuesOf lookupFormType resolver d items).length ∧
      (after.pointsCenti d).toNat =
        ((pointValuesOf lookupFormType resolver d items).map UInt32.toNat).sum) ∧
    ∀ snapshot' : Snapshot F, snapshot'.buildMigrationVersion < kBuildMigrationVersion →
      snapshot'.registeredItems.Same snapshot.registeredItems →
      let after' := normalizeLoadedSnapshot lookupFormType resolver snapshot'
      (∀ d : BuildDiscipline, d.IsDeclared →
        after'.score d = after.score d ∧ after'.pointsCenti d = after.pointsCenti d) ∧
      (snapshot.registeredItems.size ≠ 0 →
        after'.buildMigrationNotice.unresolvedHistoricalRegistrations =
          after.buildMigrationNotice.unresolvedHistoricalRegistrations) := by
  intro items after
  have hmigrated : Migrated lookupFormType resolver snapshot after := normalize_of_old hversion
  have hscore : ∀ d : BuildDiscipline, d.IsDeclared →
      (after.score d).toNat = (pointValuesOf lookupFormType resolver d items).length := by
    intro d hd
    rw [hmigrated.score d hd, toNat_derivedScore hfit hd]
  refine ⟨?_, ?_, ?_, ?_⟩
  · have hattack : after.attackScore.toNat = _ := hscore .Attack trivial
    have hdefense : after.defenseScore.toNat = _ := hscore .Defense trivial
    have hutility : after.utilityScore.toNat = _ := hscore .Utility trivial
    rw [hattack, hdefense, hutility, length_partition hdeclared, UnorderedMap.length_toPairs]
  · intro hitems
    rw [notice_normalize_of_old hversion hitems]
    exact UInt32.toNat_ofNat_of_lt' hfit.unresolved
  · intro d hd
    refine ⟨hscore d hd, ?_⟩
    rw [hmigrated.points d hd, toNat_derivedPoints hfit hd]
  · intro snapshot' hversion' hsame after'
    exact ⟨fun d hd => totals_congr hversion hversion' hsame hd,
      notice_congr hversion hversion' hsame⟩

/-- A weapon by its form, a shield by its group, and one item that nothing resolves. -/
theorem migration_totals_three :
    let items : UnorderedMap FormID UInt32 :=
      UnorderedMap.insertAll [(0x12EB7, 9), (0x12EB6, 1), (0x5000801, 77)] ∅
    let lookupFormType : FormTypeLookup := fun formId =>
      if formId = 0x12EB7 then some .Weapon else none
    let snapshot : Snapshot Float32 := { registeredItems := items, attackScore := 40 }
    let after := normalizeLoadedSnapshot lookupFormType none snapshot
    (∀ d : BuildDiscipline, d.IsDeclared →
      (after.score d).toNat = (pointValuesOf lookupFormType none d items.toPairs).length ∧
      (after.pointsCenti d).toNat =
        ((pointValuesOf lookupFormType none d items.toPairs).map UInt32.toNat).sum) ∧
    after.buildMigrationNotice.unresolvedHistoricalRegistrations.toNat = 1 := by
  intro items lookupFormType snapshot after
  have hfit : TotalsFit lookupFormType none items.toPairs := by
    refine ⟨fun d hd => ?_, fun d hd => ?_, by decide⟩
    · cases d with
      | Attack => decide
      | Defense => decide
      | Utility => decide
      | unnamed => exact hd.elim
    · cases d with
      | Attack => decide
      | Defense => decide
      | Utility => decide
      | unnamed => exact hd.elim
  have htotals := migration_totals lookupFormType none snapshot (by decide) nofun hfit
  exact ⟨htotals.2.2.1, htotals.2.1 (by decide)⟩

end Totals

end CodexOfPower.BuildProgression
