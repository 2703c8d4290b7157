/-
# `CodexOfPower.SafeRemoval` — the stack a removal takes from

`SelectSafeRemoval` goes over the extra lists of an inventory entry once.  The pass
adds up the counts of all lists and those of the lists that may go, and remembers the
first of the latter; what the entry holds beyond its extra lists is the base stack,
which a null target stands for.  The pass is four scans in one (`scanExtraLists_eq`),
and the target follows from them: a list that may go, or the base stack when it is all
that is left to take from (`selectSafeRemoval_spec`).

The counts are `Int`.  While their sum is within `int32_t`, so is every number the
function computes (`within_scan`, `within_baseCount`), and nothing overflows.

## What is not said

Of an extra list only the count counts here, and whether it is worn or hotkeyed.  That the
game removes what it is asked to remove is not assumed anywhere
(`CodexOfPower.Registration`).
-/
import CodexOfPower.Accounting
import CodexOfPower.QuickList

namespace CodexOfPower

open RE Builds Registration

namespace Inventory

/-! ## The selection -/

section Model

/-- What `SelectSafeRemoval` reads of an `InventoryEntryData`: the extra lists.  The
pointer to them may be null, and so may each of them. -/
structure EntryLists where
  extraLists : Option (List (Option ExtraDataList))

/-- The extra list to remove from, null for the base stack, and what else was found. -/
structure RemoveSelection where
  extraList : Option ExtraDataList := none
  safeCount : Int := 0
  baseCount : Int := 0
  blockedByWorn : Bool := false
  blockedByFavorite : Bool := false

structure Scan where
  out : RemoveSelection := {}
  extraCountTotal : Int := 0

variable (protectFavorites : Bool)

def scanExtraList (scan : Scan) : Option ExtraDataList → Scan
  | none => scan
  | some xList =>
    let count := xList.count
    let extraCountTotal :=
      if 0 < count then scan.extraCountTotal + count else scan.extraCountTotal
    let worn := xList.worn
    let hotkey := protectFavorites && xList.hotkey
    let out := { scan.out with
      blockedByWorn := scan.out.blockedByWorn || worn
      blockedByFavorite := scan.out.blockedByFavorite || hotkey }
    if worn || hotkey then { out, extraCountTotal }
    else if 0 < count then
      let out := if out.extraList.isNone then { out with extraList := some xList } else out
      { out := { out with safeCount := out.safeCount + count }, extraCountTotal }
    else { out, extraCountTotal }

def scanExtraLists (scan : Scan) (xLists : List (Option ExtraDataList)) : Scan :=
  xLists.foldl (scanExtraList protectFavorites) scan

/-- `Inventory::SelectSafeRemoval`; a null entry is `none`. -/
def selectSafeRemoval (entry : Option EntryLists) (totalCount : Int) : RemoveSelection :=
  match entry with
  | none => {}
  | some entry =>
    if totalCount ≤ 0 then {}
    else
      let scan : Scan := match entry.extraLists with
        | none => {}
        | some xLists => scanExtraLists protectFavorites {} xLists
      let baseCount := totalCount - scan.extraCountTotal
      let out :=
        if 0 < baseCount then
          { scan.out with baseCount, safeCount := scan.out.safeCount + baseCount }
        else scan.out
      -- the source assigns the null that is already there
      if out.extraList.isNone && 0 < out.baseCount then { out with extraList := none } else out

end Model

/-! ## The four scans -/

section Scans

variable {protectFavorites : Bool}

/-- The lists behind the pointers that are not null. -/
def EntryLists.present (entry : EntryLists) : List ExtraDataList :=
  (entry.extraLists.getD []).reduceOption

/-- Neither worn nor, under protection, hotkeyed. -/
def mayGo (protectFavorites : Bool) (xList : ExtraDataList) : Bool :=
  !(xList.worn || (protectFavorites && xList.hotkey))

def positiveCount (xList : ExtraDataList) : Int := if 0 < xList.count then xList.count else 0

def extraCount (xLists : List ExtraDataList) : Int := (xLists.map positiveCount).sum

theorem positiveCount_nonneg (xList : ExtraDataList) : 0 ≤ positiveCount xList := by
  unfold positiveCount
  split_ifs with h
  · exact h.le
  · exact Int.le_refl 0

theorem nonneg_of_mem_positiveCounts {xLists : List ExtraDataList} :
    ∀ count ∈ xLists.map positiveCount, 0 ≤ count := by
  intro count hmem
  obtain ⟨xList, -, rfl⟩ := List.mem_map.mp hmem
  exact positiveCount_nonneg xList

theorem extraCount_nonneg (xLists : List ExtraDataList) : 0 ≤ extraCount xLists :=
  List.sum_nonneg nonneg_of_mem_positiveCounts

/-- Some of the lists count at most what all of them count. -/
theorem extraCount_filter_le (p : ExtraDataList → Bool) (xLists : List ExtraDataList) :
    extraCount (xLists.filter p) ≤ extraCount xLists :=
  (List.filter_sublist.map positiveCount).sum_le_sum nonneg_of_mem_positiveCounts

/-- One turn with a list: it is the target if it is the first that may go. -/
theorem scanExtraList_some (scan : Scan) (xList : ExtraDataList) :
    scanExtraList protectFavorites scan (some xList) =
      { out :=
          { extraList := scan.out.extraList.or
              (if mayGo protectFavorites xList && 0 < xList.count then some xList else none)
            safeCount := scan.out.safeCount +
              if mayGo protectFavorites xList then positiveCount xList else 0
            baseCount := scan.out.baseCount
            blockedByWorn := scan.out.blockedByWorn || xList.worn
            blockedByFavorite := scan.out.blockedByFavorite ||
              (protectFavorites && xList.hotkey) }
        extraCountTotal := scan.extraCountTotal + positiveCount xList } := by
  have htotal : (if 0 < xList.count then scan.extraCountTotal + xList.count
      else scan.extraCountTotal) = scan.extraCountTotal + positiveCount xList := by
    unfold positiveCount
    split_ifs
    · rfl
    · exact (Int.add_zero _).symm
  unfold scanExtraList mayGo
  dsimp only
  rw [htotal]
  cases hkept : xList.worn || (protectFavorites && xList.hotkey) with
  | true => simp
  | false =>
    by_cases hcount : 0 < xList.count
    · cases scan.out.extraList <;> simp [hcount, positiveCount]
    · simp [hcount, positiveCount]

/-- The scan, whatever it starts from: the first list that may go and counts, the sum of
those that may go, the two flags, and the sum of all. -/
theorem scanExtraLists_eq (scan : Scan) (xLists : List (Option ExtraDataList)) :
    scanExtraLists protectFavorites scan xLists =
      { out :=
          { extraList := scan.out.extraList.or (xLists.reduceOption.find? fun xList =>
              mayGo protectFavorites xList && 0 < xList.count)
            safeCount := scan.out.safeCount +
              extraCount (xLists.reduceOption.filter (mayGo protectFavorites))
            baseCount := scan.out.baseCount
            blockedByWorn := scan.out.blockedByWorn || xLists.reduceOption.any (·.worn)
            blockedByFavorite := scan.out.blockedByFavorite ||
              xLists.reduceOption.any fun xList => protectFavorites && xList.hotkey }
        extraCountTotal := scan.extraCountTotal + extraCount xLists.reduceOption } := by
  induction xLists generalizing scan with
  | nil => simp [scanExtraLists, extraCount]
  | cons pointer xLists ih =>
    have hcons : scanExtraLists protectFavorites scan (pointer :: xLists) =
      scanExtraLists protectFavorites (scanExtraList protectFavorites scan pointer) xLists := rfl
    rw [hcons, ih]
    cases pointer with
    | none => rw [List.reduceOption_cons_of_none]; rfl
    | some xList =>
      rw [List.reduceOption_cons_of_some, scanExtraList_some]
      have hall : extraCount (xList :: xLists.reduceOption) =
        positiveCount xList + extraCount xLists.reduceOption := rfl
      cases hgoes : mayGo protectFavorites xList with
      | true =>
        have hsafe : extraCount (xList :: xLists.reduceOption.filter (mayGo protectFavorites)) =
          positiveCount xList +
            extraCount (xLists.reduceOption.filter (mayGo protectFavorites)) := rfl
        by_cases hcount : 0 < xList.count
        · simp [hgoes, hcount, hall, hsafe, Bool.or_assoc, add_assoc]
        · simp [hgoes, hcount, hall, hsafe, Bool.or_assoc, add_assoc]
      | false => simp [hgoes, hall, Bool.or_assoc, add_assoc]

/-- What is selected from a positive count. -/
theorem selectSafeRemoval_of_pos {totalCount : Int} (h : 0 < totalCount) (entry : EntryLists) :
    selectSafeRemoval protectFavorites (some entry) totalCount =
      { extraList := entry.present.find? fun xList =>
          mayGo protectFavorites xList && 0 < xList.count
        safeCount := extraCount (entry.present.filter (mayGo protectFavorites)) +
          max 0 (totalCount - extraCount entry.present)
        baseCount := max 0 (totalCount - extraCount entry.present)
        blockedByWorn := entry.present.any (·.worn)
        blockedByFavorite :=
          entry.present.any fun xList => protectFavorites && xList.hotkey } := by
  have hscan : (match entry.extraLists with
      | none => ({} : Scan)
      | some xLists => scanExtraLists protectFavorites {} xLists) =
      scanExtraLists protectFavorites {} (entry.extraLists.getD []) := by
    cases entry.extraLists <;> rfl
  have hnoop : ∀ out : RemoveSelection,
      (if out.extraList.isNone && 0 < out.baseCount then { out with extraList := none } else out) =
        out := by
    intro out
    obtain ⟨extraList, -⟩ := out
    cases extraList <;> simp
  unfold selectSafeRemoval
  dsimp only
  rw [if_neg (Int.not_le.mpr h), hnoop, hscan, scanExtraLists_eq]
  show (if 0 < totalCount - (0 + extraCount entry.present) then _ else _) = _
  rw [Int.zero_add]
  split_ifs with hbase
  · rw [Int.max_eq_right hbase.le]
    simp [EntryLists.present]
  · rw [Int.max_eq_left (Int.not_lt.mp hbase)]
    simp [EntryLists.present]

end Scans

/-! ## What is selected -/

section Spec

/-- The target can be taken from, the count is what may go, and neither more nor less
than there is. -/
structure SafeSelection (protectFavorites : Bool) (xLists : List ExtraDataList)
    (totalCount : Int) (out : RemoveSelection) : Prop where
  target : 0 < out.safeCount →
    (∃ xList ∈ xLists, out.extraList = some xList ∧ 0 < xList.count ∧ xList.worn = false ∧
      (protectFavorites = true → xList.hotkey = false)) ∨
    (out.extraList = none ∧ 0 < out.baseCount ∧
      out.baseCount = totalCount - extraCount xLists)
  safeCount : 0 < totalCount → out.safeCount =
    extraCount (xLists.filter (mayGo protectFavorites)) + max 0 (totalCount - extraCount xLists)
  bounds : extraCount xLists ≤ totalCount → 0 ≤ out.safeCount ∧ out.safeCount ≤ totalCount

/-- The flags say whether a list is worn, and whether one is hotkeyed under protection. -/
def FlagsExact (protectFavorites : Bool) (xLists : List ExtraDataList) (out : RemoveSelection) :
    Prop :=
  (out.blockedByWorn = true ↔ ∃ xList ∈ xLists, xList.worn = true) ∧
    (out.blockedByFavorite = true ↔
      protectFavorites = true ∧ ∃ xList ∈ xLists, xList.hotkey = true)

variable {protectFavorites : Bool} {entry : EntryLists} {totalCount : Int}

/-- Without a list that may go and counts, those that may go count nothing. -/
theorem extraCount_eq_zero_of_find?_eq_none {xLists : List ExtraDataList}
    (h : (xLists.find? fun xList => mayGo protectFavorites xList && 0 < xList.count) = none) :
    extraCount (xLists.filter (mayGo protectFavorites)) = 0 := by
  refine List.sum_eq_zero fun count hcount => ?_
  obtain ⟨xList, hmem, rfl⟩ := List.mem_map.mp hcount
  obtain ⟨hlisted, hgoes⟩ := List.mem_filter.mp hmem
  have hnone := List.find?_eq_none.mp h xList hlisted
  rw [hgoes, Bool.true_and, decide_eq_true_iff] at hnone
  exact if_neg hnone

theorem safeSelection_of_pos (h : 0 < totalCount) :
    SafeSelection protectFavorites entry.present totalCount
      (selectSafeRemoval protectFavorites (some entry) totalCount) := by
  rw [selectSafeRemoval_of_pos h]
  refine ⟨fun hsafe => ?_, fun _ => rfl, fun hle => ?_⟩
  · cases hfind : entry.present.find? fun xList =>
        mayGo protectFavorites xList && 0 < xList.count with
    | some xList =>
      have hgoes := List.find?_some hfind
      simp only [mayGo, Bool.and_eq_true, Bool.not_eq_true', Bool.or_eq_false_iff,
        Bool.and_eq_false_imp, decide_eq_true_eq] at hgoes
      obtain ⟨⟨hworn, hhotkey⟩, hcount⟩ := hgoes
      exact .inl ⟨xList, List.mem_of_find?_eq_some hfind, rfl, hcount, hworn, hhotkey⟩
    | none =>
      have hzero := extraCount_eq_zero_of_find?_eq_none hfind
      refine .inr ⟨rfl, ?_⟩
      dsimp only at hsafe ⊢
      omega
  · have hnonneg := extraCount_nonneg (entry.present.filter (mayGo protectFavorites))
    have hsome := extraCount_filter_le (mayGo protectFavorites) entry.present
    dsimp only
    omega

theorem flagsExact_of_pos (h : 0 < totalCount) :
    FlagsExact protectFavorites entry.present
      (selectSafeRemoval protectFavorites (some entry) totalCount) := by
  rw [selectSafeRemoval_of_pos h]
  constructor
  · exact List.any_eq_true
  · simp only [List.any_eq_true, Bool.and_eq_true]
    constructor
    · rintro ⟨xList, hmem, hprotect, hhotkey⟩
      exact ⟨hprotect, xList, hmem, hhotkey⟩
    · rintro ⟨hprotect, xList, hmem, hhotkey⟩
      exact ⟨xList, hmem, hprotect, hhotkey⟩

/-- From a count that is not positive nothing is selected. -/
theorem selectSafeRemoval_of_not_pos (h : totalCount ≤ 0) :
    selectSafeRemoval protectFavorites (some entry) totalCount = {} := if_pos h

/-- For all extra lists and every count, with favourites protected or not: a target with
a positive count is a list that counts and may go, or the base stack; the count is the
sum of those that may go and of the base stack, and is between zero and the total when
the extra lists count no more than that; and for a positive total the flags are exact. -/
theorem selectSafeRemoval_safe (protectFavorites : Bool) (entry : EntryLists)
    (totalCount : Int) :
    SafeSelection protectFavorites entry.present totalCount
        (selectSafeRemoval protectFavorites (some entry) totalCount) ∧
      (0 < totalCount → FlagsExact protectFavorites entry.present
        (selectSafeRemoval protectFavorites (some entry) totalCount)) := by
  refine ⟨?_, flagsExact_of_pos⟩
  by_cases h : 0 < totalCount
  · exact safeSelection_of_pos h
  · rw [selectSafeRemoval_of_not_pos (Int.not_lt.mp h)]
    refine ⟨fun hsafe => absurd hsafe (Int.lt_irrefl 0), fun hpos => absurd hpos h, fun hle => ?_⟩
    exact ⟨Int.le_refl 0, (extraCount_nonneg entry.present).trans hle⟩

/-- With no item left, a worn list is not looked at. -/
theorem not_flags_exact :
    ¬ ∀ (protectFavorites : Bool) (entry : EntryLists) (totalCount : Int),
      SafeSelection protectFavorites entry.present totalCount
          (selectSafeRemoval protectFavorites (some entry) totalCount) ∧
        FlagsExact protectFavorites entry.present
          (selectSafeRemoval protectFavorites (some entry) totalCount) := by
  intro h
  have hworn := (h true ⟨some [some { count := 1, worn := true, hotkey := false }]⟩ 0).2.1
  have hset := hworn.mpr ⟨_, List.mem_singleton_self _, rfl⟩
  exact absurd hset (by decide)

end Spec

/-! ## Within `int32_t` -/

section Within

variable {protectFavorites : Bool}

theorem extraCount_append (xLists xLists' : List ExtraDataList) :
    extraCount (xLists ++ xLists') = extraCount xLists + extraCount xLists' := by
  unfold extraCount
  rw [List.map_append, List.sum_append]

/-- Wherever the loop stands, what it has added up is within the sum of all lists. -/
theorem within_scan {xLists : List (Option ExtraDataList)}
    (h : extraCount xLists.reduceOption < 2 ^ 31) (n : Nat) :
    0 ≤ (scanExtraLists protectFavorites {} (xLists.take n)).out.safeCount ∧
      (scanExtraLists protectFavorites {} (xLists.take n)).out.safeCount ≤
        (scanExtraLists protectFavorites {} (xLists.take n)).extraCountTotal ∧
      (scanExtraLists protectFavorites {} (xLists.take n)).extraCountTotal < 2 ^ 31 := by
  have hsplit := extraCount_append (xLists.take n).reduceOption (xLists.drop n).reduceOption
  rw [← List.reduceOption_append, List.take_append_drop] at hsplit
  have hsafe := extraCount_nonneg ((xLists.take n).reduceOption.filter (mayGo protectFavorites))
  have hsome := extraCount_filter_le (mayGo protectFavorites) (xLists.take n).reduceOption
  have hrest := extraCount_nonneg (xLists.drop n).reduceOption
  rw [scanExtraLists_eq]
  dsimp only
  omega

/-- What is computed after the loop is within the sum of all lists and the total. -/
theorem within_baseCount {entry : EntryLists} {totalCount : Int}
    (h : extraCount entry.present < 2 ^ 31) (hpos : 0 < totalCount) (htotal : totalCount < 2 ^ 31) :
    -(2 ^ 31) ≤ totalCount - extraCount entry.present ∧
      totalCount - extraCount entry.present < 2 ^ 31 ∧
      (selectSafeRemoval protectFavorites (some entry) totalCount).safeCount < 2 ^ 31 := by
  have hnonneg := extraCount_nonneg entry.present
  have hsome := extraCount_filter_le (mayGo protectFavorites) entry.present
  rw [selectSafeRemoval_of_pos hpos]
  dsimp only
  omega

end Within

/-! ## What the callers see -/

section Callers

variable {lists : EntryLists} {entry : InventoryEntryData}

/-- The selected count is the count that the two callers check. -/
theorem safeCount_selectSafeRemoval (h : lists.present = entry.extraLists) (totalCount : Int)
    (protectFavorites : Bool) :
    (selectSafeRemoval protectFavorites (some lists) totalCount).safeCount =
      selectSafeCount entry totalCount protectFavorites := by
  unfold selectSafeCount
  split_ifs with hpos
  · rw [selectSafeRemoval_of_not_pos hpos]
  · rw [selectSafeRemoval_of_pos (Int.not_le.mp hpos), h]
    dsimp only
    have hmax : ∀ count : Int, max 0 count = if 0 < count then count else 0 := by
      intro count
      omega
    rw [hmax]
    rfl

/-- The flag for a blocked favourite is the one that the list of eligible items shows. -/
theorem blockedByFavorite_selectSafeRemoval (h : lists.present = entry.extraLists)
    (totalCount : Int) (protectFavorites : Bool) :
    (selectSafeRemoval protectFavorites (some lists) totalCount).blockedByFavorite =
      blockedByFavorite entry totalCount protectFavorites := by
  unfold blockedByFavorite
  split_ifs with hpos
  · rw [selectSafeRemoval_of_not_pos hpos]
  · rw [selectSafeRemoval_of_pos (Int.not_le.mp hpos), h]

/-- When a registration comes to `RemoveItem`, what it passes is a list of the item's
entry that is neither worn nor, under protection, hotkeyed, or the base stack, and this
is not empty. -/
theorem target_of_callsRemoveItem {formTypes : FormID → FormType} {env : Environment Float32}
    {state : RuntimeState Float32} {formId : FormID}
    (h : callsRemoveItem formTypes env state formId = true) :
    ∃ entry, (env.inventory.find? fun entry => entry.object = formId) = some entry ∧
      ∀ lists : EntryLists, lists.present = entry.extraLists →
        (∃ xList ∈ entry.extraLists,
          (selectSafeRemoval env.settings.protectFavorites (some lists)
            (env.itemCount formId)).extraList = some xList ∧ 0 < xList.count ∧
          xList.worn = false ∧ (env.settings.protectFavorites = true → xList.hotkey = false)) ∨
        ((selectSafeRemoval env.settings.protectFavorites (some lists)
            (env.itemCount formId)).extraList = none ∧
          0 < env.itemCount formId - extraCount entry.extraLists) := by
  obtain ⟨entry, hadmissible⟩ := callsRemoveItem_iff.mp h
  refine ⟨entry, hadmissible.listed, fun lists hlists => ?_⟩
  have hpositive : 0 < (selectSafeRemoval env.settings.protectFavorites (some lists)
      (env.itemCount formId)).safeCount := by
    rw [safeCount_selectSafeRemoval hlists]
    exact hadmissible.safe
  have hpos : 0 < env.itemCount formId := by
    by_contra hnot
    rw [selectSafeRemoval_of_not_pos (Int.not_lt.mp hnot)] at hpositive
    exact Int.lt_irrefl 0 hpositive
  have hselected : SafeSelection env.settings.protectFavorites lists.present
      (env.itemCount formId) _ := safeSelection_of_pos hpos
  rw [hlists] at hselected
  rcases hselected.target hpositive with htarget | ⟨hnull, hbase, hcount⟩
  · exact .inl htarget
  · exact .inr ⟨hnull, hcount ▸ hbase⟩

end Callers

end Inventory

end CodexOfPower
