/-
# `CodexOfPower.PredictedGain` — what the panel predicts, and what the batch gives

Before a batch is registered the panel shows what it will give.  It adds up what the
payload says of the selected rows, their disciplines and centi points; the plugin finds
group and points anew from the form of the key (`Rated`).

The sections that the page arrives in are only another writing of its rows in their
order (`rowsOf_buildInventorySections`), so the ids of the summary are those of the rows
that are shown, can be registered and are selected (`formIds_summary`).  A counter of
the plugin stops at its maximum, and a key may be another under new settings; but for
these two the prediction is right (`predicted_gain`).

## What is not said

The points are the centi points over 100, in doubles, and not always the exact quotient:
100 times the double for 28 centi points is not 28.  What is proved is that they are the
double nearest to the quotient (`disciplinePointGain_summarize`) and that 100 times the
points, rounded, are the centi points again (`hundredfold_disciplinePointGain`).

The prediction is for a batch all of which succeeds, under the keys of the list.  Where keys
have become others, or a score is full, it may fail (`not_predicted_gain`).
-/
import CodexOfPower.RegisterBatchPanel
import CodexOfPower.Conservation

namespace CodexOfPower

open RE Builds Registration PrismaUIManager PrismaUIPayloads BuildProgression

namespace RegisterBatchPanel

/-! ## The rows of the payload -/

section Sections

variable {F : Type} {env : Environment F} {sections : List InventorySection} {it : ListItem}

def rowsOf (sections : List InventorySection) : List (InventorySection × Json) :=
  sections.flatMap fun part => part.rows.map fun row => (part, row)

def content (row : InventorySection × Json) : Text × Json := (row.1.discipline, row.2)

theorem content_rowsOf_append (sections : List InventorySection) (part : InventorySection) :
    (rowsOf (sections ++ [part])).map content =
      (rowsOf sections).map content ++ part.rows.map fun row => (part.discipline, row) := by
  simp [rowsOf, content]

/-- A row goes to the end, under its own discipline. -/
theorem content_appendRow (env : Environment F) (sections : List InventorySection)
    (it : ListItem) :
    (rowsOf (appendRow env sections it)).map content =
      (rowsOf sections).map content ++ [(groupToDiscipline it.group, rowPayload env it)] := by
  unfold appendRow
  dsimp only
  cases hlast : sections.getLast? with
  | none =>
    have hnil : sections = [] := List.getLast?_eq_none_iff.mp hlast
    rw [hnil]
    rfl
  | some current =>
    dsimp only
    split_ifs with hother
    · rw [content_rowsOf_append]
      rfl
    · -- the row joins the last section
      have hsame : current.discipline = groupToDiscipline it.group := not_not.mp hother
      have hsections : sections.dropLast ++ [current] = sections :=
        List.dropLast_append_getLast? current hlast
      have hrows : (rowsOf sections).map content =
          (rowsOf sections.dropLast).map content ++
            current.rows.map fun row => (current.discipline, row) := by
        rw [← content_rowsOf_append, hsections]
      rw [content_rowsOf_append, hrows, List.map_append, List.append_assoc, hsame]
      rfl

theorem rowsOf_buildInventorySections (env : Environment F) (pageData : QuickRegisterList) :
    (rowsOf (buildInventorySections env pageData)).map content =
      pageData.items.map fun it => (groupToDiscipline it.group, rowPayload env it) := by
  have hfold : ∀ (items : List ListItem) (sections : List InventorySection),
      (rowsOf (items.foldl (appendRow env) sections)).map content =
        (rowsOf sections).map content ++
          items.map fun it => (groupToDiscipline it.group, rowPayload env it) := by
    intro items
    induction items with
    | nil => simp
    | cons it rest ih =>
      intro sections
      rw [List.foldl_cons, ih, content_appendRow, List.append_assoc]
      rfl
  exact hfold pageData.items []

end Sections

/-! ## The rows of the view -/

section Rows

variable {library : ScriptLibrary} {selectedIds filters : ScriptValue} {F : Type}
  {env : Environment F} {it : ListItem}

instance (row : ListItem) : Decidable row.IsEnabled := inferInstanceAs (Decidable (_ ∧ _))

/-- The filters let the row through. -/
def Visible (library : ScriptLibrary) (filters : ScriptValue) (it : ListItem) : Prop :=
  (queryOf library filters ≠ [] → queryOf library filters <:+: library.toLowerCase it.name) ∧
    (actionableOnlyOf filters = true → it.IsEnabled)

def IsSelected (library : ScriptLibrary) (selectedIds : ScriptValue) (it : ListItem) : Prop :=
  it.formId ∈ selectedSet library selectedIds

instance (library : ScriptLibrary) (filters : ScriptValue) (it : ListItem) :
    Decidable (Visible library filters it) := inferInstanceAs (Decidable (_ ∧ _))

instance (library : ScriptLibrary) (selectedIds : ScriptValue) (it : ListItem) :
    Decidable (IsSelected library selectedIds it) := inferInstanceAs (Decidable (_ ∈ _))

/-- The row of the view is that of the item. -/
structure Reads (library : ScriptLibrary) (selectedIds : ScriptValue) (it : ListItem)
    (row : Row) : Prop where
  formId : row.formId = it.formId
  regKey : row.regKey = it.regKey
  discipline : row.discipline = groupToDiscipline it.group
  buildPointsCenti : row.buildPointsCenti = it.buildPointsCenti
  isSelected : row.isSelected = true ↔ it.IsEnabled ∧ IsSelected library selectedIds it

theorem nameOf_rowPayload (env : Environment F) (it : ListItem) :
    nameOf library (parse library (rowPayload env it)) = it.name :=
  ScriptValue.toText_string_orElse_nil library it.name

theorem actionable_rowPayload (env : Environment F) (it : ListItem) :
    ((parse library (rowPayload env it)).member "actionable").truthy = true ↔ it.IsEnabled := by
  have hread : ((parse library (rowPayload env it)).member "actionable").truthy =
      (decide (0 < it.safeCount) && decide (it.disabledReason = [])) := rfl
  rw [hread, Bool.and_eq_true, decide_eq_true_iff, decide_eq_true_iff]
  exact and_comm

theorem numberOf_of_member {row : ScriptValue} {key : String} {n : UInt32}
    (h : row.member key = .number n.toUInt64.toNat) : numberOf library row key = n := by
  unfold numberOf
  rw [h, UInt32.toNat_toUInt64, ScriptValue.toUInt32_number_orElse_zero]

theorem isShown_rowPayload (env : Environment F) (it : ListItem) :
    isShown library (queryOf library filters) (actionableOnlyOf filters)
        (parse library (rowPayload env it)) = true ↔ Visible library filters it := by
  have hactionable : ((parse library (rowPayload env it)).member "actionable").truthy =
      decide it.IsEnabled := by
    rw [Bool.eq_iff_iff, decide_eq_true_iff]
    exact actionable_rowPayload env it
  unfold isShown Visible
  rw [nameOf_rowPayload, hactionable]
  by_cases hquery : queryOf library filters = []
  · simp [hquery, imp_iff_not_or]
  · by_cases hname : queryOf library filters <:+: library.toLowerCase it.name
    · simp [hquery, hname, imp_iff_not_or]
    · simp [hquery, hname]

theorem toLowerCase_groupToDiscipline (group : UInt32) :
    library.toLowerCase (groupToDiscipline group) = groupToDiscipline group := by
  unfold groupToDiscipline
  split_ifs <;> rfl

theorem disciplineOf_payload {part : InventorySection} {group : UInt32}
    (h : part.discipline = groupToDiscipline group) :
    disciplineOf library (parse library (part.payload env)) = groupToDiscipline group := by
  have hne : groupToDiscipline group ≠ [] := by
    unfold groupToDiscipline
    split_ifs <;> decide
  have hread : disciplineOf library (parse library (part.payload env)) =
      library.toLowerCase (((ScriptValue.string part.discipline).orElse
        (.string (utf8 "utility"))).toText library) := rfl
  rw [hread, h, ScriptValue.toText_string_orElse hne, toLowerCase_groupToDiscipline]

theorem asObject_of_content {row : InventorySection × Json}
    (h : content row = (groupToDiscipline it.group, rowPayload env it)) :
    (parse library row.2).asObject = parse library (rowPayload env it) := by
  rw [(Prod.mk.inj h).2]
  rfl

/-- A row of the payload is read as that of its item. -/
theorem reads_vmRow (env : Environment F) {row : InventorySection × Json}
    (h : content row = (groupToDiscipline it.group, rowPayload env it)) :
    Reads library selectedIds it
      (vmRow library (parse library (row.1.payload env))
        (disciplineOf library (parse library (row.1.payload env)))
        (selectedSet library selectedIds) (parse library row.2).asObject) := by
  have hformId : numberOf library (parse library (rowPayload env it)) "formId" = it.formId :=
    numberOf_of_member rfl
  rw [asObject_of_content h, disciplineOf_payload (Prod.mk.inj h).1]
  exact
    { formId := hformId
      regKey := numberOf_of_member rfl
      discipline := rfl
      buildPointsCenti := numberOf_of_member rfl
      isSelected := by
        unfold vmRow IsSelected
        dsimp only
        rw [Bool.and_eq_true, actionable_rowPayload, decide_eq_true_iff, hformId] }

theorem parseItems_eq_map (items : List Json) :
    parseItems library items = items.map (parse library) := by
  induction items with
  | nil => rfl
  | cons item rest ih => rw [parseItems, ih, List.map_cons]

/-- The page as the panel gets it. -/
def inventoryPage (library : ScriptLibrary) (env : Environment F) (page pageSize : UInt32)
    (pageData : QuickRegisterList) : ScriptValue :=
  parse library (buildInventoryPayload env page pageSize pageData)

variable {page pageSize : UInt32} {pageData : QuickRegisterList}

/-- The rows of the view are the rows of the page that are visible, in its order. -/
theorem reads_rows :
    List.Forall₂ (Reads library selectedIds)
      (pageData.items.filter fun it => Visible library filters it)
      (buildRegisterBatchViewModel library (inventoryPage library env page pageSize pageData)
        selectedIds filters).rows := by
  have hrows : (buildRegisterBatchViewModel library
      (inventoryPage library env page pageSize pageData) selectedIds filters).rows =
      ((rowsOf (buildInventorySections env pageData)).filter fun row =>
        isShown library (queryOf library filters) (actionableOnlyOf filters)
          (parse library row.2).asObject).map fun row =>
        vmRow library (parse library (row.1.payload env))
          (disciplineOf library (parse library (row.1.payload env)))
          (selectedSet library selectedIds) (parse library row.2).asObject := by
    show ((parseItems library ((buildInventorySections env pageData).map
      (InventorySection.payload env))).flatMap _) = _
    rw [parseItems_eq_map, List.map_map, List.flatMap_map]
    unfold rowsOf
    rw [List.filter_flatMap, List.map_flatMap]
    refine List.flatMap_congr fun part _ => ?_
    have hitems : ((parse library (part.payload env)).member "rows").items =
        part.rows.map (parse library) := parseItems_eq_map part.rows
    show ((((parse library (part.payload env)).member "rows").items.map _).filter _).map _ = _
    rw [hitems, List.map_map, List.filter_map, List.map_map, List.filter_map, List.map_map]
    rfl
  have hcontent : List.Forall₂ (fun (it : ListItem) (row : InventorySection × Json) =>
      content row = (groupToDiscipline it.group, rowPayload env it))
      pageData.items (rowsOf (buildInventorySections env pageData)) := by
    have heq := (rowsOf_buildInventorySections env pageData).symm
    rw [← List.forall₂_eq_eq_eq, List.forall₂_map_left_iff, List.forall₂_map_right_iff] at heq
    exact heq.imp fun _ _ h => h.symm
  rw [hrows, List.forall₂_map_right_iff]
  refine (List.rel_filter ?_ hcontent).imp fun it row h => reads_vmRow env h
  intro it row h
  dsimp only
  rw [asObject_of_content h, isShown_rowPayload, decide_eq_true_iff]

end Rows

/-! ## The sums of the panel -/

section Sums

def disciplineKey : BuildDiscipline → Text
  | .Attack => utf8 "attack"
  | .Defense => utf8 "defense"
  | .Utility => utf8 "utility"
  | .unnamed _ => []

/-- The number of a discipline; 0 outside the three. -/
def Gains.of (gains : Gains) : BuildDiscipline → ℚ
  | .Attack => gains.attack
  | .Defense => gains.defense
  | .Utility => gains.utility
  | .unnamed _ => 0

theorem groupToDiscipline_eq (group : UInt32) :
    groupToDiscipline group = disciplineKey (convertLegacyGroupToDiscipline group) := by
  unfold groupToDiscipline convertLegacyGroupToDiscipline
  split_ifs <;> rfl

/-- An amount counts for its own discipline. -/
theorem of_add {c : BuildDiscipline} (hc : c.IsDeclared) (gains : Gains) (amount : ℚ)
    (d : BuildDiscipline) :
    (gains.add (disciplineKey c) amount).of d =
      if c = d then nearestDouble (gains.of d + amount) else gains.of d := by
  have hkeys : utf8 "defense" ≠ utf8 "attack" ∧ utf8 "utility" ≠ utf8 "attack" ∧
      utf8 "utility" ≠ utf8 "defense" := by decide
  obtain ⟨hdefense, hutility, hother⟩ := hkeys
  cases c with
  | unnamed value => exact absurd hc id
  | Attack => cases d <;> simp [Gains.add, Gains.of, disciplineKey]
  | Defense => cases d <;> simp [Gains.add, Gains.of, disciplineKey, hdefense]
  | Utility => cases d <;> simp [Gains.add, Gains.of, disciplineKey, hutility, hother]

def total (amount : ListItem → Nat) (d : BuildDiscipline) (items : List ListItem) : Nat :=
  (items.map fun it =>
    if convertLegacyGroupToDiscipline it.group = d then amount it else 0).sum

theorem total_singleton (amount : ListItem → Nat) (d : BuildDiscipline) (it : ListItem) :
    total amount d [it] = if convertLegacyGroupToDiscipline it.group = d then amount it else 0 :=
  List.sum_singleton

theorem total_cons (amount : ListItem → Nat) (d : BuildDiscipline) (it : ListItem)
    (items : List ListItem) :
    total amount d (it :: items) = total amount d [it] + total amount d items := by
  rw [total_singleton]
  exact List.sum_cons

/-- The loop over the rows adds up what their items come to, which is exact up to 2⁵³. -/
theorem of_foldl_add {R : ListItem → Row → Prop} (amountOf : Row → ℚ) (amount : ListItem → Nat)
    (hdiscipline : ∀ it row, R it row → row.discipline = groupToDiscipline it.group)
    (hamount : ∀ it row, R it row → amountOf row = amount it) {items : List ListItem}
    {rows : List Row} (h : List.Forall₂ R items rows) (gains : Gains) (d : BuildDiscipline)
    (before : Nat) (hgains : gains.of d = before)
    (hbound : before + total amount d items < 2 ^ 53) :
    (rows.foldl (fun gains row => gains.add row.discipline (amountOf row)) gains).of d =
      ((before + total amount d items : Nat) : ℚ) := by
  induction h generalizing gains before with
  | nil => simpa [total] using hgains
  | @cons it row items rows hrow hrest ih =>
    have hstep := of_add (isDeclared_convertLegacyGroup it.group) gains (amount it) d
    rw [total_cons amount d it items] at hbound
    have hfirst : (gains.add (groupToDiscipline it.group) (amount it)).of d =
        ((before + total amount d [it] : Nat) : ℚ) := by
      rw [groupToDiscipline_eq, hstep, hgains]
      rw [total_singleton] at hbound ⊢
      split_ifs with hsame
      · rw [if_pos hsame] at hbound
        rw [← Nat.cast_add]
        exact nearestDouble_natCast (by omega)
      · rfl
    rw [List.foldl_cons, hdiscipline it row hrow, hamount it row hrow,
      ih _ _ hfirst (by omega), total_cons amount d it items, Nat.add_assoc]

theorem total_le {amount : ListItem → Nat} {most : Nat} {items : List ListItem}
    (h : ∀ it ∈ items, amount it ≤ most) (d : BuildDiscipline) :
    total amount d items ≤ items.length * most := by
  refine (List.sum_le_card_nsmul _ most ?_).trans ?_
  · intro value hvalue
    obtain ⟨it, hit, rfl⟩ := List.mem_map.mp hvalue
    split_ifs
    · exact h it hit
    · exact Nat.zero_le _
  · rw [List.length_map, smul_eq_mul]

theorem length_le_of_nodup {items : List ListItem} (h : (items.map ListItem.formId).Nodup) :
    items.length ≤ 2 ^ 32 := by
  have hnodup : ((items.map ListItem.formId).map UInt32.toNat).Nodup :=
    h.map fun _ _ heq => UInt32.toNat_inj.mp heq
  have hsubset : (items.map ListItem.formId).map UInt32.toNat ⊆ List.range (2 ^ 32) := by
    intro n hn
    obtain ⟨formId, -, rfl⟩ := List.mem_map.mp hn
    exact List.mem_range.mpr formId.toNat_lt
  have hlength := (hnodup.subperm hsubset).length_le
  rwa [List.length_map, List.length_map, List.length_range] at hlength

end Sums

/-! ## The counters of the plugin -/

section Counters

variable {formTypes : FormID → FormType} {env : Environment Float32}
  {state : RuntimeState Float32} {it : ListItem}

/-- The row says of its key what registering it finds. -/
structure Rated (formTypes : FormID → FormType) (env : Environment Float32) (it : ListItem) :
    Prop where
  regKey : it.regKey = getRegisterKey env it.formId
  group : it.group = groupFromFormType (formTypes it.regKey)
  counts : Counts formTypes it.regKey it.group
  points : it.buildPointsCenti = resolveBuildPointsForFormType (formTypes it.regKey)

theorem raised_of_toNat_eq_raised {counter counter' : UInt32} {amount : Nat}
    (h : counter'.toNat = raised counter amount) (more : Nat) :
    raised counter' more = raised counter (amount + more) := by
  unfold raised at *
  rw [h]
  omega

theorem rated_of_mem {quickListState : QuickListSnapshot}
    (h : it ∈ buildQuickListEligibleItems formTypes env quickListState) :
    Rated formTypes env it := by
  obtain ⟨entry, hleads, -, rfl⟩ := mem_buildQuickListEligibleItems.mp h
  have hlistable := hleads.isCounted
  unfold isListable at hlistable
  dsimp only at hlistable
  split_ifs at hlistable with hgroup
  have hle := UInt32.not_lt.mp hgroup
  have hform : getDiscoveryGroupFast formTypes env quickListState
      (getRegisterKey env entry.object) =
      groupFromFormType (formTypes (getRegisterKey env entry.object)) := discoveryGroupFor_eq hle
  refine ⟨rfl, hform, ⟨hle, ?_⟩, rfl⟩
  rw [hform] at hle
  exact resolveBuildPoints_of_group hle

/-- What the registration of a key that counts does to the counters. -/
theorem counters_commit {regKey item : FormID} {group : UInt32}
    (hcounts : Counts formTypes regKey group) (d : BuildDiscipline) :
    ((commitRegistration formTypes env state item regKey group).1.score d).toNat =
        raised (state.score d) (if convertLegacyGroupToDiscipline group = d then 1 else 0) ∧
      ((commitRegistration formTypes env state item regKey group).1.pointsCenti d).toNat =
        raised (state.pointsCenti d) (if convertLegacyGroupToDiscipline group = d then
          (resolveBuildPointsForFormType (formTypes regKey)).toNat else 0) := by
  obtain ⟨c, hc, hcontribution⟩ := contributionOf_counts hcounts
  obtain ⟨ledger, heq⟩ := commitRegistration_eq formTypes env state item regKey group
  rw [heq, hc]
  show ((applyRegistrationContribution state c).1.score d).toNat = _ ∧
    ((applyRegistrationContribution state c).1.pointsCenti d).toNat = _
  exact counters_apply hcontribution state d

/-- A call that succeeds counts the row as the list rates it. -/
theorem counters_tryRegisterItem (hrated : Rated formTypes env it) {now : Environment Float32}
    (hkey : getRegisterKey now it.formId = getRegisterKey env it.formId)
    (hsuccess : (tryRegisterItem formTypes now state it.formId).2.success = true)
    (d : BuildDiscipline) :
    ((tryRegisterItem formTypes now state it.formId).1.score d).toNat =
        raised (state.score d) (total (fun _ => 1) d [it]) ∧
      ((tryRegisterItem formTypes now state it.formId).1.pointsCenti d).toNat =
        raised (state.pointsCenti d) (total (fun it => it.buildPointsCenti.toNat) d [it]) := by
  rcases tryRegisterItem_cases formTypes now state it.formId with
    ⟨hfails, -⟩ | ⟨-, -, hgroup, heq⟩
  · rw [hsuccess] at hfails
    cases hfails
  · have hkeyRow : getRegisterKey now it.formId = it.regKey := hkey.trans hrated.regKey.symm
    rw [hkeyRow] at heq hgroup
    have hsame : getDiscoveryGroup formTypes now state it.regKey = it.group :=
      (discoveryGroupFor_eq hgroup).trans hrated.group.symm
    rw [hsame] at heq
    rw [heq, total_singleton, total_singleton, hrated.points]
    exact counters_commit hrated.counts d

theorem registerBatch_le (formTypes : FormID → FormType)
    (calls : List (Environment Float32 × FormID)) (state : RuntimeState Float32) :
    (registerBatch formTypes state calls).2 ≤ calls.length := by
  induction calls generalizing state with
  | nil => exact Nat.le_refl _
  | cons call rest ih =>
    have hrest := ih (tryRegisterItem formTypes call.1 state call.2).1
    rw [successCount_registerBatch_cons, List.length_cons]
    split_ifs <;> omega

theorem counters_registerBatch {items : List ListItem}
    (hrated : ∀ it ∈ items, Rated formTypes env it)
    {calls : List (Environment Float32 × FormID)}
    (hcalls : calls.map Prod.snd = items.map ListItem.formId)
    (hkeys : ∀ call ∈ calls, getRegisterKey call.1 call.2 = getRegisterKey env call.2)
    (hsuccess : (registerBatch formTypes state calls).2 = calls.length) (d : BuildDiscipline) :
    ((registerBatch formTypes state calls).1.score d).toNat =
        raised (state.score d) (total (fun _ => 1) d items) ∧
      ((registerBatch formTypes state calls).1.pointsCenti d).toNat =
        raised (state.pointsCenti d) (total (fun it => it.buildPointsCenti.toNat) d items) := by
  induction items generalizing calls state with
  | nil =>
    rw [List.map_eq_nil_iff.mp hcalls]
    exact ⟨(raised_zero _).symm, (raised_zero _).symm⟩
  | cons it items ih =>
    obtain ⟨⟨now, formId⟩, rest, rfl, hformId, hrest⟩ := List.map_eq_cons_iff.mp hcalls
    obtain rfl : formId = it.formId := hformId
    have hle := registerBatch_le formTypes rest
      (tryRegisterItem formTypes now state it.formId).1
    rw [successCount_registerBatch_cons, List.length_cons] at hsuccess
    dsimp only at hsuccess
    -- so the first succeeds, and all of the rest
    cases hfirst : (tryRegisterItem formTypes now state it.formId).2.success with
    | false =>
      rw [hfirst, if_neg Bool.false_ne_true] at hsuccess
      omega
    | true =>
      rw [hfirst, if_pos rfl] at hsuccess
      have hall : (registerBatch formTypes (tryRegisterItem formTypes now state it.formId).1
          rest).2 = rest.length := by omega
      obtain ⟨hscore, hpoints⟩ := counters_tryRegisterItem (hrated it List.mem_cons_self)
        (hkeys _ List.mem_cons_self) hfirst d
      obtain ⟨hrestScore, hrestPoints⟩ := ih
        (fun it hit => hrated it (List.mem_cons_of_mem _ hit)) hrest
        (fun call hcall => hkeys call (List.mem_cons_of_mem _ hcall)) hall
      refine ⟨hrestScore.trans ?_, hrestPoints.trans ?_⟩
      · rw [raised_of_toNat_eq_raised hscore, ← total_cons]
      · rw [raised_of_toNat_eq_raised hpoints, ← total_cons]

end Counters

/-! ## The summary -/

section Summaries

variable {library : ScriptLibrary} {selectedIds : ScriptValue} {items : List ListItem}
  {rows : List Row}

/-- `Math.round(100 * points)` -/
def hundredfold (points : ℚ) : ℚ := VirtualTables.mathRound (nearestDouble (points * 100))

theorem formIds_summarize
    (h : List.Forall₂ (Reads library selectedIds) items (rows.filter Row.isSelected)) :
    (summarize rows).formIds = items.map ListItem.formId := by
  have hids : List.Forall₂ (· = ·) (items.map ListItem.formId)
      ((rows.filter Row.isSelected).map Row.formId) := by
    rw [List.forall₂_map_left_iff, List.forall₂_map_right_iff]
    exact h.imp fun _ _ hread => hread.formId.symm
  rw [List.forall₂_eq_eq_eq] at hids
  exact hids.symm

theorem disciplineGain_summarize
    (h : List.Forall₂ (Reads library selectedIds) items (rows.filter Row.isSelected))
    (hlength : items.length ≤ 2 ^ 32) (d : BuildDiscipline) :
    (summarize rows).disciplineGain.of d = total (fun _ => 1) d items := by
  have hzero : Gains.of {} d = (0 : Nat) := by cases d <;> rfl
  have htotal : total (fun _ => 1) d items ≤ items.length * 1 :=
    total_le (fun _ _ => Nat.le_refl 1) d
  have hfold := of_foldl_add (fun _ => 1) (fun _ => 1) (fun _ _ hread => hread.discipline)
    (fun _ _ _ => Nat.cast_one.symm) h {} d 0 hzero (by omega)
  rw [Nat.zero_add] at hfold
  exact hfold

/-- The points are the double nearest to the centi points over 100; a row without centi
points of its own is not on the page. -/
theorem disciplinePointGain_summarize
    (h : List.Forall₂ (Reads library selectedIds) items (rows.filter Row.isSelected))
    (hpoints : ∀ it ∈ items, it.buildPointsCenti ≠ 0 ∧ it.buildPointsCenti.toNat ≤ 70)
    (hlength : items.length ≤ 2 ^ 32) (d : BuildDiscipline) :
    (summarize rows).disciplinePointGain.of d =
      nearestDouble ((total (fun it => it.buildPointsCenti.toNat) d items : Nat) / 100) := by
  have hpaid := (List.forall₂_and_left items (rows.filter Row.isSelected)).mpr
    ⟨fun it hit => (hpoints it hit).1, h⟩
  have hgain : ∀ (it : ListItem) (row : Row),
      it.buildPointsCenti ≠ 0 ∧ Reads library selectedIds it row →
        gainOf row = it.buildPointsCenti.toNat := by
    rintro it row ⟨hne, hread⟩
    unfold gainOf
    rw [hread.buildPointsCenti, if_pos hne]
  have hzero : Gains.of {} d = (0 : Nat) := by cases d <;> rfl
  have htotal := total_le (fun it hit => (hpoints it hit).2) d
  have hfold := of_foldl_add gainOf (fun it => it.buildPointsCenti.toNat)
    (fun _ _ hread => hread.2.discipline) hgain hpaid {} d 0 hzero (by omega)
  rw [Nat.zero_add] at hfold
  rw [← hfold]
  cases d with
  | unnamed value =>
    show (0 : ℚ) = nearestDouble (0 / 100)
    rw [zero_div, nearestDouble_zero]
  | _ => rfl

/-- Multiplied by 100 and rounded, the points are the centi points again. -/
theorem hundredfold_disciplinePointGain
    (h : List.Forall₂ (Reads library selectedIds) items (rows.filter Row.isSelected))
    (hpoints : ∀ it ∈ items, it.buildPointsCenti ≠ 0 ∧ it.buildPointsCenti.toNat ≤ 70)
    (hlength : items.length ≤ 2 ^ 32) (d : BuildDiscipline) :
    hundredfold ((summarize rows).disciplinePointGain.of d) =
      total (fun it => it.buildPointsCenti.toNat) d items := by
  have htotal := total_le (fun it hit => (hpoints it hit).2) d
  have hwhole := floor_scaled_quotient (k := 100) (by norm_num)
    (show total (fun it => it.buildPointsCenti.toNat) d items < 2 ^ 50 by omega)
  rw [disciplinePointGain_summarize h hpoints hlength]
  exact (congrArg Int.cast hwhole).trans (Int.cast_natCast _)

end Summaries

/-! ## The prediction -/

section Prediction

variable {library : ScriptLibrary} {selectedIds filters : ScriptValue}
  {formTypes : FormID → FormType} {env : Environment Float32}
  {quickListState : QuickListSnapshot}

def chosen (library : ScriptLibrary) (selectedIds filters : ScriptValue)
    (items : List ListItem) : List ListItem :=
  items.filter fun it =>
    Visible library filters it ∧ it.IsEnabled ∧ IsSelected library selectedIds it

theorem reads_selected (library : ScriptLibrary) (env : Environment Float32)
    (page pageSize : UInt32) (pageData : QuickRegisterList) (selectedIds filters : ScriptValue) :
    List.Forall₂ (Reads library selectedIds) (chosen library selectedIds filters pageData.items)
      ((buildRegisterBatchViewModel library (inventoryPage library env page pageSize pageData)
        selectedIds filters).rows.filter Row.isSelected) := by
  have hchosen : chosen library selectedIds filters pageData.items =
      (pageData.items.filter fun it => Visible library filters it).filter fun it =>
        it.IsEnabled ∧ IsSelected library selectedIds it := by
    unfold chosen
    rw [List.filter_filter]
    refine List.filter_congr fun it _ => ?_
    rw [← Bool.decide_and, decide_eq_decide]
    exact and_comm
  rw [hchosen]
  refine List.rel_filter ?_ reads_rows
  intro it row h
  dsimp only
  rw [h.isSelected, decide_eq_true_iff]

/-- No two rows of the quick list are of one form. -/
theorem nodup_formId_buildQuickListEligibleItems :
    ((buildQuickListEligibleItems formTypes env quickListState).map ListItem.formId).Nodup := by
  have hkeys : ((buildQuickListEligibleItems formTypes env quickListState).map
      ListItem.regKey).Nodup := nodup_regKey_buildQuickListEligibleItems
  have hread : (buildQuickListEligibleItems formTypes env quickListState).map ListItem.regKey =
      ((buildQuickListEligibleItems formTypes env quickListState).map ListItem.formId).map
        (getRegisterKey env) := by
    rw [List.map_map]
    exact List.map_congr_left fun it hit => (rated_of_mem hit).regKey
  rw [hread] at hkeys
  exact hkeys.of_map _

structure AllRegistered (formTypes : FormID → FormType) (formIds : List FormID)
    (state : RuntimeState Float32) (calls : List (Environment Float32 × FormID)) : Prop where
  formIds : calls.map Prod.snd = formIds
  successCount : (registerBatch formTypes state calls).2 = calls.length

/-- The form ids have the keys that they had when the list was built. -/
def KeepsKeys (env : Environment Float32) (calls : List (Environment Float32 × FormID)) : Prop :=
  ∀ call ∈ calls, getRegisterKey call.1 call.2 = getRegisterKey env call.2

/-- The counters rise by what the summary says, up to their maximum; of the points that is
100 times what it says, rounded. -/
def Raises (summary : Summary) (before after : RuntimeState Float32) : Prop :=
  ∀ d, ((after.score d).toNat : ℚ) =
      min ((before.score d).toNat + summary.disciplineGain.of d) (2 ^ 32 - 1) ∧
    ((after.pointsCenti d).toNat : ℚ) =
      min ((before.pointsCenti d).toNat + hundredfold (summary.disciplinePointGain.of d))
        (2 ^ 32 - 1)

/-- What a summary says of the rows it is about. -/
structure Predicts (formTypes : FormID → FormType) (env : Environment Float32)
    (rows : List ListItem) (summary : Summary) : Prop where
  formIds : summary.formIds = rows.map ListItem.formId
  nodup : summary.formIds.Nodup
  raises : ∀ state calls, AllRegistered formTypes summary.formIds state calls →
    KeepsKeys env calls → Raises summary state (registerBatch formTypes state calls).1

theorem resolveBuildPoints_le (formType : FormType) :
    (resolveBuildPointsForFormType formType).toNat ≤ 70 := by
  cases formType <;> decide

theorem cast_raised (counter : UInt32) (amount : Nat) :
    (raised counter amount : ℚ) = min ((counter.toNat : ℚ) + amount) (2 ^ 32 - 1) := by
  have hmax : ((2 ^ 32 - 1 : Nat) : ℚ) = 2 ^ 32 - 1 := by norm_num
  unfold raised
  rw [Nat.cast_min, Nat.cast_add, hmax]

/-- The prediction for a page of the quick list, whatever is selected and filtered; the
names of the groups are those of the moment the page is sent. -/
theorem predicted_gain (library : ScriptLibrary) (selectedIds filters : ScriptValue)
    (formTypes : FormID → FormType) (env sent : Environment Float32)
    (quickListState : QuickListSnapshot) (offset limit : Nat) (page pageSize : UInt32) :
    let pageData := fillQuickListPage
      (buildQuickListEligibleItems formTypes env quickListState) offset limit
    Predicts formTypes env (chosen library selectedIds filters pageData.items)
      (buildRegisterBatchViewModel library (inventoryPage library sent page pageSize pageData)
        selectedIds filters).summary := by
  intro pageData
  have hreads := reads_selected library sent page pageSize pageData selectedIds filters
  have hitems : List.Sublist (chosen library selectedIds filters pageData.items)
      (buildQuickListEligibleItems formTypes env quickListState) := by
    have hpage : List.Sublist pageData.items
        (buildQuickListEligibleItems formTypes env quickListState) := by
      rw [fillQuickListPage_items]
      exact (List.take_sublist _ _).trans (List.drop_sublist _ _)
    exact List.filter_sublist.trans hpage
  have hrated : ∀ it ∈ chosen library selectedIds filters pageData.items,
      Rated formTypes env it := fun it hit => rated_of_mem (hitems.subset hit)
  have hpoints : ∀ it ∈ chosen library selectedIds filters pageData.items,
      it.buildPointsCenti ≠ 0 ∧ it.buildPointsCenti.toNat ≤ 70 := by
    intro it hit
    rw [(hrated it hit).points]
    exact ⟨(hrated it hit).counts.2, resolveBuildPoints_le _⟩
  have hformIds := formIds_summarize hreads
  have hnodup := nodup_formId_buildQuickListEligibleItems.sublist (hitems.map ListItem.formId)
  have hlength := length_le_of_nodup hnodup
  refine ⟨hformIds, hformIds ▸ hnodup, ?_⟩
  · intro state calls hall hkeys d
    obtain ⟨hscore, hcenti⟩ := counters_registerBatch hrated (hall.formIds.trans hformIds) hkeys
      hall.successCount d
    refine ⟨?_, ?_⟩
    · rw [hscore, cast_raised, ← disciplineGain_summarize hreads hlength d]
      rfl
    · have hhundred := hundredfold_disciplinePointGain hreads hpoints hlength d
      rw [hcenti, cast_raised, ← hhundred]
      rfl

end Prediction

/-! ## A sword and its key -/

section Sword

/-- A language that converts nothing. -/
def plainLibrary : ScriptLibrary where
  numberOf := fun _ => none
  textOf := fun _ => []
  trim := id
  lowerCase := id
  ofFloat := fun _ => .nan

/-- The key of the sword is ammunition. -/
def kinds (id : FormID) : FormType :=
  if id = 3 then .Ammo else if id = 4 then .Ingredient else if id = 5 then .Scroll else .Weapon

def oneSword : Environment Float32 := stall (utf8 "Sword") [sword]

/-- The player of the sword, once keys are not normalized. -/
def newSettings : Environment Float32 :=
  { oneSword with settings := { normalizeRegistration := false } }

def listOfSword : List ListItem :=
  buildQuickListEligibleItems kinds oneSword (snapshotQuickList (F := Float32) {})

def summaryOfSword : Summary :=
  (buildRegisterBatchViewModel plainLibrary
    (inventoryPage plainLibrary oneSword 0 200 (fillQuickListPage listOfSword 0 200))
    (.array [.number 2]) .undefined).summary

theorem listOfSword_eq :
    listOfSword = [listItem kinds oneSword (snapshotQuickList (F := Float32) {}) sword] :=
  List.mergeSort_singleton _

theorem formIds_summaryOfSword : summaryOfSword.formIds = [2] := by
  have hreads := reads_selected plainLibrary oneSword 0 200 (fillQuickListPage listOfSword 0 200)
    (.array [.number 2]) .undefined
  refine (formIds_summarize hreads).trans ?_
  rw [listOfSword_eq]
  decide

def RaisesExactly (summary : Summary) (before after : RuntimeState Float32) : Prop :=
  ∀ d, ((after.score d).toNat : ℚ) - (before.score d).toNat = summary.disciplineGain.of d ∧
    ((after.pointsCenti d).toNat : ℚ) - (before.pointsCenti d).toNat =
      hundredfold (summary.disciplinePointGain.of d)

theorem gains_summaryOfSword :
    summaryOfSword.disciplineGain.of .Attack = 1 ∧
      hundredfold (summaryOfSword.disciplinePointGain.of .Attack) = 20 := by
  have hreads := reads_selected plainLibrary oneSword 0 200 (fillQuickListPage listOfSword 0 200)
    (.array [.number 2]) .undefined
  have hchosen : chosen plainLibrary (.array [.number 2]) .undefined
      (fillQuickListPage listOfSword 0 200).items =
        [listItem kinds oneSword (snapshotQuickList (F := Float32) {}) sword] := by
    rw [listOfSword_eq]
    decide
  rw [hchosen] at hreads
  refine ⟨?_, ?_⟩
  · refine (disciplineGain_summarize hreads (by decide) .Attack).trans ?_
    rw [total_singleton]
    exact Nat.cast_one
  · refine (hundredfold_disciplinePointGain hreads (by decide) (by decide) .Attack).trans ?_
    rw [total_singleton]
    exact Nat.cast_ofNat

/-- An ingredient and a scroll. -/
def herbAndScroll : Environment Float32 := stall (utf8 "Herb") [{ object := 4 }, { object := 5 }]

def listOfTwo : List ListItem :=
  buildQuickListEligibleItems kinds herbAndScroll (snapshotQuickList (F := Float32) {})

/-- What the panel says with an ingredient and a scroll selected. -/
def summaryOfTwo : Summary :=
  (buildRegisterBatchViewModel plainLibrary
    (inventoryPage plainLibrary herbAndScroll 0 200 (fillQuickListPage listOfTwo 0 200))
    (.array [.number 4, .number 5]) .undefined).summary

/-- The ingredient and the scroll are registered. -/
def callsOfTwo : List (Environment Float32 × FormID) :=
  listOfTwo.map fun it => (herbAndScroll.atOnce, it.formId)

theorem listOfTwo_eq :
    listOfTwo = [{ object := 4 }, { object := 5 }].map
      (listItem kinds herbAndScroll (snapshotQuickList (F := Float32) {})) :=
  List.mergeSort_of_pairwise (by decide +kernel)

theorem gain_summaryOfTwo :
    AllRegistered kinds summaryOfTwo.formIds {} callsOfTwo ∧
      summaryOfTwo.disciplinePointGain.of .Utility = nearestDouble (28 / 100) := by
  have hreads := reads_selected plainLibrary herbAndScroll 0 200
    (fillQuickListPage listOfTwo 0 200) (.array [.number 4, .number 5]) .undefined
  have hchosen : chosen plainLibrary (.array [.number 4, .number 5]) .undefined
      (fillQuickListPage listOfTwo 0 200).items =
        [{ object := 4 }, { object := 5 }].map
          (listItem kinds herbAndScroll (snapshotQuickList (F := Float32) {})) := by
    rw [listOfTwo_eq]
    decide +kernel
  rw [hchosen] at hreads
  have hcalls : callsOfTwo = [(herbAndScroll.atOnce, 4), (herbAndScroll.atOnce, 5)] := by
    unfold callsOfTwo
    rw [listOfTwo_eq]
    rfl
  refine ⟨⟨?_, ?_⟩, ?_⟩
  · rw [hcalls]
    exact (formIds_summarize hreads).symm
  · rw [hcalls]
    decide +kernel
  · exact disciplinePointGain_summarize hreads (by decide +kernel) (by decide) .Utility

/-- A score that is full does not rise; under new settings the sword is its own key; and
100 times the points of an ingredient and a scroll are not exactly 28, in doubles. -/
theorem not_predicted_gain :
    (¬ ∀ state calls, AllRegistered kinds summaryOfSword.formIds state calls →
      KeepsKeys oneSword calls →
        RaisesExactly summaryOfSword state (registerBatch kinds state calls).1) ∧
    (¬ ∀ calls, AllRegistered kinds summaryOfSword.formIds {} calls →
      RaisesExactly summaryOfSword {} (registerBatch kinds {} calls).1) ∧
    (AllRegistered kinds summaryOfTwo.formIds {} callsOfTwo ∧
      ((registerBatch kinds {} callsOfTwo).1.pointsCenti .Utility).toNat ≠
        nearestDouble (summaryOfTwo.disciplinePointGain.of .Utility * 100)) := by
  obtain ⟨hgain, hpoints⟩ := gains_summaryOfSword
  refine ⟨?_, ?_, ?_⟩
  · intro h
    have hall : AllRegistered kinds summaryOfSword.formIds { attackScore := 0xFFFFFFFF }
        [(oneSword.atOnce, 2)] := ⟨formIds_summaryOfSword.symm, by decide⟩
    have hkeys : KeepsKeys oneSword [(oneSword.atOnce, 2)] := by
      intro call hcall
      rw [List.mem_singleton.mp hcall]
      exact getRegisterKey_atOnce
    obtain ⟨hscore, -⟩ := h _ _ hall hkeys .Attack
    have hfull : ((registerBatch kinds { attackScore := 0xFFFFFFFF }
        [(oneSword.atOnce, 2)]).1.score .Attack).toNat = 0xFFFFFFFF := by decide
    have hbefore : (({ attackScore := 0xFFFFFFFF } : RuntimeState Float32).score .Attack).toNat =
        0xFFFFFFFF := rfl
    rw [hgain, hfull, hbefore, sub_self] at hscore
    exact zero_ne_one hscore
  · intro h
    have hall : AllRegistered kinds summaryOfSword.formIds {} [(newSettings.atOnce, 2)] :=
      ⟨formIds_summaryOfSword.symm, by decide⟩
    obtain ⟨-, hcenti⟩ := h _ hall .Attack
    have hseventy : ((registerBatch kinds {} [(newSettings.atOnce, 2)]).1.pointsCenti
        .Attack).toNat = 70 := by decide
    have hbefore : (({} : RuntimeState Float32).pointsCenti .Attack).toNat = 0 := rfl
    rw [hpoints, hseventy, hbefore] at hcenti
    norm_num at hcenti
  · obtain ⟨hall, hgain⟩ := gain_summaryOfTwo
    have hpoints28 : ((registerBatch kinds {} callsOfTwo).1.pointsCenti .Utility).toNat = 28 := by
      unfold callsOfTwo
      rw [listOfTwo_eq]
      decide +kernel
    refine ⟨hall, ?_⟩
    rw [hpoints28, hgain]
    decide +kernel

/-- The sword alone, registered at the page's settings. -/
theorem predicted_gain_sword :
    Raises summaryOfSword {} (registerBatch kinds {} [(oneSword.atOnce, 2)]).1 :=
  (predicted_gain plainLibrary (.array [.number 2]) .undefined kinds oneSword oneSword
    (snapshotQuickList (F := Float32) {}) 0 200 0 200).raises {} [(oneSword.atOnce, 2)]
    ⟨formIds_summaryOfSword.symm, by decide⟩ fun call hcall => by
      rw [List.mem_singleton.mp hcall]
      exact getRegisterKey_atOnce

end Sword

end RegisterBatchPanel

end CodexOfPower
