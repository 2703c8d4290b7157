/-
# `CodexOfPower.VirtualTables` — the rows a table shows

Of a long table only a window of rows is in the page, between two spacers as high as
the rows left out.  The window starts at the row on top of the viewport, less the
overscan, and its end is counted from that start after it was clamped: the overscan is
counted twice, and two rows more than fit into the viewport, so that a window that
starts at the row on top still covers the viewport (`tables_cover`).

The two tables do the same, each under its own section, with its own height of a row;
the quick table leaves a page that groups its rows alone.

Heights are exact here, and a spacer keeps the exact height beside the pixels of its style.

## What is not said

The pixels of a style are rounded; the heights that are compared are not.  Nothing is said of
a table that is shown while its rows change, and nothing of how often it is drawn.
-/
import Mathlib.Data.Rat.Floor
import Mathlib.Algebra.BigOperators.Group.List.Basic
import Mathlib.Tactic.Linarith
import Mathlib.Tactic.FieldSimp

namespace CodexOfPower.VirtualTables

/-! ## The manager of the tables -/

/-- What a table remembers: its rows, the window it shows, and what was measured; the
offset is `NaN` until then. -/
structure Virtual (Row : Type) where
  rows : List Row := []
  lastStart : Int := -1
  lastEnd : Int := -1
  tbodyTopPx : Option ℚ := none
  rowHeightPx : ℚ := 0

structure Manager where
  quickRowBasePx : ℚ := 78
  regRowBasePx : ℚ := 54
  overscan : Nat := 24
  minRows : Nat := 24

structure ScrollEl where
  scrollTop : ℚ
  clientHeight : ℚ
  /-- `getOffsetTopInRoot` of the body of the table. -/
  offsetTop : ℚ
  uiScale : ℚ

inductive Piece (Row : Type)
  | empty (colspan : Nat) (key fallback : String)
  | spacer (colspan : Nat) (height : ℚ) (stylePx : Int)
  | data (row : Row) (index : Nat)

/-- In what the two tables differ. -/
structure Table where
  colspan : Nat
  emptyKey : String
  emptyFallback : String
  baseRowPx : ℚ

section Render

variable {Row : Type}

def clamp (v lo hi : Int) : Int := max lo (min hi v)

/-- `Math.round` -/
def mathRound (x : ℚ) : Int := ⌊x + 1 / 2⌋

namespace Virtual

/-- Measured again when told to, or when there is no measure yet. -/
def measure (virtual : Virtual Row) (baseRowPx : ℚ) (force : Bool) (el : ScrollEl) :
    Virtual Row :=
  if force || virtual.tbodyTopPx.isNone || virtual.rowHeightPx ≤ 0 then
    { virtual with rowHeightPx := baseRowPx * el.uiScale, tbodyTopPx := some el.offsetTop }
  else virtual

def tbodyTop (virtual : Virtual Row) : ℚ := virtual.tbodyTopPx.getD 0

def start (virtual : Virtual Row) (overscan : Nat) (el : ScrollEl) : Int :=
  let startRaw := ⌊(el.scrollTop - virtual.tbodyTop) / virtual.rowHeightPx⌋
  clamp (startRaw - overscan) 0 (max 0 (virtual.rows.length - 1))

/-- The row after the last one of the window, counted from the clamped start. -/
def stop (virtual : Virtual Row) (overscan : Nat) (el : ScrollEl) : Int :=
  let clientHeight := if el.clientHeight = 0 then 900 else el.clientHeight
  let approxVisible := ⌈clientHeight / virtual.rowHeightPx⌉ + 2
  clamp (virtual.start overscan el + approxVisible + overscan * 2) 0 virtual.rows.length

def topPad (virtual : Virtual Row) : ℚ := virtual.lastStart * virtual.rowHeightPx

def bottomPad (virtual : Virtual Row) : ℚ :=
  (virtual.rows.length - virtual.lastEnd) * virtual.rowHeightPx

def data (virtual : Virtual Row) : List (Piece Row) :=
  ((virtual.rows.zipIdx.drop virtual.lastStart.toNat).take
    (virtual.lastEnd - virtual.lastStart).toNat).map fun row => .data row.1 row.2

def spacer (colspan : Nat) (pad : ℚ) : List (Piece Row) :=
  if 0 < pad then [.spacer colspan pad (mathRound pad)] else []

end Virtual

/-- What both tables do once they are shown; without pieces the body stays as it is. -/
def renderVirtual (manager : Manager) (table : Table) (force : Bool) (el : ScrollEl)
    (virtual : Virtual Row) : Virtual Row × Option (List (Piece Row)) :=
  let total := virtual.rows.length
  if total = 0 then
    ({ virtual with lastStart := 0, lastEnd := 0 },
      some [.empty table.colspan table.emptyKey table.emptyFallback])
  else if ¬ manager.minRows < total then
    if !force && virtual.lastStart = 0 && virtual.lastEnd = total then (virtual, none)
    else
      let virtual := { virtual with lastStart := 0, lastEnd := total, tbodyTopPx := none }
      (virtual, some virtual.data)
  else
    let virtual := virtual.measure table.baseRowPx force el
    let start := virtual.start manager.overscan el
    let stop := virtual.stop manager.overscan el
    if !force && start = virtual.lastStart && stop = virtual.lastEnd then (virtual, none)
    else
      let virtual := { virtual with lastStart := start, lastEnd := stop }
      (virtual, some (Virtual.spacer table.colspan virtual.topPad ++ virtual.data ++
        Virtual.spacer table.colspan virtual.bottomPad))

def quickTable (manager : Manager) : Table where
  colspan := 4
  emptyKey := "inv.none"
  emptyFallback := "(No items)"
  baseRowPx := manager.quickRowBasePx

def regTable (manager : Manager) : Table where
  colspan := 3
  emptyKey := "reg.none"
  emptyFallback := "(No registered items)"
  baseRowPx := manager.regRowBasePx

/-- `grouped` is the mode that a page with groups sets on the body. -/
def renderQuickVirtual (manager : Manager) (activeSectionId : String) (grouped force : Bool)
    (el : ScrollEl) (virtual : Virtual Row) : Virtual Row × Option (List (Piece Row)) :=
  if activeSectionId ≠ "tabQuick" then (virtual, none)
  else if grouped then (virtual, none)
  else renderVirtual manager (quickTable manager) force el virtual

def renderRegisteredVirtual (manager : Manager) (activeSectionId : String) (force : Bool)
    (el : ScrollEl) (virtual : Virtual Row) : Virtual Row × Option (List (Piece Row)) :=
  if activeSectionId ≠ "tabRegistered" then (virtual, none)
  else renderVirtual manager (regTable manager) force el virtual

end Render

/-! ## What a window should be -/

section Cover

variable {Row : Type}

/-- The window lies in the table, a row of which some part is in the viewport is in it, and
with the spacers it is as high as the table. -/
structure Covers (el : ScrollEl) (virtual : Virtual Row) : Prop where
  order : 0 ≤ virtual.lastStart ∧ virtual.lastStart ≤ virtual.lastEnd ∧
    virtual.lastEnd ≤ virtual.rows.length
  visible : ∀ (i : Nat) (row : Row), virtual.rows[i]? = some row →
    el.scrollTop < virtual.tbodyTop + (i + 1) * virtual.rowHeightPx →
    virtual.tbodyTop + i * virtual.rowHeightPx < el.scrollTop + el.clientHeight →
    virtual.lastStart ≤ i ∧ i < virtual.lastEnd ∧ .data row i ∈ virtual.data
  height : virtual.topPad + (virtual.lastEnd - virtual.lastStart) * virtual.rowHeightPx +
    virtual.bottomPad = virtual.rows.length * virtual.rowHeightPx

/-- The window covers the viewport, and a body that is replaced shows it. -/
def Shows (el : ScrollEl) (table : Table)
    (rendered : Virtual Row × Option (List (Piece Row))) : Prop :=
  Covers el rendered.1 ∧ ∀ pieces, rendered.2 = some pieces →
    pieces = Virtual.spacer table.colspan rendered.1.topPad ++ rendered.1.data ++
      Virtual.spacer table.colspan rendered.1.bottomPad

/-! ## The window -/

namespace Virtual

variable {virtual : Virtual Row} {overscan : Nat} {el : ScrollEl}

theorem start_le_stop (hrows : 0 < virtual.rows.length) (hheight : 0 < virtual.rowHeightPx)
    (hview : 0 < el.clientHeight) :
    0 ≤ virtual.start overscan el ∧ virtual.start overscan el ≤ virtual.stop overscan el ∧
      virtual.stop overscan el ≤ virtual.rows.length := by
  have hceil : 0 ≤ ⌈el.clientHeight / virtual.rowHeightPx⌉ :=
    Int.ceil_nonneg (div_pos hview hheight).le
  simp only [stop, if_neg hview.ne', start, clamp]
  omega

theorem mem_of_real_bounds {x y : ℚ} {i : Nat} (hbelow : x < i + 1) (habove : i < x + y) :
    ⌊x⌋ ≤ (i : Int) ∧ (i : Int) ≤ ⌊x⌋ + ⌈y⌉ := by
  have hfloor : (⌊x⌋ : ℚ) < i + 1 := (Int.floor_le x).trans_lt hbelow
  have hceil : (i : ℚ) < ⌊x⌋ + 1 + ⌈y⌉ :=
    habove.trans (add_lt_add_of_lt_of_le (Int.lt_floor_add_one x) (Int.le_ceil y))
  constructor
  · have hint : ⌊x⌋ < (i : Int) + 1 := by exact_mod_cast hfloor
    exact Int.le_of_lt_add_one hint
  · have hint : (i : Int) < ⌊x⌋ + 1 + ⌈y⌉ := by exact_mod_cast hceil
    omega

/-- A row in the viewport is not above the row on top, and not further below it than
the viewport is high. -/
theorem bounds_of_visible (hheight : 0 < virtual.rowHeightPx) {i : Nat}
    (hbelow : el.scrollTop < virtual.tbodyTop + (i + 1) * virtual.rowHeightPx)
    (habove : virtual.tbodyTop + i * virtual.rowHeightPx < el.scrollTop + el.clientHeight) :
    ⌊(el.scrollTop - virtual.tbodyTop) / virtual.rowHeightPx⌋ ≤ i ∧
      i ≤ ⌊(el.scrollTop - virtual.tbodyTop) / virtual.rowHeightPx⌋ +
        ⌈el.clientHeight / virtual.rowHeightPx⌉ := by
  have htop : (el.scrollTop - virtual.tbodyTop) / virtual.rowHeightPx < i + 1 := by
    rw [div_lt_iff₀ hheight]
    linarith
  have hbottom : (i : ℚ) < (el.scrollTop - virtual.tbodyTop) / virtual.rowHeightPx +
      el.clientHeight / virtual.rowHeightPx := by
    rw [← add_div, lt_div_iff₀ hheight]
    linarith
  exact mem_of_real_bounds htop hbottom

theorem mem_window_of_visible (hheight : 0 < virtual.rowHeightPx) (hview : 0 < el.clientHeight)
    {i : Nat} (hi : i < virtual.rows.length)
    (hbelow : el.scrollTop < virtual.tbodyTop + (i + 1) * virtual.rowHeightPx)
    (habove : virtual.tbodyTop + i * virtual.rowHeightPx < el.scrollTop + el.clientHeight) :
    virtual.start overscan el ≤ i ∧ i < virtual.stop overscan el := by
  obtain ⟨htop, hbottom⟩ := bounds_of_visible hheight hbelow habove
  simp only [stop, if_neg hview.ne', start, clamp]
  omega

theorem mem_data {i : Nat} {row : Row} (hrow : virtual.rows[i]? = some row)
    (hstart : virtual.lastStart ≤ i) (hend : i < virtual.lastEnd) :
    Piece.data row i ∈ virtual.data := by
  have hentry : ((virtual.rows.zipIdx.drop virtual.lastStart.toNat).take
      (virtual.lastEnd - virtual.lastStart).toNat)[i - virtual.lastStart.toNat]? =
        some (row, i) := by
    have hindex : virtual.lastStart.toNat + (i - virtual.lastStart.toNat) = i := by omega
    have hlt : i - virtual.lastStart.toNat < (virtual.lastEnd - virtual.lastStart).toNat := by
      omega
    rw [List.getElem?_take_of_lt hlt, List.getElem?_drop, hindex, List.getElem?_zipIdx, hrow,
      Option.map_some, Nat.zero_add]
  exact List.mem_map.mpr ⟨(row, i), List.mem_of_getElem? hentry, rfl⟩

theorem pads_add (virtual : Virtual Row) :
    virtual.topPad + (virtual.lastEnd - virtual.lastStart) * virtual.rowHeightPx +
      virtual.bottomPad = virtual.rows.length * virtual.rowHeightPx := by
  unfold topPad bottomPad
  ring

theorem rows_measure (virtual : Virtual Row) (baseRowPx : ℚ) (force : Bool) (el : ScrollEl) :
    (virtual.measure baseRowPx force el).rows = virtual.rows := by
  unfold measure
  split_ifs
  · rfl
  · rfl

end Virtual

/-! ## The tables -/

variable {manager : Manager} {table : Table} {force : Bool} {el : ScrollEl}
  {virtual : Virtual Row}

/-- The window of what was measured is the window that is remembered, whether or not the
body had to be replaced. -/
theorem renderVirtual_of_long (table : Table) (force : Bool) (el : ScrollEl)
    (hrows : manager.minRows < virtual.rows.length) :
    let measured := virtual.measure table.baseRowPx force el
    let windowed := { measured with
      lastStart := measured.start manager.overscan el
      lastEnd := measured.stop manager.overscan el }
    (renderVirtual manager table force el virtual).1 = windowed ∧
      ∀ pieces, (renderVirtual manager table force el virtual).2 = some pieces →
        pieces = Virtual.spacer table.colspan windowed.topPad ++ windowed.data ++
          Virtual.spacer table.colspan windowed.bottomPad := by
  have htotal : virtual.rows.length ≠ 0 := by omega
  unfold renderVirtual
  dsimp only
  rw [if_neg htotal, if_neg (not_not.mpr hrows)]
  split_ifs with hsame
  · simp only [Bool.and_eq_true, decide_eq_true_eq] at hsame
    obtain ⟨⟨-, hstart⟩, hstop⟩ := hsame
    rw [hstart, hstop]
    exact ⟨rfl, fun _ hnone => hnone.elim⟩
  · exact ⟨rfl, fun _ hpieces => (Option.some.inj hpieces).symm⟩

theorem renderVirtual_shows (hrows : manager.minRows < virtual.rows.length)
    (hheight : 0 < (renderVirtual manager table force el virtual).1.rowHeightPx)
    (hview : 0 < el.clientHeight) :
    Shows el table (renderVirtual manager table force el virtual) := by
  obtain ⟨hwindow, hpieces⟩ := renderVirtual_of_long table force el hrows
  unfold Shows
  rw [hwindow] at hheight ⊢
  have hlong : 0 < (virtual.measure table.baseRowPx force el).rows.length := by
    rw [Virtual.rows_measure]
    omega
  refine ⟨⟨Virtual.start_le_stop hlong hheight hview, ?_, Virtual.pads_add _⟩, hpieces⟩
  intro i row hrow hbelow habove
  obtain ⟨hi, -⟩ := List.getElem?_eq_some_iff.mp hrow
  obtain ⟨hstart, hend⟩ := Virtual.mem_window_of_visible hheight hview hi hbelow habove
  exact ⟨hstart, hend, Virtual.mem_data hrow hstart hend⟩

/-- Both tables cover the viewport once they are shown, wherever it is. -/
theorem tables_cover (hrows : manager.minRows < virtual.rows.length)
    (hview : 0 < el.clientHeight) :
    (0 < (renderQuickVirtual manager "tabQuick" false force el virtual).1.rowHeightPx →
        Shows el (quickTable manager)
          (renderQuickVirtual manager "tabQuick" false force el virtual)) ∧
      (0 < (renderRegisteredVirtual manager "tabRegistered" force el virtual).1.rowHeightPx →
        Shows el (regTable manager)
          (renderRegisteredVirtual manager "tabRegistered" force el virtual)) := by
  constructor
  · intro hheight
    unfold renderQuickVirtual at hheight ⊢
    rw [if_neg (not_not.mpr rfl), if_neg Bool.false_ne_true] at hheight ⊢
    exact renderVirtual_shows hrows hheight hview
  · intro hheight
    unfold renderRegisteredVirtual at hheight ⊢
    rw [if_neg (not_not.mpr rfl)] at hheight ⊢
    exact renderVirtual_shows hrows hheight hview

/-- A list of a hundred rows, scrolled some rows down. -/
theorem tables_cover_hundred :
    Shows { scrollTop := 400, clientHeight := 900, offsetTop := 40, uiScale := 1 } (quickTable {})
      (renderQuickVirtual {} "tabQuick" false true
        { scrollTop := 400, clientHeight := 900, offsetTop := 40, uiScale := 1 }
        { rows := List.replicate 100 () }) :=
  (tables_cover (by decide) (by norm_num)).1
    (by norm_num [renderQuickVirtual, renderVirtual, Virtual.measure, quickTable])

end Cover

end CodexOfPower.VirtualTables
