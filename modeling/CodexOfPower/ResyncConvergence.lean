/-
# `CodexOfPower.ResyncConvergence` — a resync gives what is missing, once

A rule takes one of several readings of the player for what is there of a reward.  Once
its delta has been given, all readings have moved by it, and the rule may take another
of them.  In exact arithmetic it finds nothing missing then: the reading it took before
is the expected total now, and whichever it takes now is as near, up to the tolerance
of the choice (`resync_converges`).

## What is not said

The arithmetic is exact, and the player takes the whole delta: an actor value that the game
itself limits is not considered.  That passes are repeated until then, and stop, is not
part of it (`CodexOfPower.SyncScheduler`).
-/
import CodexOfPower.Lib.NearestScan
import CodexOfPower.Rewards
import CodexOfPower.RewardsResync

namespace CodexOfPower

namespace Rewards

/-! ## The functions in exact arithmetic -/

section Exact

theorem selectCloser_rat (expectedTotal : ℚ) (best : ℚ × ℚ) (candidate : ℚ) :
    selectCloser expectedTotal best candidate =
      NearestScan.closer (1 / 1000000) expectedTotal best candidate := by
  have htolerance : (0.000001 : ℚ) = 1 / 1000000 := by norm_num
  rw [← htolerance]
  rfl

theorem selectObservedRewardTotal_rat (expectedTotal observedFromCurrent observedFromPermanent
    observedPermanentModifier : ℚ) :
    selectObservedRewardTotal expectedTotal observedFromCurrent observedFromPermanent
        observedPermanentModifier =
      NearestScan.nearest (1 / 1000000) expectedTotal observedFromCurrent
        [observedFromPermanent, observedPermanentModifier] := by
  have hstep : selectCloser expectedTotal = NearestScan.closer (1 / 1000000) expectedTotal :=
    funext fun best => funext fun candidate => selectCloser_rat expectedTotal best candidate
  unfold selectObservedRewardTotal
  rw [hstep]
  rfl

theorem min_rat (a b : ℚ) : FloatType.min a b = min a b := by
  unfold FloatType.min
  split_ifs with h
  · exact (min_eq_right h.le).symm
  · exact (min_eq_left (not_lt.mp h)).symm

variable {observed expected : ℚ}

/-- Either nothing, or all that is missing, in the direction of the reward. -/
theorem computeRewardSyncDelta_cases (observed expected : ℚ) :
    (computeRewardSyncDelta observed expected kRewardCapEpsilon = 0 ∧
        (expected ≤ 1 / 1000 ∨ expected - observed ≤ 1 / 1000) ∧
        (-(1 / 1000) ≤ expected ∨ -(1 / 1000) ≤ expected - observed)) ∨
      (computeRewardSyncDelta observed expected kRewardCapEpsilon = expected - observed ∧
        ((1 / 1000 < expected ∧ 1 / 1000 < expected - observed) ∨
          (expected < -(1 / 1000) ∧ expected - observed < -(1 / 1000)))) := by
  have hzero : (0.0 : ℚ) = 0 := by norm_num
  have habs : FloatType.abs expected = |expected| := rfl
  unfold computeRewardSyncDelta
  rw [kRewardCapEpsilon_rat, hzero, habs]
  dsimp only
  split_ifs with hsmall hpos hmissing hneg hmissing
  · exact .inl ⟨rfl, .inl (abs_le.mp hsmall).2, .inl (abs_le.mp hsmall).1⟩
  · rw [abs_of_pos hpos] at hsmall
    exact .inr ⟨rfl, .inl ⟨not_le.mp hsmall, hmissing⟩⟩
  · exact .inl ⟨rfl, .inr (not_lt.mp hmissing), .inl (by linarith)⟩
  · rw [abs_of_neg hneg] at hsmall
    exact .inr ⟨rfl, .inr ⟨by linarith, hmissing⟩⟩
  · exact .inl ⟨rfl, .inl (by linarith), .inr (not_lt.mp hmissing)⟩
  · exact .inl ⟨rfl, .inl (by linarith), .inl (by linarith)⟩

/-- Nothing is given where nothing is missing in the direction of the reward. -/
theorem computeRewardSyncDelta_eq_zero
    (hpos : 0 < expected → expected - observed ≤ 1 / 1000)
    (hneg : expected < 0 → -(1 / 1000) ≤ expected - observed) :
    computeRewardSyncDelta observed expected kRewardCapEpsilon = 0 := by
  rcases computeRewardSyncDelta_cases observed expected with
    ⟨heq, -⟩ | ⟨-, ⟨hexpected, hmissing⟩ | ⟨hexpected, hmissing⟩⟩
  · exact heq
  · have hle := hpos (by linarith)
    linarith
  · have hle := hneg (by linarith)
    linarith

theorem computeRewardSyncDelta_of_ne_zero
    (h : computeRewardSyncDelta observed expected kRewardCapEpsilon ≠ 0) :
    computeRewardSyncDelta observed expected kRewardCapEpsilon = expected - observed := by
  rcases computeRewardSyncDelta_cases observed expected with ⟨heq, -⟩ | ⟨heq, -⟩
  · exact absurd heq h
  · exact heq

/-- A delta of nothing or in the direction of the expected total. -/
def InDirection (expected delta : ℚ) : Prop :=
  delta = 0 ∨ (0 < expected ∧ 0 < delta) ∨ (expected < 0 ∧ delta < 0)

theorem inDirection_computeRewardSyncDelta (observed expected : ℚ) :
    InDirection expected (computeRewardSyncDelta observed expected kRewardCapEpsilon) := by
  rcases computeRewardSyncDelta_cases observed expected with
    ⟨heq, -⟩ | ⟨heq, ⟨hexpected, hmissing⟩ | ⟨hexpected, hmissing⟩⟩
  · exact .inl heq
  · rw [heq]
    exact .inr (.inl ⟨by linarith, by linarith⟩)
  · rw [heq]
    exact .inr (.inr ⟨by linarith, by linarith⟩)

end Exact

/-! ## The readings -/

@[ext] structure Readings where
  base : ℚ
  current : ℚ
  permanent : ℚ
  permanentModifier : ℚ

namespace Readings

variable {readings : Readings} {expected delta hardCapTotal : ℚ}

/-- A permanent bonus shows in all of them but the base. -/
def give (readings : Readings) (delta : ℚ) : Readings where
  base := readings.base
  current := readings.current + delta
  permanent := readings.permanent + delta
  permanentModifier := readings.permanentModifier + delta

theorem give_zero (readings : Readings) : readings.give 0 = readings :=
  Readings.ext rfl (add_zero _) (add_zero _) (add_zero _)

def carryWeightDelta (readings : Readings) (expected : ℚ) : ℚ :=
  computeCarryWeightSyncDelta readings.base readings.current readings.permanent
    readings.permanentModifier expected kRewardCapEpsilon

def baseStickyDelta (readings : Readings) (expected : ℚ) : ℚ :=
  computeBaseStickyRewardSyncDelta readings.base readings.current readings.permanent
    readings.permanentModifier expected kRewardCapEpsilon

def cappedDelta (hardCapTotal : ℚ) (readings : Readings) (expected : ℚ) : ℚ :=
  computeCappedRewardSyncDeltaFromSnapshot readings.base readings.current readings.permanent
    readings.permanentModifier expected hardCapTotal kRewardCapEpsilon

/-- The reading that is taken for what is there. -/
def observed (readings : Readings) (expected : ℚ) : ℚ :=
  selectObservedRewardTotal expected (readings.current - readings.base)
    (readings.permanent - readings.base) readings.permanentModifier

/-- The persistent reading that is taken for what is there. -/
def observedPersistent (readings : Readings) (expected : ℚ) : ℚ :=
  selectObservedRewardTotal expected (readings.permanent - readings.base)
    readings.permanentModifier readings.permanentModifier

/-! ## A reading that is exactly the expected total -/

theorem select_of_exact {first second third : ℚ}
    (h : expected ∈ [first, second, third]) :
    |expected - selectObservedRewardTotal expected first second third| ≤ 1 / 1000 ∧
      (0 ≤ expected → selectObservedRewardTotal expected first second third ≤ expected) := by
  have htolerance : (0 : ℚ) ≤ 1 / 1000000 := by norm_num
  rw [selectObservedRewardTotal_rat]
  have hnear : |expected - NearestScan.nearest (1 / 1000000) expected first [second, third]| ≤
      |expected - expected| + 2 * (1 / 1000000) := NearestScan.dist_nearest_le htolerance h
  rw [sub_self, abs_zero] at hnear
  exact ⟨by linarith, fun hexpected => NearestScan.nearest_le_of_mem htolerance hexpected h⟩

theorem select_mem (expected first second third : ℚ) :
    selectObservedRewardTotal expected first second third ∈ [first, second, third] := by
  rw [selectObservedRewardTotal_rat]
  exact NearestScan.nearest_mem (by norm_num)

/-- The reading taken is not always the nearest: a tie is decided by the magnitude, and
the distance that the next reading has to beat is then not its own. -/
theorem selectObservedRewardTotal_nearest (expected first second third : ℚ) :
    selectObservedRewardTotal expected first second third ∈ [first, second, third] ∧
      |expected - selectObservedRewardTotal expected first second third| ≤
        min |expected - first| (min |expected - second| |expected - third|) +
          2 * (1 / 1000000) := by
  refine ⟨select_mem expected first second third, ?_⟩
  have hnear : ∀ reading ∈ [first, second, third],
      |expected - selectObservedRewardTotal expected first second third| ≤
        |expected - reading| + 2 * (1 / 1000000) := by
    intro reading hreading
    rw [selectObservedRewardTotal_rat]
    exact NearestScan.dist_nearest_le (by norm_num) hreading
  have hfirst := hnear first (by simp)
  have hsecond := hnear second (by simp)
  have hthird := hnear third (by simp)
  rw [← sub_le_iff_le_add] at hfirst hsecond hthird ⊢
  exact le_min hfirst (le_min hsecond hthird)

/-- Giving what the reading taken lacks makes it exact. -/
theorem select_give {first second third : ℚ}
    (h : delta = expected - selectObservedRewardTotal expected first second third) :
    expected ∈ [first + delta, second + delta, third + delta] := by
  have hmem := List.mem_map_of_mem (f := fun reading => reading + delta)
    (select_mem expected first second third)
  have hexact : selectObservedRewardTotal expected first second third + delta = expected := by
    rw [h]
    linarith
  rw [hexact] at hmem
  exact hmem

theorem observed_give_of_mem
    (h : expected ∈ [readings.current - readings.base + delta,
      readings.permanent - readings.base + delta, readings.permanentModifier + delta]) :
    |expected - (readings.give delta).observed expected| ≤ 1 / 1000 ∧
      (0 ≤ expected → (readings.give delta).observed expected ≤ expected) := by
  rw [sub_add_eq_add_sub, sub_add_eq_add_sub] at h
  exact select_of_exact h

/-- A rule finds nothing missing where the reading taken is near. -/
theorem computeRewardSyncDelta_of_near {observed : ℚ} (h : |expected - observed| ≤ 1 / 1000) :
    computeRewardSyncDelta observed expected kRewardCapEpsilon = 0 :=
  computeRewardSyncDelta_eq_zero (fun _ => (abs_le.mp h).2) fun _ => (abs_le.mp h).1

/-! ## The carry weight -/

theorem carryWeightDelta_give (readings : Readings) (expected : ℚ) :
    (readings.give (readings.carryWeightDelta expected)).carryWeightDelta expected = 0 := by
  by_cases hnone : readings.carryWeightDelta expected = 0
  · rw [hnone, give_zero, hnone]
  have hall : readings.carryWeightDelta expected = expected - readings.permanentModifier :=
    computeRewardSyncDelta_of_ne_zero hnone
  refine computeRewardSyncDelta_of_near ?_
  show |expected - (readings.permanentModifier + _)| ≤ 1 / 1000
  rw [hall, add_sub_cancel, sub_self, abs_zero]
  norm_num

/-! ## Health, magicka and stamina -/

theorem baseStickyDelta_cases (readings : Readings) (expected : ℚ) :
    readings.baseStickyDelta expected = 0 ∨
      (0 < expected ∧ readings.baseStickyDelta expected =
        computeRewardSyncDelta (readings.observedPersistent expected) expected
          kRewardCapEpsilon) ∨
      (expected ≤ 0 ∧ readings.baseStickyDelta expected =
        computeRewardSyncDelta (readings.observed expected) expected kRewardCapEpsilon) := by
  have hzero : (0.0 : ℚ) = 0 := by norm_num
  unfold baseStickyDelta computeBaseStickyRewardSyncDelta
  rw [hzero]
  dsimp only
  split_ifs with hsuppress hpos
  · exact .inl rfl
  · exact .inr (.inl ⟨hpos, rfl⟩)
  · exact .inr (.inr ⟨not_lt.mp hpos, rfl⟩)

theorem inDirection_baseStickyDelta (readings : Readings) (expected : ℚ) :
    InDirection expected (readings.baseStickyDelta expected) := by
  rcases readings.baseStickyDelta_cases expected with heq | ⟨-, heq⟩ | ⟨-, heq⟩
  · exact .inl heq
  · rw [heq]
    exact inDirection_computeRewardSyncDelta _ _
  · rw [heq]
    exact inDirection_computeRewardSyncDelta _ _

theorem baseStickyDelta_give (readings : Readings) (expected : ℚ) :
    (readings.give (readings.baseStickyDelta expected)).baseStickyDelta expected = 0 := by
  by_cases hdelta : readings.baseStickyDelta expected = 0
  · rw [hdelta, give_zero, hdelta]
  rcases (readings.give (readings.baseStickyDelta expected)).baseStickyDelta_cases expected with
    heq | ⟨hexpected, heq⟩ | ⟨hexpected, heq⟩
  · exact heq
  · rw [heq]
    refine computeRewardSyncDelta_of_near ?_
    rcases readings.baseStickyDelta_cases expected with hnone | ⟨-, hgiven⟩ | ⟨hnot, -⟩
    · exact absurd hnone hdelta
    · have hall := computeRewardSyncDelta_of_ne_zero (hgiven.symm.trans_ne hdelta)
      have hmem := select_give (hgiven.trans hall)
      rw [sub_add_eq_add_sub] at hmem
      exact (select_of_exact hmem).1
    · exact absurd hexpected (not_lt.mpr hnot)
  · rw [heq]
    refine computeRewardSyncDelta_of_near ?_
    rcases readings.baseStickyDelta_cases expected with hnone | ⟨hnot, -⟩ | ⟨-, hgiven⟩
    · exact absurd hnone hdelta
    · exact absurd hnot (not_lt.mpr hexpected)
    · have hall := computeRewardSyncDelta_of_ne_zero (hgiven.symm.trans_ne hdelta)
      exact (observed_give_of_mem (select_give (hgiven.trans hall))).1

/-! ## Capped values -/

/-- What the two views lack, with the expected total brought under the cap. -/
def lacksCurrent (readings : Readings) (capped : ℚ) : ℚ :=
  computeRewardSyncDelta (readings.current - readings.base) capped kRewardCapEpsilon

def lacksObserved (readings : Readings) (capped : ℚ) : ℚ :=
  computeRewardSyncDelta (readings.observed capped) capped kRewardCapEpsilon

theorem cappedDelta_of_pos (readings : Readings) (h : 0 < min expected hardCapTotal) :
    readings.cappedDelta hardCapTotal expected =
      if readings.lacksCurrent (min expected hardCapTotal) ≤ 1 / 1000 ∨
          readings.lacksObserved (min expected hardCapTotal) ≤ 1 / 1000 then 0
      else min (readings.lacksCurrent (min expected hardCapTotal))
        (readings.lacksObserved (min expected hardCapTotal)) := by
  have hzero : (0.0 : ℚ) = 0 := by norm_num
  unfold cappedDelta computeCappedRewardSyncDeltaFromSnapshot
  dsimp only
  rw [min_rat, hzero, if_pos h, min_rat]
  unfold lacksCurrent lacksObserved
  rw [kRewardCapEpsilon_rat]
  rfl

theorem cappedDelta_of_nonpos (readings : Readings) (h : min expected hardCapTotal ≤ 0) :
    readings.cappedDelta hardCapTotal expected =
      min (readings.lacksCurrent (min expected hardCapTotal))
        (readings.lacksObserved (min expected hardCapTotal)) := by
  have hzero : (0.0 : ℚ) = 0 := by norm_num
  have hcapped : readings.cappedDelta hardCapTotal expected =
      mergeRewardSyncDeltaCandidates (min expected hardCapTotal)
        (readings.lacksCurrent (min expected hardCapTotal))
        (readings.lacksObserved (min expected hardCapTotal)) kRewardCapEpsilon := by
    unfold cappedDelta computeCappedRewardSyncDeltaFromSnapshot
    dsimp only
    rw [min_rat, hzero, if_neg (not_lt.mpr h)]
    rfl
  have hdirection : ∀ observed, computeRewardSyncDelta observed (min expected hardCapTotal)
      kRewardCapEpsilon ≤ 0 := by
    intro observed
    rcases inDirection_computeRewardSyncDelta observed (min expected hardCapTotal) with
      heq | ⟨hpos, -⟩ | ⟨-, hneg⟩
    · exact heq.le
    · exact absurd hpos (not_lt.mpr h)
    · exact hneg.le
  have hsmall : FloatType.abs (min expected hardCapTotal) ≤ kRewardCapEpsilon → ∀ observed,
      computeRewardSyncDelta observed (min expected hardCapTotal) kRewardCapEpsilon = 0 := by
    intro hle observed
    exact (if_pos hle).trans hzero
  rw [hcapped, mergeRewardSyncDeltaCandidates, hzero]
  split_ifs with hle hpos
  · have hcurrent : readings.lacksCurrent (min expected hardCapTotal) = 0 := hsmall hle _
    have hobserved : readings.lacksObserved (min expected hardCapTotal) = 0 := hsmall hle _
    rw [hcurrent, hobserved, min_self]
  · exact absurd hpos (not_lt.mpr h)
  · rw [min_rat, min_rat]
    exact min_eq_right ((min_le_left _ _).trans (hdirection _))

/-- The reading whose lack is given becomes exact. -/
theorem mem_of_gives {capped : ℚ}
    (h : delta = capped - (readings.current - readings.base) ∨
      delta = capped - readings.observed capped) :
    capped ∈ [readings.current - readings.base + delta,
      readings.permanent - readings.base + delta, readings.permanentModifier + delta] := by
  rcases h with h | h
  · rw [h, add_sub_cancel]
    exact List.mem_cons_self
  · exact select_give h

theorem lacksCurrent_give (readings : Readings) (capped delta : ℚ) :
    (readings.give delta).lacksCurrent capped =
      computeRewardSyncDelta (readings.current - readings.base + delta) capped
        kRewardCapEpsilon := by
  rw [sub_add_eq_add_sub]
  rfl

/-- What the capped rule gives for a positive total. -/
theorem cappedDelta_of_pos_cases (readings : Readings) (h : 0 < min expected hardCapTotal) :
    readings.cappedDelta hardCapTotal expected = 0 ∨
      (0 < readings.cappedDelta hardCapTotal expected ∧
        readings.cappedDelta hardCapTotal expected ≤
          min expected hardCapTotal - (readings.current - readings.base) ∧
        (readings.cappedDelta hardCapTotal expected =
            min expected hardCapTotal - (readings.current - readings.base) ∨
          readings.cappedDelta hardCapTotal expected =
            min expected hardCapTotal - readings.observed (min expected hardCapTotal))) := by
  rw [cappedDelta_of_pos _ h]
  split_ifs with hlacks
  · exact .inl rfl
  obtain ⟨hcurrent, hobserved⟩ := not_or.mp hlacks
  have hall : ∀ observed, ¬ computeRewardSyncDelta observed (min expected hardCapTotal)
      kRewardCapEpsilon ≤ 1 / 1000 → computeRewardSyncDelta observed
        (min expected hardCapTotal) kRewardCapEpsilon = min expected hardCapTotal - observed := by
    intro observed hlarge
    refine computeRewardSyncDelta_of_ne_zero fun hnone => hlarge ?_
    rw [hnone]
    norm_num
  have hcurrentAll : readings.lacksCurrent (min expected hardCapTotal) = _ := hall _ hcurrent
  have hobservedAll : readings.lacksObserved (min expected hardCapTotal) = _ :=
    hall _ hobserved
  refine .inr ⟨lt_min (by linarith) (by linarith), ?_, ?_⟩
  · exact (min_le_left _ _).trans hcurrentAll.le
  · rcases min_choice (readings.lacksCurrent (min expected hardCapTotal))
      (readings.lacksObserved (min expected hardCapTotal)) with heq | heq
    · exact .inl (heq.trans hcurrentAll)
    · exact .inr (heq.trans hobservedAll)

theorem cappedDelta_give_of_pos (h : 0 < min expected hardCapTotal) :
    (readings.give (readings.cappedDelta hardCapTotal expected)).cappedDelta hardCapTotal
      expected = 0 := by
  rcases readings.cappedDelta_of_pos_cases h with hnone | ⟨-, -, hgives⟩
  · rw [hnone, give_zero, hnone]
  rw [cappedDelta_of_pos _ h]
  refine if_pos (.inr ?_)
  have hnear := (observed_give_of_mem (mem_of_gives hgives)).1
  have hlacks : (readings.give (readings.cappedDelta hardCapTotal expected)).lacksObserved
      (min expected hardCapTotal) = 0 := computeRewardSyncDelta_of_near hnear
  rw [hlacks]
  norm_num

theorem cappedDelta_give_of_nonpos (h : min expected hardCapTotal ≤ 0) :
    (readings.give (readings.cappedDelta hardCapTotal expected)).cappedDelta hardCapTotal
      expected = 0 := by
  have hgiven := readings.cappedDelta_of_nonpos h
  by_cases hnone : readings.cappedDelta hardCapTotal expected = 0
  · rw [hnone, give_zero, hnone]
  have hgives : readings.cappedDelta hardCapTotal expected =
        min expected hardCapTotal - (readings.current - readings.base) ∨
      readings.cappedDelta hardCapTotal expected =
        min expected hardCapTotal - readings.observed (min expected hardCapTotal) := by
    rcases min_choice (readings.lacksCurrent (min expected hardCapTotal))
      (readings.lacksObserved (min expected hardCapTotal)) with heq | heq
    · have heq := hgiven.trans heq
      exact .inl (heq.trans (computeRewardSyncDelta_of_ne_zero (heq.symm.trans_ne hnone)))
    · have heq := hgiven.trans heq
      exact .inr (heq.trans (computeRewardSyncDelta_of_ne_zero (heq.symm.trans_ne hnone)))
  have hobserved : (readings.give (readings.cappedDelta hardCapTotal expected)).lacksObserved
      (min expected hardCapTotal) = 0 :=
    computeRewardSyncDelta_of_near (observed_give_of_mem (mem_of_gives hgives)).1
  have hcurrent : (readings.give (readings.cappedDelta hardCapTotal expected)).lacksCurrent
      (min expected hardCapTotal) = 0 := by
    -- no more is given than the current value lacks, so it lacks no more afterwards
    rw [lacksCurrent_give]
    have hle : readings.cappedDelta hardCapTotal expected ≤
        readings.lacksCurrent (min expected hardCapTotal) := by
      rw [hgiven]
      exact min_le_left _ _
    rcases computeRewardSyncDelta_cases (readings.current - readings.base +
      readings.cappedDelta hardCapTotal expected) (min expected hardCapTotal) with
      ⟨heq, -⟩ | ⟨-, ⟨hpos, -⟩ | ⟨hneg, hmissing⟩⟩
    · exact heq
    · linarith
    · rcases computeRewardSyncDelta_cases (readings.current - readings.base)
        (min expected hardCapTotal) with ⟨hzero, -, hsmall | hfew⟩ | ⟨hall, -⟩
      · linarith
      · have hzero' : readings.lacksCurrent (min expected hardCapTotal) = 0 := hzero
        linarith
      · have hall' : readings.lacksCurrent (min expected hardCapTotal) =
          min expected hardCapTotal - (readings.current - readings.base) := hall
        linarith
  rw [cappedDelta_of_nonpos _ h, hcurrent, hobserved, min_self]

theorem inDirection_cappedDelta (hcap : 0 < hardCapTotal) (readings : Readings)
    (expected : ℚ) : InDirection expected (readings.cappedDelta hardCapTotal expected) := by
  rcases lt_or_ge 0 (min expected hardCapTotal) with hpos | hnonpos
  · rcases readings.cappedDelta_of_pos_cases hpos with hnone | ⟨hgiven, -, -⟩
    · exact .inl hnone
    · exact .inr (.inl ⟨hpos.trans_le (min_le_left _ _), hgiven⟩)
  · have hexpected : min expected hardCapTotal = expected :=
      min_eq_left ((min_le_iff.mp hnonpos).elim (fun h => h.trans hcap.le)
        fun h => absurd hcap (not_lt.mpr h))
    rw [cappedDelta_of_nonpos _ hnonpos, hexpected]
    rcases min_choice (readings.lacksCurrent expected) (readings.lacksObserved expected) with
      heq | heq
    · rw [heq]
      exact inDirection_computeRewardSyncDelta _ _
    · rw [heq]
      exact inDirection_computeRewardSyncDelta _ _

end Readings

/-- Each rule finds nothing missing once its delta has been given, gives nothing or in the
direction of the expected total; and a capped value is not raised above the total. -/
theorem resync_converges (readings : Readings) (expected : ℚ) {hardCapTotal : ℚ}
    (hcap : 0 < hardCapTotal) :
    (∀ rule ∈ [Readings.carryWeightDelta, Readings.baseStickyDelta,
        Readings.cappedDelta hardCapTotal],
      rule (readings.give (rule readings expected)) expected = 0 ∧
        InDirection expected (rule readings expected)) ∧
    (0 < min expected hardCapTotal → readings.cappedDelta hardCapTotal expected ≠ 0 →
      let given := readings.give (readings.cappedDelta hardCapTotal expected)
      given.current - given.base ≤ min expected hardCapTotal ∧
        given.observed (min expected hardCapTotal) ≤ min expected hardCapTotal) := by
  constructor
  · intro rule hrule
    simp only [List.mem_cons, List.not_mem_nil, or_false] at hrule
    obtain rfl | rfl | rfl := hrule
    · exact ⟨readings.carryWeightDelta_give expected, inDirection_computeRewardSyncDelta _ _⟩
    · exact ⟨readings.baseStickyDelta_give expected, readings.inDirection_baseStickyDelta _⟩
    · refine ⟨?_, Readings.inDirection_cappedDelta hcap readings expected⟩
      rcases lt_or_ge 0 (min expected hardCapTotal) with hpos | hnonpos
      · exact Readings.cappedDelta_give_of_pos hpos
      · exact Readings.cappedDelta_give_of_nonpos hnonpos
  · intro hpos hgiven given
    rcases readings.cappedDelta_of_pos_cases hpos with
      hnone | ⟨-, hle, hgives⟩
    · exact absurd hnone hgiven
    · have hcurrent : given.current - given.base =
          readings.current - readings.base + readings.cappedDelta hardCapTotal expected :=
        (sub_add_eq_add_sub _ _ _).symm
      refine ⟨by linarith, ?_⟩
      exact (Readings.observed_give_of_mem (Readings.mem_of_gives hgives)).2 hpos.le

/-- A magic resistance 11 points above its base, of which the permanent modifier shows 4. -/
theorem resync_converges_resistMagic :
    Readings.cappedDelta 85 ⟨5, 16, 12, 4⟩ 20 = 9 ∧
      Readings.cappedDelta 85 (Readings.give ⟨5, 16, 12, 4⟩
        (Readings.cappedDelta 85 ⟨5, 16, 12, 4⟩ 20)) 20 = 0 :=
  ⟨by decide +kernel,
    ((resync_converges ⟨5, 16, 12, 4⟩ 20 (by norm_num : (0 : ℚ) < 85)).1
      (Readings.cappedDelta 85) (by simp)).1⟩

end Rewards

end CodexOfPower
