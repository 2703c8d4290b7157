/-
# `CodexOfPower.RewardsResync` — what the player lacks of a reward

The plugin cannot ask the game how much of an actor value is its own reward.  It has
several readings (the current and the permanent value, above the base, and the
permanent modifier), takes the one nearest to the expected total as what is there, and
gives what is missing.  Each kind of actor value has its own rule for that.
-/
import CodexOfPower.Lib.FloatType

namespace CodexOfPower

namespace Rewards

variable {F : Type} [FloatType F]

/-- The loop of `SelectObservedRewardTotal`: the best candidate, and the difference it is
measured by, which a tie leaves as it was. -/
def selectCloser (expectedTotal : F) (best : F × F) (candidate : F) : F × F :=
  let (best, bestDiff) := best
  let diff := FloatType.abs (expectedTotal - candidate)
  if diff + 0.000001 < bestDiff then (candidate, diff)
  else if FloatType.abs (diff - bestDiff) ≤ 0.000001 ∧
      FloatType.abs candidate < FloatType.abs best then
    (candidate, bestDiff)
  else (best, bestDiff)

def selectObservedRewardTotal (expectedTotal observedFromCurrent observedFromPermanent
    observedPermanentModifier : F) : F :=
  ([observedFromPermanent, observedPermanentModifier].foldl (selectCloser expectedTotal)
    (observedFromCurrent, FloatType.abs (expectedTotal - observedFromCurrent))).1

def computeRewardSyncDelta (observedTotal expectedTotal epsilon : F) : F :=
  if FloatType.abs expectedTotal ≤ epsilon then 0.0
  else
    let missing := expectedTotal - observedTotal
    if 0.0 < expectedTotal then (if epsilon < missing then missing else 0.0)
    else if expectedTotal < 0.0 then (if missing < -epsilon then missing else 0.0)
    else 0.0

def computeRewardSyncDeltaFromSnapshot (baseValue currentValue permanentValue permanentModifier
    expectedTotal epsilon : F) : F :=
  let observedFromCurrent := currentValue - baseValue
  let observedFromPermanent := permanentValue - baseValue
  let observed := selectObservedRewardTotal expectedTotal observedFromCurrent
    observedFromPermanent permanentModifier
  computeRewardSyncDelta observed expectedTotal epsilon

/-- No persistent reading shows any of the reward: it may be in the base value already. -/
def shouldSuppressBaseStickyPositiveSync (observedFromPermanent observedPermanentModifier
    expectedTotal epsilon : F) : Bool :=
  if expectedTotal ≤ epsilon then false
  else
    FloatType.abs observedFromPermanent ≤ epsilon ∧
      FloatType.abs observedPermanentModifier ≤ epsilon

def computeBaseStickyRewardSyncDelta (baseValue currentValue permanentValue permanentModifier
    expectedTotal epsilon : F) : F :=
  let observedFromPermanent := permanentValue - baseValue
  if shouldSuppressBaseStickyPositiveSync observedFromPermanent permanentModifier expectedTotal
      epsilon then 0.0
  -- positive recovery does not look at the current value, which temporary effects change
  else if 0.0 < expectedTotal then
    let observedPersistent := selectObservedRewardTotal expectedTotal observedFromPermanent
      permanentModifier permanentModifier
    computeRewardSyncDelta observedPersistent expectedTotal epsilon
  else
    computeRewardSyncDeltaFromSnapshot baseValue currentValue permanentValue permanentModifier
      expectedTotal epsilon

def computeRewardSyncDeltaFromCurrent (baseValue currentValue expectedTotal epsilon : F) : F :=
  let observedFromCurrent := currentValue - baseValue
  computeRewardSyncDelta observedFromCurrent expectedTotal epsilon

def mergeRewardSyncDeltaCandidates (expectedTotal deltaFromCurrent deltaFromSnapshot
    epsilon : F) : F :=
  if FloatType.abs expectedTotal ≤ epsilon then 0.0
  else if 0.0 < expectedTotal then
    FloatType.max 0.0 (FloatType.max deltaFromCurrent deltaFromSnapshot)
  else FloatType.min 0.0 (FloatType.min deltaFromCurrent deltaFromSnapshot)

def computeCarryWeightSyncDelta (_baseValue _currentValue _permanentValue permanentModifier
    expectedTotal epsilon : F) : F :=
  computeRewardSyncDelta permanentModifier expectedTotal epsilon

def computeCappedRewardSyncDeltaFromSnapshot (baseValue currentValue permanentValue
    permanentModifier expectedTotal hardCapTotal epsilon : F) : F :=
  let cappedExpectedTotal := FloatType.min expectedTotal hardCapTotal
  let deltaFromCurrent := computeRewardSyncDeltaFromCurrent baseValue currentValue
    cappedExpectedTotal epsilon
  let deltaFromSnapshot := computeRewardSyncDeltaFromSnapshot baseValue currentValue
    permanentValue permanentModifier cappedExpectedTotal epsilon
  if 0.0 < cappedExpectedTotal then
    if deltaFromCurrent ≤ epsilon ∨ deltaFromSnapshot ≤ epsilon then 0.0
    else FloatType.min deltaFromCurrent deltaFromSnapshot
  else
    mergeRewardSyncDeltaCandidates cappedExpectedTotal deltaFromCurrent deltaFromSnapshot epsilon

def computeCapNormalizationDeltaFromSnapshot (baseValue currentValue permanentValue
    permanentModifier cappedExpectedTotal epsilon : F) : F :=
  let observedFromCurrent := currentValue - baseValue
  let observedFromPermanent := permanentValue - baseValue
  let observed := selectObservedRewardTotal cappedExpectedTotal observedFromCurrent
    observedFromPermanent permanentModifier
  let delta := cappedExpectedTotal - observed
  if delta < -epsilon then delta else 0.0

end Rewards

end CodexOfPower
