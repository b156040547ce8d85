import SnapshotParser.Vsr.Lockup
import SnapshotParser.Vsr.VotingMintConfig

namespace SnapshotParser.Vsr

namespace DepositEntry

/-- `DepositEntry::voting_power_linear_vesting`: the lockup as `periods_total` vesting
cliffs, each worth an equal share of `max_locked_vote_weight` and decaying on its own
towards the saturation cap, summed in closed form. -/
def votingPowerLinearVesting (self : DepositEntry) (currTs : Int)
    (maxLockedVoteWeight lockupSaturationSecs : Nat) : Except (Fault Error) Nat := do
  let periodsLeft ← self.lockup.periodsLeft currTs
  let periodsTotal ← self.lockup.periodsTotal
  let periodSecs := self.lockup.kind.periodSecs
  if periodsLeft = 0 then
    return 0
  else
    let secsToClosestCliff ← unwrap (checkedSub (self.lockup.secondsLeft currTs)
      (← unwrap (checkedMul 64 periodSecs (periodsLeft - 1))))
    if secsToClosestCliff ≥ lockupSaturationSecs then
      return maxLockedVoteWeight
    else
      let denominator ← unwrap (checkedMul 64 periodsTotal lockupSaturationSecs)
      let lockupSaturationPeriods ← unwrap (checkedDiv
        (← unwrap (checkedAdd 64 (lockupSaturationSecs - secsToClosestCliff) periodSecs))
        periodSecs)
      let q := min lockupSaturationPeriods periodsLeft
      let r := periodsLeft - q
      let sumFullPeriods := (← unwrap (checkedMul 64 q (q - 1))) / 2
      let lockupSecsFractional ← unwrap (checkedMul 64 q secsToClosestCliff)
      let lockupSecsFull ← unwrap (checkedMul 64 sumFullPeriods periodSecs)
      let lockupSecsSaturated ← unwrap (checkedMul 64 r lockupSaturationSecs)
      let lockupSecs := lockupSecsFractional + lockupSecsFull + lockupSecsSaturated
      okOr .tryFromInt (tryFrom 64 (← unwrap (checkedDiv
        (← unwrap (checkedMul 128 maxLockedVoteWeight lockupSecs)) denominator)))

/-- `DepositEntry::voting_power_cliff`: the weight scaled by the seconds left, capped at
saturation. -/
def votingPowerCliff (self : DepositEntry) (currTs : Int)
    (maxLockedVoteWeight lockupSaturationSecs : Nat) : Except (Fault Error) Nat := do
  let remaining := min (self.lockup.secondsLeft currTs) lockupSaturationSecs
  okOr .tryFromInt (tryFrom 64 (← unwrap (checkedDiv
    (← unwrap (checkedMul 128 maxLockedVoteWeight remaining)) lockupSaturationSecs)))

def votingPowerLocked (self : DepositEntry) (currTs : Int)
    (maxLockedVoteWeight lockupSaturationSecs : Nat) : Except (Fault Error) Nat :=
  if self.lockup.expired currTs || maxLockedVoteWeight == 0 then .ok 0
  else
    match self.lockup.kind with
    | .none => .ok 0
    | .daily => self.votingPowerLinearVesting currTs maxLockedVoteWeight lockupSaturationSecs
    | .monthly => self.votingPowerLinearVesting currTs maxLockedVoteWeight lockupSaturationSecs
    | .cliff => self.votingPowerCliff currTs maxLockedVoteWeight lockupSaturationSecs
    | .constant => self.votingPowerCliff currTs maxLockedVoteWeight lockupSaturationSecs

/-- `DepositEntry::voting_power`: the baseline weight of the deposited amount plus the
locked weight, which must not exceed its maximum. -/
def votingPower (self : DepositEntry) (votingMintConfig : VotingMintConfig) (currTs : Int) :
    Except (Fault Error) Nat := do
  let baselineVoteWeight ← votingMintConfig.baselineVoteWeight self.amountDepositedNative.val
  let maxLockedVoteWeight ←
    votingMintConfig.maxExtraLockupVoteWeight self.amountInitiallyLockedNative.val
  let lockedVoteWeight ← self.votingPowerLocked currTs maxLockedVoteWeight
    votingMintConfig.lockupSaturationSecs.val
  if maxLockedVoteWeight < lockedVoteWeight then
    throw (.error (.votingPowerInvariantViolation maxLockedVoteWeight lockedVoteWeight))
  else
    okOr .voterWeightOverflow (checkedAdd 64 baselineVoteWeight lockedVoteWeight)

/-- The closed form of `voting_power_linear_vesting` for `N` cliffs ahead, the nearest
`c` seconds away: the first `q` cliffs are below saturation, `c + p * P` seconds away for
`p < q`, and the other `N - q` count at saturation. -/
def lockupSecsClosedForm (c P sat N : Nat) : Nat :=
  let q := min ((sat - c + P) / P) N
  q * c + q * (q - 1) / 2 * P + (N - q) * sat

section LinearVesting

variable (self : DepositEntry) {currTs : Int} {M sat N T : Nat}
  (left : self.lockup.periodsLeft currTs = .ok N) (total : self.lockup.periodsTotal = .ok T)
include left total

theorem votingPowerLinearVesting_of_none_left (none : N = 0) :
    self.votingPowerLinearVesting currTs M sat = .ok 0 := by
  simp only [votingPowerLinearVesting, left, total, ok_bind, none, if_true, pure_eq_ok]

/-- The saturation shortcut: when the nearest cliff is at least `sat` away the whole
maximum is returned. -/
theorem votingPowerLinearVesting_of_saturated (ahead : N ≠ 0)
    (saturated : sat ≤ self.lockup.secondsLeft currTs - self.lockup.kind.periodSecs * (N - 1)) :
    OkUnlessPanic (self.votingPowerLinearVesting currTs M sat) M := by
  simp only [votingPowerLinearVesting, left, total, ok_bind, if_neg ahead, unwrap_checkedMul,
    unwrap_checkedSub, ite_bind, error_bind, okUnlessPanic_ite]
  intro _ _
  simp [saturated]

theorem votingPowerLinearVesting_of_unsaturated (ahead : N ≠ 0)
    (unsaturated : self.lockup.secondsLeft currTs - self.lockup.kind.periodSecs * (N - 1) < sat)
    (fits : M * lockupSecsClosedForm
      (self.lockup.secondsLeft currTs - self.lockup.kind.periodSecs * (N - 1))
      self.lockup.kind.periodSecs sat N / (T * sat) < 2 ^ 64) :
    OkUnlessPanic (self.votingPowerLinearVesting currTs M sat)
      (M * lockupSecsClosedForm
        (self.lockup.secondsLeft currTs - self.lockup.kind.periodSecs * (N - 1))
        self.lockup.kind.periodSecs sat N / (T * sat)) := by
  simp only [votingPowerLinearVesting, left, total, ok_bind, if_neg ahead, unwrap_checkedMul,
    unwrap_checkedSub, unwrap_checkedAdd, unwrap_checkedDiv, okOr_tryFrom, ite_bind, error_bind,
    okUnlessPanic_ite, okUnlessPanic_ite_not, ge_iff_le, Nat.not_le.mpr unsaturated, if_false]
  intros
  exact .inl (if_pos fits)

end LinearVesting

theorem votingPowerCliff_eq_of_ok (self : DepositEntry) {currTs : Int} {M sat v : Nat}
    (result : self.votingPowerCliff currTs M sat = .ok v) :
    v = M * min (self.lockup.secondsLeft currTs) sat / sat := by
  simp only [votingPowerCliff, unwrap_checkedMul, unwrap_checkedDiv, okOr_tryFrom, ite_bind,
    ok_bind, error_bind] at result
  split_ifs at result
  cases result
  rfl

theorem votingPowerLocked_eq (self : DepositEntry) (currTs : Int) (M sat : Nat) :
    self.votingPowerLocked currTs M sat =
      if self.lockup.expired currTs || M == 0 then .ok 0
      else if self.lockup.kind.isVesting then self.votingPowerLinearVesting currTs M sat
      else if self.lockup.kind = .none then .ok 0
      else self.votingPowerCliff currTs M sat := by
  unfold votingPowerLocked
  cases self.lockup.kind <;> rfl

end DepositEntry

end SnapshotParser.Vsr
