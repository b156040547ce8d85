import SnapshotParser.Vsr.Cliffs
import SnapshotParser.Vsr.DepositEntry
import Mathlib.Algebra.BigOperators.Intervals
import Mathlib.Algebra.BigOperators.Ring
import Mathlib.Algebra.Order.BigOperators.Group.Finset

namespace SnapshotParser.Vsr

open Finset

/-! # Linear vesting

`voting_power_linear_vesting` treats a `Daily` or `Monthly` lockup of `T` periods as `T`
vesting cliffs, each worth `max_locked_vote_weight / T` and each decaying on its own
towards the saturation cap.  Its comment derives the closed form it computes from the
per-cliff sum `lockupSecsPerCliff`; this module proves the two agree, and bounds the
result by the maximum.
-/

namespace Lockup

/-- The seconds left to each vesting cliff ahead of `currTs`, capped at `sat`, summed. -/
def lockupSecsPerCliff (l : Lockup) (T : Nat) (currTs : Int) (sat : Nat) : Nat :=
  ∑ k ∈ l.futureCliffs T currTs, min (l.cliffTs k - currTs).toNat sat

section Vesting

variable {l : Lockup} (vesting : l.kind.isVesting) {T : Nat} (total : l.periodsTotal = .ok T)
include vesting total

theorem periodsLeft_ok_or_panic (currTs : Int) :
    l.periodsLeft currTs = .error .panic ∨ ∃ N, l.periodsLeft currTs = .ok N := by
  have positive := LockupKind.periodSecs_pos_of_isVesting vesting
  by_cases before : currTs < l.startTs.val
  · exact .inr ⟨T, (periodsLeft_of_lt_start l positive before).trans total⟩
  · rw [periodsLeft_of_start_le l positive (by omega)]
    split
    · exact .inr ⟨_, rfl⟩
    · exact .inl rfl

theorem lockupSecsPerCliff_eq_sum {N : Nat} (currTs : I64)
    (left : l.periodsLeft currTs.val = .ok N) (ahead : 1 ≤ N) (sat : Nat) :
    l.lockupSecsPerCliff T currTs.val sat =
      ∑ p ∈ range N,
        min (l.secondsLeft currTs.val - l.kind.periodSecs * (N - 1) + p * l.kind.periodSecs) sat := by
  obtain ⟨atMost, cliffs⟩ := futureCliffs_eq_Icc vesting total currTs left
  have closest := secsToClosestCliff_eq vesting total currTs left ahead
  have count : T.succ - (T + 1 - N) = N := by omega
  rw [lockupSecsPerCliff, cliffs, ← Nat.Ico_succ_right, sum_Ico_eq_sum_range, count]
  refine sum_congr rfl fun p _ => ?_
  simp only [cliffTs, Nat.cast_add, Int.add_mul] at closest ⊢
  congr 1
  omega

end Vesting

end Lockup

namespace DepositEntry

/-- The closed form is the per-cliff sum: the `p`-th cliff ahead is `c + p * P` seconds
away, the first `q` of them below `sat` and the rest capped.  The floor in `q` counts a
cliff exactly `sat` away among the first `q`, where capping it changes nothing. -/
theorem lockupSecsClosedForm_eq_sum {c P sat N : Nat} (positive : 0 < P) (unsaturated : c < sat) :
    lockupSecsClosedForm c P sat N = ∑ p ∈ range N, min (c + p * P) sat := by
  have below : ∀ p, p < (sat - c + P) / P → c + p * P ≤ sat := fun p within => by
    have := (Nat.le_div_iff_mul_le positive).mp within
    rw [Nat.succ_mul] at this
    omega
  have above : ∀ p, (sat - c + P) / P ≤ p → sat < c + p * P := fun p beyond => by
    have := Nat.lt_div_mul_add (a := sat - c + P) positive
    have := Nat.mul_le_mul_right P beyond
    omega
  have split := sum_range_add_sum_Ico (fun p => min (c + p * P) sat)
    (min_le_right ((sat - c + P) / P) N)
  have first : ∑ p ∈ range (min ((sat - c + P) / P) N), min (c + p * P) sat =
      min ((sat - c + P) / P) N * c + min ((sat - c + P) / P) N *
        (min ((sat - c + P) / P) N - 1) / 2 * P := by
    rw [sum_congr rfl fun p member => min_eq_left (below p (by simp at member; omega)),
      sum_add_distrib, sum_const, card_range, smul_eq_mul, ← sum_mul, sum_range_id]
  have rest : ∑ p ∈ Ico (min ((sat - c + P) / P) N) N, min (c + p * P) sat =
      (N - min ((sat - c + P) / P) N) * sat := by
    rw [sum_congr rfl fun p member => min_eq_right (Nat.le_of_lt (above p (by
      simp only [mem_Ico] at member; omega))), sum_const, Nat.card_Ico, smul_eq_mul]
  rw [← split, first, rest]
  rfl

theorem lockupSecsClosedForm_le {c P sat N : Nat} (positive : 0 < P) (unsaturated : c < sat) :
    lockupSecsClosedForm c P sat N ≤ N * sat := by
  rw [lockupSecsClosedForm_eq_sum positive unsaturated]
  simpa using sum_le_card_nsmul (range N) _ sat fun p _ => min_le_right (c + p * P) sat

theorem mul_div_le_of_le {M L D : Nat} (share : L ≤ D) : M * L / D ≤ M :=
  Nat.div_le_of_le_mul (by rw [Nat.mul_comm D]; exact Nat.mul_le_mul_left M share)

theorem votingPowerLinearVesting_of_unsaturated_cliff (self : DepositEntry)
    (vesting : self.lockup.kind.isVesting) {T N : Nat} (total : self.lockup.periodsTotal = .ok T)
    (currTs : I64) (left : self.lockup.periodsLeft currTs.val = .ok N) (ahead : 1 ≤ N)
    (M sat : U64)
    (unsaturated :
      self.lockup.secondsLeft currTs.val - self.lockup.kind.periodSecs * (N - 1) < sat.val) :
    OkUnlessPanic (self.votingPowerLinearVesting currTs.val M.val sat.val)
      (M.val * self.lockup.lockupSecsPerCliff T currTs.val sat.val / (T * sat.val)) := by
  have positive := LockupKind.periodSecs_pos_of_isVesting vesting
  have atMost := (Lockup.futureCliffs_eq_Icc vesting total currTs left).1
  have bounded := (lockupSecsClosedForm_le (N := N) positive unsaturated).trans
    (Nat.mul_le_mul_right sat.val atMost)
  rw [Lockup.lockupSecsPerCliff_eq_sum vesting total currTs left ahead,
    ← lockupSecsClosedForm_eq_sum positive unsaturated]
  exact votingPowerLinearVesting_of_unsaturated self left total (by omega) unsaturated
    (lt_of_le_of_lt (mul_div_le_of_le bounded) M.lt)

def twoDays : DepositEntry where
  lockup := { startTs := ⟨0, by decide⟩, endTs := ⟨172800, by decide⟩, kind := .daily }
  amountDepositedNative := ⟨0, by decide⟩
  amountInitiallyLockedNative := ⟨2000, by decide⟩
  isUsed := true
  votingMintConfigIdx := ⟨0, by decide⟩

/-- Below saturation, linear vesting is the maximum weight scaled by the per-cliff sum of
seconds left over `T * sat`, unless an intermediate product overflows and panics. -/
theorem votingPowerLinearVesting_eq_lockupSecsPerCliff (self : DepositEntry)
    (vesting : self.lockup.kind.isVesting) {T : Nat} (total : self.lockup.periodsTotal = .ok T)
    (currTs : I64) (M sat : U64)
    (near : ∃ k ∈ self.lockup.futureCliffs T currTs.val,
      self.lockup.cliffTs k - currTs.val < sat.val) :
    OkUnlessPanic (self.votingPowerLinearVesting currTs.val M.val sat.val)
      (M.val * self.lockup.lockupSecsPerCliff T currTs.val sat.val / (T * sat.val)) := by
  rcases Lockup.periodsLeft_ok_or_panic vesting total currTs.val with panics | ⟨N, left⟩
  · exact .inr (by rw [votingPowerLinearVesting, panics]; rfl)
  obtain ⟨k, member, close⟩ := near
  have count := Lockup.card_futureCliffs vesting total currTs left
  have ahead : 1 ≤ N := count ▸ Finset.card_pos.mpr ⟨k, member⟩
  have least : ((self.lockup.secondsLeft currTs.val - self.lockup.kind.periodSecs * (N - 1) :
      Nat) : Int) ≤ self.lockup.cliffTs k - currTs.val :=
    (Lockup.isLeast_secsToClosestCliff vesting total currTs left ahead).2 ⟨k, member, rfl⟩
  exact votingPowerLinearVesting_of_unsaturated_cliff self vesting total currTs left ahead M sat
    (by omega)

theorem twoDays_votingPowerLinearVesting :
    OkUnlessPanic (twoDays.votingPowerLinearVesting 86399 2000 1000)
      (2000 * twoDays.lockup.lockupSecsPerCliff 2 86399 1000 / (2 * 1000)) :=
  votingPowerLinearVesting_eq_lockupSecsPerCliff twoDays rfl rfl ⟨86399, by decide⟩
    ⟨2000, by decide⟩ ⟨1000, by decide⟩ ⟨1, by decide, by decide⟩

/-- Linear vesting never returns more than the maximum: the shortcut returns it, and
otherwise the closed form is at most `N * sat` with `N ≤ T`. -/
theorem votingPowerLinearVesting_le (self : DepositEntry) (vesting : self.lockup.kind.isVesting)
    (currTs : I64) (M sat : U64) {v : Nat}
    (result : self.votingPowerLinearVesting currTs.val M.val sat.val = .ok v) : v ≤ M.val := by
  have positive := LockupKind.periodSecs_pos_of_isVesting vesting
  obtain ⟨N, left, rest⟩ := bind_eq_ok.mp result
  obtain ⟨T, total, -⟩ := bind_eq_ok.mp rest
  by_cases none : N = 0
  · rw [votingPowerLinearVesting_of_none_left self left total none] at result
    cases result
    exact Nat.zero_le _
  by_cases saturated :
      sat.val ≤ self.lockup.secondsLeft currTs.val - self.lockup.kind.periodSecs * (N - 1)
  · exact ((votingPowerLinearVesting_of_saturated self left total none saturated).eq_of_ok
      result).le
  · have atMost := (Lockup.futureCliffs_eq_Icc vesting total currTs left).1
    have bounded := (lockupSecsClosedForm_le (N := N) positive (Nat.lt_of_not_le saturated)).trans
      (Nat.mul_le_mul_right sat.val atMost)
    rw [(votingPowerLinearVesting_of_unsaturated self left total none (Nat.lt_of_not_le saturated)
      (lt_of_le_of_lt (mul_div_le_of_le bounded) M.lt)).eq_of_ok result]
    exact mul_div_le_of_le bounded

/-- The errors of the decay laws: a lockup that is no whole number of periods, or a
weight that does not fit in `u64`. -/
def DecayError (e : Error) : Prop :=
  e = .tryFromInt ∨ ∃ a b, e = .lockupPeriodMismatch a b

theorem votingPowerLinearVesting_errors (self : DepositEntry) (currTs : Int) (M sat : Nat) :
    ErrorsSatisfy DecayError (self.votingPowerLinearVesting currTs M sat) := by
  have periods := self.lockup.periods_errors currTs
  refine (periods.2.mono fun e mismatch => .inr mismatch).bind fun N _ =>
    (periods.1.mono fun e mismatch => .inr mismatch).bind fun T _ => ?_
  simp only [unwrap_checkedMul, unwrap_checkedSub, unwrap_checkedAdd, unwrap_checkedDiv,
    okOr_tryFrom, ite_bind, ok_bind, error_bind, pure_eq_ok, errorsSatisfy_ite, errorsSatisfy_ok,
    errorsSatisfy_panic, errorsSatisfy_error, DecayError, true_or, implies_true, and_self]

theorem votingPowerCliff_le (self : DepositEntry) (currTs : Int) (M sat : Nat) {v : Nat}
    (result : self.votingPowerCliff currTs M sat = .ok v) : v ≤ M := by
  rw [votingPowerCliff_eq_of_ok self result]
  exact mul_div_le_of_le (min_le_right _ _)

theorem votingPowerCliff_errors (self : DepositEntry) (currTs : Int) (M sat : Nat) :
    ErrorsSatisfy DecayError (self.votingPowerCliff currTs M sat) := by
  simp only [votingPowerCliff, unwrap_checkedMul, unwrap_checkedDiv, okOr_tryFrom, ite_bind,
    ok_bind, error_bind, errorsSatisfy_ite, errorsSatisfy_ok, errorsSatisfy_panic,
    errorsSatisfy_error]
  simp [DecayError]

theorem votingPowerLocked_le (self : DepositEntry) (currTs : I64) (M sat : U64) {v : Nat}
    (result : self.votingPowerLocked currTs.val M.val sat.val = .ok v) : v ≤ M.val := by
  rw [votingPowerLocked_eq] at result
  split_ifs at result with idle vesting none
  · exact (Except.ok.inj result) ▸ Nat.zero_le _
  · exact votingPowerLinearVesting_le self vesting currTs M sat result
  · exact (Except.ok.inj result) ▸ Nat.zero_le _
  · exact votingPowerCliff_le self currTs.val M.val sat.val result

theorem votingPowerLocked_errors (self : DepositEntry) (currTs : Int) (M sat : Nat) :
    ErrorsSatisfy DecayError (self.votingPowerLocked currTs M sat) := by
  rw [votingPowerLocked_eq]
  split_ifs
  · exact errorsSatisfy_ok
  · exact votingPowerLinearVesting_errors self currTs M sat
  · exact errorsSatisfy_ok
  · exact votingPowerCliff_errors self currTs M sat

/-- The locked weight never exceeds its maximum, so `voting_power` never reports the
invariant violation, whatever the deposit and the mint configuration. -/
theorem votingPowerLocked_le_max (self : DepositEntry) (currTs : I64) :
    (∀ (M sat : U64) (v : Nat), self.votingPowerLocked currTs.val M.val sat.val = .ok v →
      v ≤ M.val) ∧
    ∀ (votingMintConfig : VotingMintConfig) (a b : Nat),
      self.votingPower votingMintConfig currTs.val ≠
        .error (.error (.votingPowerInvariantViolation a b)) := by
  refine ⟨fun M sat v => votingPowerLocked_le self currTs M sat, fun config a b failed => ?_⟩
  rcases bind_eq_error.mp failed with baseline | ⟨_, -, failed⟩
  · cases (config.applyFactor_digitShiftNative_result _ _).1 _ baseline
  rcases bind_eq_error.mp failed with maximum | ⟨M, maxOk, failed⟩
  · cases (config.applyFactor_digitShiftNative_result _ _).1 _ maximum
  rcases bind_eq_error.mp failed with locked | ⟨v, lockedOk, failed⟩
  · rcases votingPowerLocked_errors self _ _ _ _ locked with tooLarge | ⟨_, _, mismatch⟩
    · cases tooLarge
    · cases mismatch
  have atMost := votingPowerLocked_le self currTs
    ⟨M, (config.applyFactor_digitShiftNative_result _ _).2 M maxOk⟩ config.lockupSaturationSecs
    lockedOk
  rw [if_neg (Nat.not_lt.mpr atMost)] at failed
  cases okOr_eq_error failed

/-- With a saturation of `2 ^ 63` seconds, `periods_total * lockup_saturation_secs`
overflows `u64` at the start of `twoDays`, and the locked weight panics. -/
theorem twoDays_votingPowerLocked_panics : twoDays.votingPowerLocked 0 1 (2 ^ 63) = .error .panic :=
  rfl

def lockedOnly : VotingMintConfig where
  baselineVoteWeightScaledFactor := ⟨0, by decide⟩
  maxExtraLockupVoteWeightScaledFactor := ⟨scaledFactorBase, by decide⟩
  lockupSaturationSecs := ⟨1000, by decide⟩
  digitShift := ⟨0, by decide⟩

/-- One second before the first cliff of `twoDays` the voting power is 1001; at the cliff,
with half of it vested, the saturation shortcut returns the whole 2000, where the per-cliff
sum of the code's comment gives 1000. -/
theorem twoDays_votingPower_grows :
    twoDays.votingPower lockedOnly 86399 = .ok 1001 ∧
      twoDays.votingPower lockedOnly 86400 = .ok 2000 ∧
      2000 * twoDays.lockup.lockupSecsPerCliff 2 86400 1000 / (2 * 1000) = 1000 :=
  ⟨rfl, rfl, rfl⟩

end DepositEntry

end SnapshotParser.Vsr
