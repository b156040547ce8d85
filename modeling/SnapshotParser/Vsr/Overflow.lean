import SnapshotParser.Vsr.Vesting

namespace SnapshotParser.Vsr

/-! # Bounds that keep the decay from panicking

`voting_power_linear_vesting` unwraps its checked arithmetic, so it panics wherever an
intermediate leaves `u64`.  It does not once the lockup is at least a period shorter than
`2 ^ 64` seconds and both `periods_total * lockup_saturation_secs` and
`lockup_saturation_secs + period_secs` fit in `u64`: the per-cliff terms are then bounded
by `periods_total * lockup_saturation_secs`, and so is the triangle `q * (q - 1)`.  The
cliff decay needs only a positive saturation, and the vote weights never panic.
-/

namespace Lockup

theorem periods_lt_secondsLeft {l : Lockup} (vesting : l.kind.isVesting) {T N : Nat}
    (total : l.periodsTotal = .ok T) (currTs : I64) (left : l.periodsLeft currTs.val = .ok N)
    (ahead : 1 ≤ N) : l.kind.periodSecs * (N - 1) < l.secondsLeft currTs.val := by
  obtain ⟨k, member, closest⟩ := (isLeast_secsToClosestCliff vesting total currTs left ahead).1
  simp only [Finset.mem_coe, futureCliffs, Finset.mem_filter] at member
  dsimp only at closest
  omega

end Lockup

namespace DepositEntry

/-- The cliffs inside the saturation window, `q` of at most `T`, are fewer than
`sat / P + 1`, so their triangle `q * (q - 1)` stays below `T * sat`. -/
theorem triangle_lt {q T P c sat : Nat} (positive : 0 < P) (fewer : q ≤ T)
    (within : q * P ≤ sat - c + P) (denominator : T * sat < 2 ^ 64) : q * (q - 1) < 2 ^ 64 := by
  have wide := Nat.mul_le_mul_right (q - 1) fewer
  have spread := Nat.mul_le_mul_left T (Nat.le_mul_of_pos_right (q - 1) positive)
  have split := Nat.sub_mul q 1 P
  have capped := Nat.mul_le_mul_left T (show (q - 1) * P ≤ sat by omega)
  omega

/-- Linear vesting never panics once the lockup is at least a period shorter than `2 ^ 64`
seconds, and `periods_total * lockup_saturation_secs` and
`lockup_saturation_secs + period_secs` fit in `u64`. -/
theorem votingPowerLinearVesting_noPanic (self : DepositEntry)
    (vesting : self.lockup.kind.isVesting) {T : Nat} (total : self.lockup.periodsTotal = .ok T)
    (currTs : I64) (M sat : U64) (short : (T + 1) * self.lockup.kind.periodSecs ≤ 2 ^ 64)
    (denominator : T * sat.val < 2 ^ 64) (window : sat.val + self.lockup.kind.periodSecs ≤ 2 ^ 64) :
    NoPanic (self.votingPowerLinearVesting currTs.val M.val sat.val) := by
  have positive := LockupKind.periodSecs_pos_of_isVesting vesting
  obtain ⟨N, left⟩ := Lockup.periodsLeft_ok vesting total short currTs
  by_cases noneLeft : N = 0
  · simp [votingPowerLinearVesting_of_none_left self left total noneLeft]
  have ahead : 1 ≤ N := Nat.one_le_iff_ne_zero.mpr noneLeft
  have atMost := (Lockup.futureCliffs_eq_Icc vesting total currTs left).1
  have nearest := Lockup.periods_lt_secondsLeft vesting total currTs left ahead
  have cliffs := nearest.trans (self.lockup.secondsLeft_lt currTs.val)
  simp only [votingPowerLinearVesting, left, total, ok_bind, if_neg noneLeft, unwrap_checkedMul,
    unwrap_checkedSub, unwrap_checkedAdd, unwrap_checkedDiv, okOr_tryFrom, ite_bind, error_bind,
    noPanic_ite, noPanic_ok, noPanic_error, noPanic_panic, pure_eq_ok, cliffs, nearest.le,
    Nat.pos_iff_ne_zero.mp positive, true_implies, implies_true, true_and, and_true, denominator]
  generalize closest :
    self.lockup.secondsLeft currTs.val - self.lockup.kind.periodSecs * (N - 1) = c at nearest
  generalize first :
    min ((sat.val - c + self.lockup.kind.periodSecs) / self.lockup.kind.periodSecs) N = q
  by_cases saturated : c ≥ sat.val
  · simp [saturated]
  have bounded := (lockupSecsClosedForm_le (N := N) positive (Nat.lt_of_not_le saturated)).trans
    (Nat.mul_le_mul_right sat.val atMost)
  simp only [lockupSecsClosedForm, first] at bounded
  have within : q * self.lockup.kind.periodSecs ≤ sat.val - c + self.lockup.kind.periodSecs :=
    (Nat.mul_le_mul_right _ (first ▸ min_le_left _ _)).trans (Nat.div_mul_le_self _ _)
  have triangle := triangle_lt positive ((first ▸ min_le_right _ _).trans atMost) within
    denominator
  have weight :
      M.val * (q * c + q * (q - 1) / 2 * self.lockup.kind.periodSecs + (N - q) * sat.val) <
        2 ^ 128 := mul_lt_u128 M.lt (by omega)
  simp only [saturated, not_false_eq_true, true_implies, triangle, weight,
    Nat.mul_ne_zero (by omega : T ≠ 0) (by omega : sat.val ≠ 0),
    show sat.val - c + self.lockup.kind.periodSecs < 2 ^ 64 by omega,
    show q * c < 2 ^ 64 by omega, show q * (q - 1) / 2 * self.lockup.kind.periodSecs < 2 ^ 64 by omega,
    show (N - q) * sat.val < 2 ^ 64 by omega, not_true_eq_false, false_implies, imp_self, and_self]

theorem votingPowerCliff_eq (self : DepositEntry) (currTs : Int) (M : U64) {sat : Nat}
    (saturates : 0 < sat) :
    self.votingPowerCliff currTs M.val sat =
      .ok (M.val * min (self.lockup.secondsLeft currTs) sat / sat) := by
  have weight : M.val * min (self.lockup.secondsLeft currTs) sat < 2 ^ 128 :=
    mul_lt_u128 M.lt ((min_le_left _ _).trans (self.lockup.secondsLeft_lt currTs).le)
  have fits : M.val * min (self.lockup.secondsLeft currTs) sat / sat < 2 ^ 64 :=
    (mul_div_le_of_le (min_le_right _ _)).trans_lt M.lt
  simp only [votingPowerCliff, unwrap_checkedMul, unwrap_checkedDiv, okOr_tryFrom, ite_bind,
    ok_bind, weight, if_true, Nat.pos_iff_ne_zero.mp saturates, if_false, fits]

theorem votingPowerCliff_noPanic (self : DepositEntry) (currTs : Int) (M : U64) {sat : Nat}
    (saturates : 0 < sat) : NoPanic (self.votingPowerCliff currTs M.val sat) := by
  rw [votingPowerCliff_eq self currTs M saturates]
  exact noPanic_ok

/-- A `Cliff` or `Constant` lockup weighs exactly the maximum scaled by the seconds left,
capped at saturation, over the saturation; with a positive saturation nothing fails, and
an expired lockup weighs nothing. -/
theorem votingPowerLocked_of_cliff (self : DepositEntry)
    (cliff : self.lockup.kind = .cliff ∨ self.lockup.kind = .constant) (currTs : Int) (M : U64)
    {sat : Nat} (saturates : 0 < sat) :
    self.votingPowerLocked currTs M.val sat =
      .ok (M.val * min (self.lockup.secondsLeft currTs) sat / sat) := by
  have notVesting : ¬ self.lockup.kind.isVesting := by
    rcases cliff with kind | kind <;> simp [kind, LockupKind.isVesting]
  have notNone : self.lockup.kind ≠ .none := by rcases cliff with kind | kind <;> simp [kind]
  rw [votingPowerLocked_eq, if_neg notVesting, if_neg notNone,
    votingPowerCliff_eq self currTs M saturates]
  split_ifs with idle
  · simp only [Lockup.expired, Bool.or_eq_true, beq_iff_eq] at idle
    rcases idle with expired | zero
    · simp [expired]
    · simp [zero]
  · rfl

def thousandSeconds : DepositEntry where
  lockup := { startTs := ⟨0, by decide⟩, endTs := ⟨1000, by decide⟩, kind := .cliff }
  amountDepositedNative := ⟨0, by decide⟩
  amountInitiallyLockedNative := ⟨1000000, by decide⟩
  isUsed := true
  votingMintConfigIdx := ⟨0, by decide⟩

theorem thousandSeconds_votingPowerLocked_half :
    (thousandSeconds.lockup.kind = .cliff ∨ thousandSeconds.lockup.kind = .constant) ∧
      (0 : Nat) < 1000 ∧ thousandSeconds.votingPowerLocked 500 1000000 1000 = .ok 500000 :=
  ⟨.inl rfl, by decide,
    (votingPowerLocked_of_cliff thousandSeconds (.inl rfl) 500 ⟨1000000, by decide⟩
      (by decide)).trans (congrArg Except.ok (by decide))⟩

theorem votingPowerLocked_noPanic (self : DepositEntry) (currTs : I64) (M sat : U64)
    (saturates : 0 < sat.val)
    (bounded : self.lockup.kind.isVesting → ∃ T, self.lockup.periodsTotal = .ok T ∧
      (T + 1) * self.lockup.kind.periodSecs ≤ 2 ^ 64 ∧ T * sat.val < 2 ^ 64 ∧
      sat.val + self.lockup.kind.periodSecs ≤ 2 ^ 64) :
    NoPanic (self.votingPowerLocked currTs.val M.val sat.val) := by
  rw [votingPowerLocked_eq]
  split_ifs with idle vesting none
  · exact noPanic_ok
  · obtain ⟨T, total, short, denominator, window⟩ := bounded vesting
    exact votingPowerLinearVesting_noPanic self vesting total currTs M sat short denominator window
  · exact noPanic_ok
  · exact votingPowerCliff_noPanic self currTs.val M saturates

/-- Within those bounds `voting_power` never panics: the vote weights and the final sum
report their overflows as `Err`. -/
theorem votingPower_noPanic (self : DepositEntry) (votingMintConfig : VotingMintConfig)
    (currTs : I64) (saturates : 0 < votingMintConfig.lockupSaturationSecs.val)
    (bounded : self.lockup.kind.isVesting → ∃ T, self.lockup.periodsTotal = .ok T ∧
      (T + 1) * self.lockup.kind.periodSecs ≤ 2 ^ 64 ∧
      T * votingMintConfig.lockupSaturationSecs.val < 2 ^ 64 ∧
      votingMintConfig.lockupSaturationSecs.val + self.lockup.kind.periodSecs ≤ 2 ^ 64) :
    NoPanic (self.votingPower votingMintConfig currTs.val) := by
  intro panicked
  rcases bind_eq_error.mp panicked with baseline | ⟨_, -, panicked⟩
  · cases (votingMintConfig.applyFactor_digitShiftNative_result _ _).1 _ baseline
  rcases bind_eq_error.mp panicked with maximum | ⟨M, maxOk, panicked⟩
  · cases (votingMintConfig.applyFactor_digitShiftNative_result _ _).1 _ maximum
  rcases bind_eq_error.mp panicked with locked | ⟨locked, -, panicked⟩
  · exact votingPowerLocked_noPanic self currTs
      ⟨M, (votingMintConfig.applyFactor_digitShiftNative_result _ _).2 M maxOk⟩
      votingMintConfig.lockupSaturationSecs saturates bounded locked
  split at panicked
  · cases panicked
  · cases okOr_eq_error panicked

theorem twoDays_votingPower_noPanic : NoPanic (twoDays.votingPower lockedOnly 0) :=
  votingPower_noPanic twoDays lockedOnly ⟨0, by decide⟩ (by decide)
    fun _ => ⟨2, rfl, by decide, by decide, by decide⟩

end DepositEntry

end SnapshotParser.Vsr
