import SnapshotParser.Vsr.Accounts

namespace SnapshotParser.Vsr

namespace VotingMintConfig

/-- `VotingMintConfig::digit_shift_native`: scale by `10 ^ digit_shift` in `u128`, then
narrow to `u64`. -/
def digitShiftNative (self : VotingMintConfig) (amountNative : Nat) :
    Except (Fault Error) Nat :=
  let compute : Option Nat := do
    let val ← if self.digitShift.val < 0 then
        checkedDiv amountNative (wrappingPow128 10 (castU32 (wrapSigned 8 (-self.digitShift.val))))
      else checkedMul 128 amountNative (wrappingPow128 10 (castU32 self.digitShift.val))
    tryFrom 64 val
  okOr .voterWeightOverflow compute

/-- `VotingMintConfig::apply_factor`: `base * factor / SCALED_FACTOR_BASE` in `u128`,
narrowed to `u64`. -/
def applyFactor (base factor : Nat) : Except (Fault Error) Nat :=
  let compute : Option Nat := do
    let product ← checkedMul 128 base factor
    tryFrom 64 (← checkedDiv product scaledFactorBase)
  okOr .voterWeightOverflow compute

def baselineVoteWeight (self : VotingMintConfig) (amountNative : Nat) :
    Except (Fault Error) Nat := do
  applyFactor (← self.digitShiftNative amountNative) self.baselineVoteWeightScaledFactor.val

def maxExtraLockupVoteWeight (self : VotingMintConfig) (amountNative : Nat) :
    Except (Fault Error) Nat := do
  applyFactor (← self.digitShiftNative amountNative)
    self.maxExtraLockupVoteWeightScaledFactor.val

def shiftedAmountExact (digitShift : Int) (amountNative : Nat) : Nat :=
  if digitShift < 0 then amountNative / 10 ^ (-digitShift).toNat
  else amountNative * 10 ^ digitShift.toNat

/-- The vote weight over exact integers, `⌊D * factor / 10 ^ 9⌋` for the shifted amount
`D`, and `VoterWeightOverflow` when `D` or the weight does not fit in `u64`. -/
def voteWeightExact (digitShift : Int) (factor amountNative : Nat) : Except (Fault Error) Nat :=
  let shifted := shiftedAmountExact digitShift amountNative
  if shifted < 2 ^ 64 ∧ shifted * factor / scaledFactorBase < 2 ^ 64 then
    .ok (shifted * factor / scaledFactorBase)
  else .error (.error .voterWeightOverflow)

theorem wrappingPow128_ten_eq_zero {n : Nat} (large : 128 ≤ n) : wrappingPow128 10 n = 0 := by
  apply Nat.mod_eq_zero_of_dvd
  calc 2 ^ 128 ∣ 2 ^ n := Nat.pow_dvd_pow 2 large
    _ ∣ 2 ^ n * 5 ^ n := Dvd.intro _ rfl
    _ = 10 ^ n := (Nat.mul_pow 2 5 n).symm

/-- Below `10 ^ 39` the power fits in `u128`; from there to `10 ^ 127` its wrapped value
is still at least `2 ^ 64`. -/
theorem wrappingPow128_ten {k : Nat} (atMost : k ≤ 127) :
    (k ≤ 38 ∧ wrappingPow128 10 k = 10 ^ k) ∨
      (39 ≤ k ∧ 2 ^ 64 ≤ wrappingPow128 10 k) := by
  have large : ∀ k, 39 ≤ k → k ≤ 127 → 2 ^ 64 ≤ 10 ^ k % 2 ^ 128 := by decide
  by_cases small : k ≤ 38
  · have fits : 10 ^ k < 2 ^ 128 :=
      lt_of_le_of_lt (Nat.pow_le_pow_right (by decide) small) (by decide)
    exact .inl ⟨small, Nat.mod_eq_of_lt fits⟩
  · exact .inr ⟨by omega, large k (by omega) atMost⟩

theorem checkedDiv_wrappingPow128 {amount k : Nat} (fits : amount < 2 ^ 64) (atMost : k ≤ 127) :
    checkedDiv amount (wrappingPow128 10 k) = some (amount / 10 ^ k) := by
  rcases wrappingPow128_ten atMost with ⟨small, power⟩ | ⟨large, power⟩
  · simp [checkedDiv, power]
  · have huge : 2 ^ 64 ≤ 10 ^ k :=
      le_trans (by decide) (Nat.pow_le_pow_right (by decide) large)
    rw [checkedDiv, if_neg (by omega), Nat.div_eq_of_lt (by omega), Nat.div_eq_of_lt (by omega)]

theorem checkedMul_wrappingPow128 {amount k : Nat} (atMost : k ≤ 127) :
    (checkedMul 128 amount (wrappingPow128 10 k) >>= tryFrom 64) =
      tryFrom 64 (amount * 10 ^ k) := by
  rw [checkedMul_bind_tryFrom]
  rcases wrappingPow128_ten atMost with ⟨-, power⟩ | ⟨large, power⟩
  · rw [power]
  · have huge : 2 ^ 64 ≤ 10 ^ k :=
      le_trans (by decide) (Nat.pow_le_pow_right (by decide) large)
    rcases Nat.eq_zero_or_pos amount with zero | positive
    · simp [zero]
    · have tooLarge : 2 ^ 64 ≤ amount * 10 ^ k := le_trans huge (Nat.le_mul_of_pos_left _ positive)
      have tooLargeWrapped : 2 ^ 64 ≤ amount * wrappingPow128 10 k :=
        le_trans power (Nat.le_mul_of_pos_left _ positive)
      simp only [tryFrom, if_neg (Nat.not_lt.mpr tooLarge), if_neg (Nat.not_lt.mpr tooLargeWrapped)]

/-- Apart from `digit_shift = -128`, shifting digits is exact, and fails exactly when the
shifted amount does not fit in `u64`. -/
theorem digitShiftNative_eq (self : VotingMintConfig) (notMin : self.digitShift.val ≠ -128)
    {amount : Nat} (fits : amount < 2 ^ 64) :
    self.digitShiftNative amount =
      okOr .voterWeightOverflow (tryFrom 64 (shiftedAmountExact self.digitShift.val amount)) := by
  have range := self.digitShift.range
  simp only [digitShiftNative, shiftedAmountExact]
  split
  · have negated : wrapSigned 8 (-self.digitShift.val) = -self.digitShift.val := by
      unfold wrapSigned; omega
    have cast : castU32 (-self.digitShift.val) = (-self.digitShift.val).toNat := by
      unfold castU32; omega
    rw [negated, cast, checkedDiv_wrappingPow128 fits (by omega)]
    rfl
  · have cast : castU32 self.digitShift.val = self.digitShift.val.toNat := by
      unfold castU32; omega
    rw [cast, checkedMul_wrappingPow128 (by omega)]

/-- With `digit_shift = -128` the negation wraps back to `-128`, which as a `u32` is
`2 ^ 32 - 128`; the power of ten wraps to zero and the division fails. -/
theorem digitShiftNative_of_min (self : VotingMintConfig) (isMin : self.digitShift.val = -128)
    (amount : Nat) : self.digitShiftNative amount = .error (.error .voterWeightOverflow) := by
  have power : wrappingPow128 10 (castU32 (wrapSigned 8 (-self.digitShift.val))) = 0 := by
    rw [isMin]
    exact wrappingPow128_ten_eq_zero (by decide)
  simp only [digitShiftNative]
  rw [if_pos (by omega), power]
  rfl

theorem applyFactor_eq {base factor : Nat} (baseFits : base < 2 ^ 64) (factorFits : factor < 2 ^ 64) :
    applyFactor base factor =
      okOr .voterWeightOverflow (tryFrom 64 (base * factor / scaledFactorBase)) := by
  simp only [applyFactor, checkedMul, if_pos (mul_lt_u128 baseFits factorFits.le)]
  rfl

theorem applyFactor_digitShiftNative_result (self : VotingMintConfig) (amount factor : Nat) :
    (∀ e, (do applyFactor (← self.digitShiftNative amount) factor) = .error e →
      e = .error .voterWeightOverflow) ∧
    ∀ w, (do applyFactor (← self.digitShiftNative amount) factor) = .ok w → w < 2 ^ 64 := by
  constructor
  · intro e failed
    rcases bind_eq_error.mp failed with shifted | ⟨_, -, applied⟩
    · exact okOr_eq_error shifted
    · exact okOr_eq_error applied
  · intro w succeeded
    obtain ⟨_, -, applied⟩ := bind_eq_ok.mp succeeded
    simp only [applyFactor, okOr_eq_ok, Option.bind_eq_bind, Option.bind_eq_some,
      tryFrom_eq_some] at applied
    obtain ⟨_, -, _, -, fits, rfl⟩ := applied
    exact fits

theorem applyFactor_digitShiftNative_eq (self : VotingMintConfig)
    (notMin : self.digitShift.val ≠ -128) (amount : U64) {factor : Nat}
    (factorFits : factor < 2 ^ 64) :
    (do applyFactor (← self.digitShiftNative amount.val) factor) =
      voteWeightExact self.digitShift.val factor amount.val := by
  rw [digitShiftNative_eq self notMin amount.lt, okOr_tryFrom]
  simp only [voteWeightExact]
  by_cases shifted : shiftedAmountExact self.digitShift.val amount.val < 2 ^ 64
  · rw [if_pos shifted, ok_bind, applyFactor_eq shifted factorFits, okOr_tryFrom]
    simp only [shifted, true_and]
  · rw [if_neg shifted, error_bind, if_neg fun both => shifted both.1]

/-- Vote-weight conversion is exact for every digit shift but `-128`. -/
theorem voteWeights_exact (self : VotingMintConfig) (notMin : self.digitShift.val ≠ -128)
    (amount : U64) :
    self.baselineVoteWeight amount.val =
        voteWeightExact self.digitShift.val self.baselineVoteWeightScaledFactor.val amount.val ∧
      self.maxExtraLockupVoteWeight amount.val =
        voteWeightExact self.digitShift.val self.maxExtraLockupVoteWeightScaledFactor.val
          amount.val :=
  ⟨applyFactor_digitShiftNative_eq self notMin amount self.baselineVoteWeightScaledFactor.lt,
    applyFactor_digitShiftNative_eq self notMin amount
      self.maxExtraLockupVoteWeightScaledFactor.lt⟩

def shiftedDown (digitShift : I8) : VotingMintConfig where
  baselineVoteWeightScaledFactor := ⟨scaledFactorBase, by decide⟩
  maxExtraLockupVoteWeightScaledFactor := ⟨scaledFactorBase, by decide⟩
  lockupSaturationSecs := ⟨1, by decide⟩
  digitShift := digitShift

theorem shiftedDown_eighteen :
    (shiftedDown ⟨-18, by decide⟩).baselineVoteWeight (5 * 10 ^ 18) = .ok 5 := by
  rw [(voteWeights_exact (shiftedDown ⟨-18, by decide⟩) (by decide) ⟨5 * 10 ^ 18, by decide⟩).1]
  rfl

/-- Shifting down by 128 digits: the exact weight of one native unit is zero, but the code
returns `VoterWeightOverflow`. -/
theorem shiftedDown_min_baselineVoteWeight :
    (shiftedDown ⟨-128, by decide⟩).baselineVoteWeight 1 = .error (.error .voterWeightOverflow) ∧
      voteWeightExact (-128) scaledFactorBase 1 = .ok 0 := by
  refine ⟨?_, rfl⟩
  rw [baselineVoteWeight, digitShiftNative_of_min _ rfl]
  rfl

end VotingMintConfig

end SnapshotParser.Vsr
