import SnapshotParser.Vsr.Vesting

namespace SnapshotParser.Vsr

open Finset

/-! # Decay over time

The per-cliff sum never grows with time.  Linear vesting follows it except where its
saturation shortcut applies after the start, returning the whole maximum where the sum
counts only the cliffs left; with a saturation longer than a period the shortcut applies
only before the start, where every cliff is saturated and the two agree.  The cliff decay
counts down with `seconds_left`.  So a deposit's voting power never grows, unless it vests
linearly with a saturation of at most one period.
-/

namespace Lockup

theorem lockupSecsPerCliff_antitone (l : Lockup) (T : Nat) {t₁ t₂ : Int} (later : t₁ ≤ t₂)
    (sat : Nat) : l.lockupSecsPerCliff T t₂ sat ≤ l.lockupSecsPerCliff T t₁ sat := by
  have fewer : l.futureCliffs T t₂ ⊆ l.futureCliffs T t₁ := fun k member => by
    simp only [futureCliffs, mem_filter] at member ⊢
    exact ⟨member.1, by omega⟩
  calc ∑ k ∈ l.futureCliffs T t₂, min (l.cliffTs k - t₂).toNat sat
      ≤ ∑ k ∈ l.futureCliffs T t₂, min (l.cliffTs k - t₁).toNat sat :=
        sum_le_sum fun k _ => min_le_min_right sat (Int.toNat_le_toNat (by omega))
    _ ≤ ∑ k ∈ l.futureCliffs T t₁, min (l.cliffTs k - t₁).toNat sat := sum_le_sum_of_subset fewer

end Lockup

namespace DepositEntry

/-- With a saturation longer than a period, linear vesting is the per-cliff sum whenever it
returns: its shortcut then only applies before the start, where all `T` cliffs are at least
`sat` away. -/
theorem votingPowerLinearVesting_eq_of_ok (self : DepositEntry)
    (vesting : self.lockup.kind.isVesting) {T : Nat} (total : self.lockup.periodsTotal = .ok T)
    (currTs : I64) (M sat : U64) (long : self.lockup.kind.periodSecs < sat.val) {v : Nat}
    (result : self.votingPowerLinearVesting currTs.val M.val sat.val = .ok v) :
    v = M.val * self.lockup.lockupSecsPerCliff T currTs.val sat.val / (T * sat.val) := by
  have positive := LockupKind.periodSecs_pos_of_isVesting vesting
  obtain ⟨N, left, -⟩ := bind_eq_ok.mp result
  have count := Lockup.card_futureCliffs vesting total currTs left
  by_cases noneLeft : N = 0
  · rw [votingPowerLinearVesting_of_none_left self left total noneLeft] at result
    cases result
    have empty : self.lockup.futureCliffs T currTs.val = ∅ :=
      card_eq_zero.mp (count.trans noneLeft)
    simp [Lockup.lockupSecsPerCliff, empty]
  have ahead : 1 ≤ N := Nat.one_le_iff_ne_zero.mpr noneLeft
  by_cases saturated :
      sat.val ≤ self.lockup.secondsLeft currTs.val - self.lockup.kind.periodSecs * (N - 1)
  · have before : currTs.val < self.lockup.startTs.val := by
      by_contra started
      have := (Lockup.secsToClosestCliff_mem_Icc vesting total currTs left ahead (by omega)).2
      omega
    have all : N = T := by
      rw [Lockup.periodsLeft_of_lt_start _ positive before, total] at left
      exact (Except.ok.inj left).symm
    rw [(votingPowerLinearVesting_of_saturated self left total noneLeft saturated).eq_of_ok result,
      Lockup.lockupSecsPerCliff_eq_sum vesting total currTs left ahead,
      sum_congr rfl fun p _ => min_eq_right (by omega), sum_const, card_range, smul_eq_mul, all]
    exact (Nat.mul_div_cancel M.val (Nat.mul_pos (by omega) (by omega))).symm
  · exact (votingPowerLinearVesting_of_unsaturated_cliff self vesting total currTs left ahead M sat
      (by omega)).eq_of_ok result

theorem votingPowerLinearVesting_antitone (self : DepositEntry)
    (vesting : self.lockup.kind.isVesting) (M sat : U64)
    (long : self.lockup.kind.periodSecs < sat.val) {t₁ t₂ : I64} (later : t₁.val ≤ t₂.val)
    {v₁ v₂ : Nat} (first : self.votingPowerLinearVesting t₁.val M.val sat.val = .ok v₁)
    (second : self.votingPowerLinearVesting t₂.val M.val sat.val = .ok v₂) : v₂ ≤ v₁ := by
  obtain ⟨N, -, rest⟩ := bind_eq_ok.mp first
  obtain ⟨T, total, -⟩ := bind_eq_ok.mp rest
  rw [votingPowerLinearVesting_eq_of_ok self vesting total t₁ M sat long first,
    votingPowerLinearVesting_eq_of_ok self vesting total t₂ M sat long second]
  exact Nat.div_le_div_right
    (Nat.mul_le_mul_left M.val (Lockup.lockupSecsPerCliff_antitone _ T later sat.val))

theorem votingPowerCliff_antitone (self : DepositEntry) (M sat : Nat) {t₁ t₂ : I64}
    (later : t₁.val ≤ t₂.val) {v₁ v₂ : Nat} (first : self.votingPowerCliff t₁.val M sat = .ok v₁)
    (second : self.votingPowerCliff t₂.val M sat = .ok v₂) : v₂ ≤ v₁ := by
  rw [votingPowerCliff_eq_of_ok self first, votingPowerCliff_eq_of_ok self second]
  exact Nat.div_le_div_right (Nat.mul_le_mul_left M
    (min_le_min_right sat (self.lockup.secondsLeft_antitone later)))

/-- The locked weight never grows with time, unless it vests linearly with a saturation of
at most one period.  An expired lockup stays expired. -/
theorem votingPowerLocked_antitone (self : DepositEntry) (M sat : U64)
    (decays : self.lockup.kind.isVesting → self.lockup.kind.periodSecs < sat.val)
    {t₁ t₂ : I64} (later : t₁.val ≤ t₂.val) {v₁ v₂ : Nat}
    (first : self.votingPowerLocked t₁.val M.val sat.val = .ok v₁)
    (second : self.votingPowerLocked t₂.val M.val sat.val = .ok v₂) : v₂ ≤ v₁ := by
  rw [votingPowerLocked_eq] at first second
  by_cases idle : (self.lockup.expired t₂.val || M.val == 0) = true
  · rw [if_pos idle] at second
    exact (Except.ok.inj second) ▸ Nat.zero_le _
  have locked : ¬ (self.lockup.expired t₁.val || M.val == 0) = true := by
    have fewer := self.lockup.secondsLeft_antitone later
    simp only [Lockup.expired, Bool.or_eq_true, beq_iff_eq, not_or] at idle ⊢
    exact ⟨fun zero => idle.1 (by omega), idle.2⟩
  rw [if_neg idle] at second
  rw [if_neg locked] at first
  split_ifs at first second with vesting none
  · exact votingPowerLinearVesting_antitone self vesting M sat (decays vesting) later first second
  · exact (Except.ok.inj second) ▸ Nat.zero_le _
  · exact votingPowerCliff_antitone self M.val sat.val later first second

/-- Once a lockup has expired it stays expired, whatever its kind, and its locked weight
is zero from then on. -/
theorem votingPowerLocked_of_expired (self : DepositEntry) (t₁ t₂ : I64)
    (expired : self.lockup.expired t₁.val) (later : t₁.val ≤ t₂.val) (M sat : Nat) :
    self.lockup.expired t₂.val ∧ self.votingPowerLocked t₂.val M sat = .ok 0 := by
  have still : self.lockup.expired t₂.val := by
    have fewer := self.lockup.secondsLeft_antitone later
    simp only [Lockup.expired, beq_iff_eq] at expired ⊢
    omega
  exact ⟨still, by rw [votingPowerLocked_eq, if_pos (by simp [still])]⟩

theorem twoDays_votingPowerLocked_expired :
    twoDays.lockup.expired 172800 ∧ (172800 : Int) ≤ 200000 ∧
      twoDays.lockup.expired 200000 ∧ twoDays.votingPowerLocked 200000 2000 1000 = .ok 0 :=
  ⟨rfl, by decide, votingPowerLocked_of_expired twoDays ⟨172800, by decide⟩ ⟨200000, by decide⟩
    rfl (by decide) 2000 1000⟩

theorem votingPower_eq_of_ok (self : DepositEntry) (votingMintConfig : VotingMintConfig)
    {currTs : Int} {v : Nat} (result : self.votingPower votingMintConfig currTs = .ok v) :
    ∃ baseline M locked,
      votingMintConfig.baselineVoteWeight self.amountDepositedNative.val = .ok baseline ∧
      votingMintConfig.maxExtraLockupVoteWeight self.amountInitiallyLockedNative.val = .ok M ∧
      self.votingPowerLocked currTs M votingMintConfig.lockupSaturationSecs.val = .ok locked ∧
      v = baseline + locked := by
  obtain ⟨baseline, baselineOk, rest⟩ := bind_eq_ok.mp result
  obtain ⟨M, maxOk, rest⟩ := bind_eq_ok.mp rest
  obtain ⟨locked, lockedOk, added⟩ := bind_eq_ok.mp rest
  refine ⟨baseline, M, locked, baselineOk, maxOk, lockedOk, ?_⟩
  split at added
  · cases added
  · simp only [okOr_eq_ok, checkedAdd] at added
    split at added <;> simp_all

/-- A deposit's voting power never grows with time, unless it vests linearly with a
saturation of at most one period. -/
theorem votingPower_antitone (self : DepositEntry) (votingMintConfig : VotingMintConfig)
    (decays : self.lockup.kind.isVesting →
      self.lockup.kind.periodSecs < votingMintConfig.lockupSaturationSecs.val)
    (t₁ t₂ : I64) (later : t₁.val ≤ t₂.val) {v₁ v₂ : Nat}
    (first : self.votingPower votingMintConfig t₁.val = .ok v₁)
    (second : self.votingPower votingMintConfig t₂.val = .ok v₂) : v₂ ≤ v₁ := by
  obtain ⟨baseline, M, locked₁, baselineOk, maxOk, lockedOk₁, rfl⟩ :=
    votingPower_eq_of_ok self votingMintConfig first
  obtain ⟨baseline', M', locked₂, baselineOk', maxOk', lockedOk₂, rfl⟩ :=
    votingPower_eq_of_ok self votingMintConfig second
  rw [baselineOk, Except.ok.injEq] at baselineOk'
  rw [maxOk, Except.ok.injEq] at maxOk'
  subst baselineOk' maxOk'
  have fits := (votingMintConfig.applyFactor_digitShiftNative_result _ _).2 M maxOk
  have lockedLe := votingPowerLocked_antitone self ⟨M, fits⟩ votingMintConfig.lockupSaturationSecs
    decays later lockedOk₁ lockedOk₂
  omega

def slowSaturation : VotingMintConfig where
  baselineVoteWeightScaledFactor := ⟨0, by decide⟩
  maxExtraLockupVoteWeightScaledFactor := ⟨scaledFactorBase, by decide⟩
  lockupSaturationSecs := ⟨100000, by decide⟩
  digitShift := ⟨0, by decide⟩

example : twoDays.votingPower slowSaturation 86399 = .ok 864 ∧
    twoDays.votingPower slowSaturation 100000 = .ok 728 :=
  ⟨rfl, rfl⟩

end DepositEntry

end SnapshotParser.Vsr
