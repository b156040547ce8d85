import SnapshotParser.Vsr.Lockup
import Mathlib.Order.Interval.Finset.Nat
import Mathlib.Order.Bounds.Basic

namespace SnapshotParser.Vsr

namespace Lockup

/-! # Vesting cliffs

A `Daily` or `Monthly` lockup of `T` periods vests in `T` cliffs, the `k`-th at
`start_ts + k * period_secs`.  This module states what `periods_left` and the
`secs_to_closest_cliff` of `voting_power_linear_vesting` mean in terms of those cliffs.
-/

def cliffTs (l : Lockup) (k : Nat) : Int :=
  l.startTs.val + k * l.kind.periodSecs

/-- The cliffs among `1..T` still strictly ahead of `currTs`. -/
def futureCliffs (l : Lockup) (T : Nat) (currTs : Int) : Finset Nat :=
  (Finset.Icc 1 T).filter fun k => currTs < l.cliffTs k

theorem lt_ceil_div_iff {P m x : Nat} (positive : 0 < P) :
    m < (x + (P - 1)) / P ↔ m * P < x := by
  rw [Nat.lt_iff_add_one_le, Nat.le_div_iff_mul_le positive, Nat.succ_mul]
  omega

section Vesting

variable {l : Lockup} (vesting : l.kind.isVesting) {T : Nat} (total : l.periodsTotal = .ok T)
include vesting total

theorem length_eq_of_periodsTotal :
    (l.endTs.val - l.startTs.val).toNat = T * l.kind.periodSecs := by
  rw [← secondsLeft_of_ne_constant l (LockupKind.ne_constant_of_isVesting vesting) l.startTs]
  exact lockupSecs_eq_of_periodsTotal l (LockupKind.periodSecs_pos_of_isVesting vesting) total

theorem mem_futureCliffs_iff (currTs : Int) (k : Nat) :
    k ∈ l.futureCliffs T currTs ↔
      1 ≤ k ∧ k ≤ T ∧ (((T - k) * l.kind.periodSecs : Nat) : Int) < l.endTs.val - currTs := by
  have length := length_eq_of_periodsTotal vesting total
  have positive := LockupKind.periodSecs_pos_of_isVesting vesting
  simp only [futureCliffs, cliffTs, Finset.mem_filter, Finset.mem_Icc, and_assoc]
  constructor <;> rintro ⟨first, last, ahead⟩ <;> refine ⟨first, last, ?_⟩ <;>
  · have periods : k * l.kind.periodSecs ≤ T * l.kind.periodSecs := Nat.mul_le_mul_right _ last
    have somePeriod : l.kind.periodSecs ≤ T * l.kind.periodSecs :=
      Nat.le_mul_of_pos_left _ (by omega)
    have split := Nat.sub_mul T k l.kind.periodSecs
    omega

/-- The future cliffs are the last `N` ones, where `N` is what `periods_left` returns. -/
theorem futureCliffs_eq_Icc {N : Nat} (currTs : I64) (left : l.periodsLeft currTs.val = .ok N) :
    N ≤ T ∧ l.futureCliffs T currTs.val = Finset.Icc (T + 1 - N) T := by
  have length := length_eq_of_periodsTotal vesting total
  have positive := LockupKind.periodSecs_pos_of_isVesting vesting
  have secs := secondsLeft_of_ne_constant l (LockupKind.ne_constant_of_isVesting vesting) currTs
  have counts (m : Nat) : m < N ↔ m * l.kind.periodSecs < l.secondsLeft currTs.val ∧ m < T := by
    by_cases before : currTs.val < l.startTs.val
    · rw [periodsLeft_of_lt_start l positive before, total, Except.ok.injEq] at left
      subst left
      refine ⟨fun fewer => ⟨?_, fewer⟩, And.right⟩
      have periods := Nat.mul_le_mul_right l.kind.periodSecs fewer.le
      have somePeriod := Nat.le_mul_of_pos_left l.kind.periodSecs (Nat.zero_lt_of_lt fewer)
      omega
    · rw [periodsLeft_of_start_le l positive (by omega)] at left
      split at left
      · rw [← Except.ok.inj left, lt_ceil_div_iff positive]
        exact ⟨fun ahead => ⟨ahead, Nat.lt_of_not_le fun many =>
          absurd ((Nat.mul_le_mul_right _ many).trans_lt ahead) (by omega)⟩, And.left⟩
      · cases left
  refine ⟨Nat.le_of_not_lt fun more => lt_irrefl T ((counts T).mp more).2,
    Finset.ext fun k => ?_⟩
  rw [mem_futureCliffs_iff vesting total, Finset.mem_Icc]
  have := counts (T - k)
  omega

/-- `periods_left` succeeds for every lockup at least one period shorter than `2 ^ 64`
seconds. -/
theorem periodsLeft_ok (short : (T + 1) * l.kind.periodSecs ≤ 2 ^ 64) (currTs : I64) :
    ∃ N, l.periodsLeft currTs.val = .ok N := by
  have positive := LockupKind.periodSecs_pos_of_isVesting vesting
  by_cases before : currTs.val < l.startTs.val
  · exact ⟨T, (periodsLeft_of_lt_start l positive before).trans total⟩
  · have length := length_eq_of_periodsTotal vesting total
    have secs := secondsLeft_of_ne_constant l (LockupKind.ne_constant_of_isVesting vesting) currTs
    have fits : l.secondsLeft currTs.val + (l.kind.periodSecs - 1) < 2 ^ 64 := by
      rw [Nat.succ_mul] at short
      omega
    rw [periodsLeft_of_start_le l positive (by omega), if_pos fits]
    exact ⟨_, rfl⟩

variable {N : Nat} (currTs : I64) (left : l.periodsLeft currTs.val = .ok N)
include left

theorem card_futureCliffs : (l.futureCliffs T currTs.val).card = N := by
  obtain ⟨atMost, cliffs⟩ := futureCliffs_eq_Icc vesting total currTs left
  rw [cliffs, Nat.card_Icc]
  omega

/-- The `secs_to_closest_cliff` of `voting_power_linear_vesting` is the time to cliff
`T + 1 - N`, the first of the `N` cliffs ahead. -/
theorem secsToClosestCliff_eq (ahead : 1 ≤ N) :
    ((l.secondsLeft currTs.val - l.kind.periodSecs * (N - 1) : Nat) : Int) =
      l.cliffTs (T + 1 - N) - currTs.val := by
  obtain ⟨atMost, cliffs⟩ := futureCliffs_eq_Icc vesting total currTs left
  have first : T + 1 - N ∈ l.futureCliffs T currTs.val := by
    rw [cliffs, Finset.mem_Icc]
    omega
  obtain ⟨-, -, within⟩ := (mem_futureCliffs_iff vesting total _ _).mp first
  have length := length_eq_of_periodsTotal vesting total
  have secs := secondsLeft_of_ne_constant l (LockupKind.ne_constant_of_isVesting vesting) currTs
  have periods : (T + 1 - N) * l.kind.periodSecs + (N - 1) * l.kind.periodSecs =
      T * l.kind.periodSecs := by
    rw [← Nat.add_mul]
    congr 1
    omega
  have positive := LockupKind.periodSecs_pos_of_isVesting vesting
  have somePeriod : l.kind.periodSecs ≤ T * l.kind.periodSecs :=
    Nat.le_mul_of_pos_left _ (by omega)
  have rest : T - (T + 1 - N) = N - 1 := by omega
  rw [rest] at within
  rw [Nat.mul_comm l.kind.periodSecs]
  simp only [cliffTs]
  omega

theorem isLeast_secsToClosestCliff (ahead : 1 ≤ N) :
    IsLeast ((fun k => l.cliffTs k - currTs.val) '' ↑(l.futureCliffs T currTs.val))
      ↑(l.secondsLeft currTs.val - l.kind.periodSecs * (N - 1)) := by
  obtain ⟨atMost, cliffs⟩ := futureCliffs_eq_Icc vesting total currTs left
  rw [secsToClosestCliff_eq vesting total currTs left ahead, cliffs]
  refine ⟨⟨T + 1 - N, by simp only [Finset.coe_Icc, Set.mem_Icc]; omega, rfl⟩, ?_⟩
  rintro _ ⟨k, member, rfl⟩
  simp only [Finset.coe_Icc, Set.mem_Icc] at member
  have later := Nat.mul_le_mul_right l.kind.periodSecs member.1
  simp only [cliffTs]
  omega

theorem secsToClosestCliff_mem_Icc (ahead : 1 ≤ N) (started : l.startTs.val ≤ currTs.val) :
    1 ≤ l.secondsLeft currTs.val - l.kind.periodSecs * (N - 1) ∧
      l.secondsLeft currTs.val - l.kind.periodSecs * (N - 1) ≤ l.kind.periodSecs := by
  have closest := secsToClosestCliff_eq vesting total currTs left ahead
  obtain ⟨atMost, cliffs⟩ := futureCliffs_eq_Icc vesting total currTs left
  have first : T + 1 - N ∈ l.futureCliffs T currTs.val := by
    rw [cliffs, Finset.mem_Icc]
    omega
  have behind : l.cliffTs (T - N) ≤ currTs.val := by
    by_cases none : T - N = 0
    · simp only [cliffTs, none, Int.natCast_zero, Int.zero_mul, Int.add_zero]
      exact started
    · have outside : T - N ∉ l.futureCliffs T currTs.val := by
        rw [cliffs, Finset.mem_Icc]
        omega
      simp only [futureCliffs, Finset.mem_filter, Finset.mem_Icc, not_and, not_lt] at outside
      exact outside ⟨by omega, by omega⟩
  simp only [futureCliffs, Finset.mem_filter] at first
  have step : T + 1 - N = T - N + 1 := by omega
  simp only [cliffTs, step, Int.natCast_add, Int.natCast_one, Int.add_mul, Int.one_mul] at closest first behind
  omega

end Vesting

end Lockup

end SnapshotParser.Vsr
