import SnapshotParser.Rust
import Mathlib.Algebra.Order.Ring.Nat

namespace SnapshotParser

/-! # Validator metas

`ValidatorMetaCollection` sums its validators' stakes, and their credits weighted by
stake.  The sums are `Iterator::sum`, whose additions wrap in a release build: the `u64`
total stake modulo `2 ^ 64`, the `u128` weighted credits modulo `2 ^ 128`.  A product of
credits and stake always fits in `u128`, and as long as the stakes add up below `2 ^ 64`
so do the weighted credits: whenever the total stake is exact, so is the weighted total.
The `f64` rewards estimates are left out.
-/

structure ValidatorMeta where
  stake : U64
  credits : U64
deriving DecidableEq, Repr

structure ValidatorMetaCollection where
  validatorMetas : List ValidatorMeta
deriving DecidableEq, Repr

/-- `Iterator::sum` of `bits`-bit unsigned integers, whose additions wrap. -/
def wrappingSum (bits : Nat) (xs : List Nat) : Nat :=
  xs.foldl (fun sum x => (sum + x) % 2 ^ bits) 0

theorem foldl_wrapping (bits : Nat) (xs : List Nat) (start : Nat) :
    xs.foldl (fun sum x => (sum + x) % 2 ^ bits) (start % 2 ^ bits) =
      (start + xs.sum) % 2 ^ bits := by
  induction xs generalizing start with
  | nil => simp
  | cons x xs ih =>
    rw [List.foldl_cons, Nat.mod_add_mod, ih, List.sum_cons, Nat.add_assoc]

theorem wrappingSum_eq (bits : Nat) (xs : List Nat) :
    wrappingSum bits xs = xs.sum % 2 ^ bits := by
  have := foldl_wrapping bits xs 0
  rwa [Nat.zero_mod, Nat.zero_add] at this

namespace ValidatorMetaCollection

/-- `total_stake_weighted_credits`: the sum of `credits as u128 * stake as u128`. -/
def totalStakeWeightedCredits (self : ValidatorMetaCollection) : Nat :=
  wrappingSum 128 (self.validatorMetas.map fun v => v.credits.val * v.stake.val)

def totalStake (self : ValidatorMetaCollection) : Nat :=
  wrappingSum 64 (self.validatorMetas.map fun v => v.stake.val)

theorem sum_weighted_le (metas : List ValidatorMeta) :
    (metas.map fun v => v.credits.val * v.stake.val).sum ≤
      (2 ^ 64 - 1) * (metas.map fun v => v.stake.val).sum := by
  induction metas with
  | nil => simp
  | cons v metas ih =>
    have credits : v.credits.val ≤ 2 ^ 64 - 1 := Nat.le_pred_of_lt v.credits.lt
    simp only [List.map_cons, List.sum_cons, Nat.mul_add]
    exact Nat.add_le_add (Nat.mul_le_mul_right _ credits) ih

/-- Whenever the stakes add up below `2 ^ 64`, so that `total_stake` does not wrap,
`total_stake_weighted_credits` does not wrap either: both are the exact sums. -/
theorem totals_exact (self : ValidatorMetaCollection)
    (fits : (self.validatorMetas.map fun v => v.stake.val).sum < 2 ^ 64) :
    self.totalStake = (self.validatorMetas.map fun v => v.stake.val).sum ∧
      self.totalStakeWeightedCredits =
        (self.validatorMetas.map fun v => v.credits.val * v.stake.val).sum := by
  have weighted := calc
    (self.validatorMetas.map fun v => v.credits.val * v.stake.val).sum
      ≤ (2 ^ 64 - 1) * (self.validatorMetas.map fun v => v.stake.val).sum :=
        sum_weighted_le self.validatorMetas
    _ ≤ (2 ^ 64 - 1) * (2 ^ 64 - 1) := Nat.mul_le_mul_left _ (Nat.le_pred_of_lt fits)
    _ < 2 ^ 128 := by decide
  exact ⟨by rw [totalStake, wrappingSum_eq, Nat.mod_eq_of_lt fits],
    by rw [totalStakeWeightedCredits, wrappingSum_eq, Nat.mod_eq_of_lt weighted]⟩

def twoHalves : ValidatorMetaCollection :=
  ⟨[⟨⟨2 ^ 63 - 1, by decide⟩, ⟨2 ^ 64 - 1, by decide⟩⟩, ⟨⟨2 ^ 63, by decide⟩, ⟨2 ^ 64 - 1, by decide⟩⟩]⟩

theorem twoHalves_totals_exact :
    (twoHalves.validatorMetas.map fun v => v.stake.val).sum < 2 ^ 64 ∧
      twoHalves.totalStake = (twoHalves.validatorMetas.map fun v => v.stake.val).sum ∧
      twoHalves.totalStakeWeightedCredits =
        (twoHalves.validatorMetas.map fun v => v.credits.val * v.stake.val).sum :=
  ⟨by decide, totals_exact twoHalves (by decide)⟩

end ValidatorMetaCollection

end SnapshotParser
