import SnapshotParser.Rust

namespace SnapshotParser.Vsr

/-! # Voter-stake-registry accounts

The records of `accounts/vsr.rs` as the voting-power code reads them.  Fields no
modelled function reads (discriminators, bumps, mints, authorities, reserved bytes,
`allow_clawback`) are left out.
-/

inductive Error where
  /-- `anyhow!("VoterWeightOverflow")`. -/
  | voterWeightOverflow
  /-- `"assert_eq but lockup_secs {} % period_secs {} != 0"`, from `Lockup::periods_total`. -/
  | lockupPeriodMismatch (lockupSecs periodSecs : Nat)
  /-- The `TryFromIntError` that `u64::try_from(..)?` turns into an `anyhow` error. -/
  | tryFromInt
  /-- `"assert_gte but max_locked_vote_weight {} is less than locked_vote_weight {}"`,
  from `DepositEntry::voting_power`. -/
  | votingPowerInvariantViolation (maxLockedVoteWeight lockedVoteWeight : Nat)
deriving DecidableEq, Repr

/-- `SCALED_FACTOR_BASE`: vote-weight factors are in billionths. -/
def scaledFactorBase : Nat := 1000000000

def secsPerDay : Nat := 86400

def secsPerMonth : Nat := 365 * secsPerDay / 12

inductive LockupKind where
  | none
  | daily
  | monthly
  | cliff
  | constant
deriving DecidableEq, Repr

namespace LockupKind

/-- `LockupKind::period_secs`; for `Cliff` and `Constant` the value is arbitrary. -/
def periodSecs : LockupKind → Nat
  | .none => 0
  | .daily => secsPerDay
  | .monthly => secsPerMonth
  | .cliff => secsPerDay
  | .constant => secsPerDay

def isVesting : LockupKind → Bool
  | .daily | .monthly => true
  | .none | .cliff | .constant => false

theorem periodSecs_pos_of_isVesting {kind : LockupKind} (vesting : kind.isVesting) :
    0 < kind.periodSecs := by
  cases kind <;> simp_all [isVesting, periodSecs, secsPerDay, secsPerMonth]

theorem ne_constant_of_isVesting {kind : LockupKind} (vesting : kind.isVesting) :
    kind ≠ .constant := by
  cases kind <;> simp_all [isVesting]

end LockupKind

abbrev Pubkey := Unsigned 256

structure Lockup where
  startTs : I64
  endTs : I64
  kind : LockupKind
deriving DecidableEq, Repr

structure VotingMintConfig where
  baselineVoteWeightScaledFactor : U64
  maxExtraLockupVoteWeightScaledFactor : U64
  lockupSaturationSecs : U64
  digitShift : I8
deriving DecidableEq, Repr

structure DepositEntry where
  lockup : Lockup
  amountDepositedNative : U64
  amountInitiallyLockedNative : U64
  isUsed : Bool
  votingMintConfigIdx : U8
deriving DecidableEq, Repr

/-- A registrar holds exactly four voting-mint slots. -/
structure Registrar where
  votingMints : List VotingMintConfig
  votingMints_length : votingMints.length = 4

/-- A voter account holds exactly thirty-two deposit slots. -/
structure Voter where
  voterAuthority : Pubkey
  deposits : List DepositEntry
  deposits_length : deposits.length = 32

end SnapshotParser.Vsr
