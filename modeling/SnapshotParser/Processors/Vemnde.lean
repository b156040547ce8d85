import SnapshotParser.Vsr.Vesting

namespace SnapshotParser.Processors.Vemnde

open Vsr

/-! # The VeMnde processor

`insert_vemnde` sums the voting power of a voter's used deposits with a `try_fold`: each
deposit's mint configuration is looked up by index, its `voting_power` computed, and the
running `u64` sum extended with `checked_add(..).unwrap()`.  `ProcessorVeMnde::process`
sends one row per voter account whose total it computed, logs an `Err` and goes on, and
stops at a panic.
-/

section Fold

variable (registrar : Registrar) (currentTs : Int)

/-- One used deposit's power: `registrar.voting_mints[idx]`, which panics out of range,
then `DepositEntry::voting_power`. -/
def depositVotingPower (d : DepositEntry) : Except (Fault Error) Nat := do
  d.votingPower (← unwrap (registrar.votingMints.get? d.votingMintConfigIdx.val)) currentTs

/-- The closure of `insert_vemnde`'s `try_fold`: `sum.checked_add(vp).unwrap()`. -/
def addVotingPower (sum : Nat) (d : DepositEntry) : Except (Fault Error) Nat := do
  let vp ← depositVotingPower registrar currentTs d
  unwrap (checkedAdd 64 sum vp)

/-- The `voting_power` of `insert_vemnde`: the used deposits, folded from zero. -/
def voterVotingPower (voter : Voter) : Except (Fault Error) Nat :=
  (voter.deposits.filter fun d => d.isUsed).foldlM (addVotingPower registrar currentTs) 0

def okPower (d : DepositEntry) : Nat :=
  match depositVotingPower registrar currentTs d with
  | .ok vp => vp
  | .error _ => 0

variable {registrar currentTs}

theorem okPower_eq {d : DepositEntry} {vp : Nat}
    (power : depositVotingPower registrar currentTs d = .ok vp) : okPower registrar currentTs d = vp := by
  simp [okPower, power]

theorem addVotingPower_eq_ok {sum next : Nat} {d : DepositEntry} :
    addVotingPower registrar currentTs sum d = .ok next ↔
      ∃ vp, depositVotingPower registrar currentTs d = .ok vp ∧ sum + vp < 2 ^ 64 ∧
        next = sum + vp := by
  simp only [addVotingPower, bind_eq_ok, unwrap_checkedAdd]
  refine exists_congr fun vp => and_congr_right fun _ => ?_
  split <;> simp_all [eq_comm]

theorem addVotingPower_eq_error {sum : Nat} {d : DepositEntry} {e : Error}
    (failed : addVotingPower registrar currentTs sum d = .error (.error e)) :
    depositVotingPower registrar currentTs d = .error (.error e) := by
  rcases bind_eq_error.mp failed with power | ⟨vp, -, overflow⟩
  · exact power
  · simp only [unwrap_checkedAdd] at overflow
    split at overflow <;> cases overflow

/-- From a `u64` sum, the fold succeeds exactly when every deposit's power does and the
whole sum fits; it then returns that sum. -/
theorem foldlM_addVotingPower_eq_ok {ds : List DepositEntry} {sum total : Nat}
    (fits : sum < 2 ^ 64) :
    ds.foldlM (addVotingPower registrar currentTs) sum = .ok total ↔
      (∀ d ∈ ds, ∃ vp, depositVotingPower registrar currentTs d = .ok vp) ∧
        total = sum + (ds.map (okPower registrar currentTs)).sum ∧ total < 2 ^ 64 := by
  induction ds generalizing sum with
  | nil =>
    simp only [List.foldlM_nil, pure_eq_ok, Except.ok.injEq, List.not_mem_nil, List.map_nil,
      List.sum_nil]
    constructor
    · rintro rfl
      exact ⟨fun _ absent => absent.elim, rfl, fits⟩
    · rintro ⟨-, rfl, -⟩
      rfl
  | cons d ds ih =>
    simp only [List.foldlM_cons, bind_eq_ok, List.mem_cons, forall_eq_or_imp, List.map_cons,
      List.sum_cons]
    constructor
    · rintro ⟨next, step, rest⟩
      obtain ⟨vp, power, fitsNext, rfl⟩ := addVotingPower_eq_ok.mp step
      obtain ⟨powers, sumRest, below⟩ := (ih fitsNext).mp rest
      rw [okPower_eq power]
      exact ⟨⟨⟨vp, power⟩, powers⟩, by omega, below⟩
    · rintro ⟨⟨⟨vp, power⟩, powers⟩, sumAll, below⟩
      rw [okPower_eq power] at sumAll
      exact ⟨sum + vp, addVotingPower_eq_ok.mpr ⟨vp, power, by omega, rfl⟩,
        (ih (by omega)).mpr ⟨powers, by omega, below⟩⟩

theorem foldlM_addVotingPower_eq_error {ds : List DepositEntry} {sum : Nat} {e : Error}
    (failed : ds.foldlM (addVotingPower registrar currentTs) sum = .error (.error e)) :
    ∃ d ∈ ds, depositVotingPower registrar currentTs d = .error (.error e) := by
  induction ds generalizing sum with
  | nil => cases failed
  | cons d ds ih =>
    rcases bind_eq_error.mp failed with first | ⟨next, -, rest⟩
    · exact ⟨d, List.mem_cons_self d ds, addVotingPower_eq_error first⟩
    · obtain ⟨d', member, power⟩ := ih rest
      exact ⟨d', List.mem_cons_of_mem d member, power⟩

variable (registrar currentTs)

/-- A voter's total is `Ok` exactly when every used deposit has a power and their sum fits
in `u64`, and it is then that sum.  Unused slots take no part, whatever they hold. -/
theorem voterVotingPower_eq_ok_iff (voter : Voter) (total : Nat) :
    voterVotingPower registrar currentTs voter = .ok total ↔
      ∃ vp : DepositEntry → Nat,
        (∀ d ∈ voter.deposits, d.isUsed → depositVotingPower registrar currentTs d = .ok (vp d)) ∧
          total = ((voter.deposits.filter fun d => d.isUsed).map vp).sum ∧ total < 2 ^ 64 := by
  rw [voterVotingPower, foldlM_addVotingPower_eq_ok (by norm_num), Nat.zero_add]
  constructor
  · rintro ⟨powers, sumAll, below⟩
    refine ⟨okPower registrar currentTs, fun d member used => ?_, sumAll, below⟩
    obtain ⟨vp, power⟩ := powers d (List.mem_filter.mpr ⟨member, used⟩)
    rw [power, okPower_eq power]
  · rintro ⟨vp, powers, sumAll, below⟩
    have used : ∀ d ∈ voter.deposits.filter fun d => d.isUsed,
        depositVotingPower registrar currentTs d = .ok (vp d) := fun d member =>
      powers d (List.mem_filter.mp member).1 (List.mem_filter.mp member).2
    refine ⟨fun d member => ⟨vp d, used d member⟩, ?_, below⟩
    rw [sumAll, List.map_congr_left fun d member => okPower_eq (used d member)]

end Fold

def baselineOnly : VotingMintConfig where
  baselineVoteWeightScaledFactor := ⟨scaledFactorBase, by decide⟩
  maxExtraLockupVoteWeightScaledFactor := ⟨0, by decide⟩
  lockupSaturationSecs := ⟨1, by decide⟩
  digitShift := ⟨0, by decide⟩

def baselineRegistrar : Registrar where
  votingMints := [baselineOnly, baselineOnly, baselineOnly, baselineOnly]
  votingMints_length := rfl

def unlocked (amount : U64) (isUsed : Bool) : DepositEntry where
  lockup := { startTs := ⟨0, by decide⟩, endTs := ⟨0, by decide⟩, kind := .none }
  amountDepositedNative := amount
  amountInitiallyLockedNative := ⟨0, by decide⟩
  isUsed := isUsed
  votingMintConfigIdx := ⟨0, by decide⟩

def twoHalves : Voter where
  voterAuthority := ⟨0, by decide⟩
  deposits := [unlocked ⟨2 ^ 63, by decide⟩ true, unlocked ⟨2 ^ 63, by decide⟩ true] ++
    List.replicate 30 (unlocked ⟨0, by decide⟩ false)
  deposits_length := rfl

/-- Each used deposit of `twoHalves` has power `2 ^ 63`, so their sum is `2 ^ 64`, past
`u64::MAX`, and the total panics where an `Err` is due. -/
theorem twoHalves_voterVotingPower_panics :
    depositVotingPower baselineRegistrar 0 (unlocked ⟨2 ^ 63, by decide⟩ true) = .ok (2 ^ 63) ∧
      voterVotingPower baselineRegistrar 0 twoHalves = .error .panic :=
  ⟨rfl, rfl⟩

/-- Whether a voter's total succeeds, and its value, do not depend on the order of the
deposit slots. -/
theorem voterVotingPower_perm (registrar : Registrar) (currentTs : Int) {voter other : Voter}
    (permuted : voter.deposits.Perm other.deposits) (total : Nat) :
    voterVotingPower registrar currentTs voter = .ok total ↔
      voterVotingPower registrar currentTs other = .ok total := by
  simp only [voterVotingPower_eq_ok_iff, ((permuted.filter _).map _).sum_eq, permuted.mem_iff]

def oneAndTwo (first second : Nat) (fits : first < 2 ^ 64 ∧ second < 2 ^ 64) : Voter where
  voterAuthority := ⟨0, by decide⟩
  deposits := [unlocked ⟨first, fits.1⟩ true, unlocked ⟨second, fits.2⟩ true] ++
    List.replicate 30 (unlocked ⟨0, by decide⟩ false)
  deposits_length := rfl

theorem oneAndTwo_perm :
    voterVotingPower baselineRegistrar 0 (oneAndTwo 1 2 (by decide)) = .ok 3 ↔
      voterVotingPower baselineRegistrar 0 (oneAndTwo 2 1 (by decide)) = .ok 3 :=
  voterVotingPower_perm baselineRegistrar 0 ((List.Perm.swap _ _ _).append_right _) 3

/-- A voter's total fails with an `Err` only as one of its used deposits does. -/
theorem voterVotingPower_errors (registrar : Registrar) (currentTs : Int) (voter : Voter)
    (e : Error) (failed : voterVotingPower registrar currentTs voter = .error (.error e)) :
    ∃ d ∈ voter.deposits, d.isUsed ∧ depositVotingPower registrar currentTs d = .error (.error e) := by
  obtain ⟨d, member, power⟩ := foldlM_addVotingPower_eq_error failed
  exact ⟨d, (List.mem_filter.mp member).1, (List.mem_filter.mp member).2, power⟩

def oddLockup : DepositEntry where
  lockup := { startTs := ⟨0, by decide⟩, endTs := ⟨100, by decide⟩, kind := .daily }
  amountDepositedNative := ⟨0, by decide⟩
  amountInitiallyLockedNative := ⟨1, by decide⟩
  isUsed := true
  votingMintConfigIdx := ⟨0, by decide⟩

def lockedRegistrar : Registrar where
  votingMints := [DepositEntry.lockedOnly, DepositEntry.lockedOnly, DepositEntry.lockedOnly,
    DepositEntry.lockedOnly]
  votingMints_length := rfl

def oddVoter : Voter where
  voterAuthority := ⟨0, by decide⟩
  deposits := oddLockup :: List.replicate 31 (unlocked ⟨0, by decide⟩ false)
  deposits_length := rfl

theorem oddVoter_errors :
    ∃ d ∈ oddVoter.deposits, d.isUsed ∧ depositVotingPower lockedRegistrar 0 d =
      .error (.error (.lockupPeriodMismatch 100 86400)) :=
  voterVotingPower_errors lockedRegistrar 0 oddVoter _ rfl

/-- The parameters of `INSERT_VE_MNDE_ACCOUNT_QUERY`; the code sends them as text. -/
structure VemndeRow where
  pubkey : Pubkey
  voterAuthority : Pubkey
  votingPower : Nat
  owner : Pubkey
deriving DecidableEq, Repr

structure VoterAccount where
  pubkey : Pubkey
  owner : Pubkey
  voter : Option Voter

section Process

variable (registrar : Registrar) (currentTs : Int)

def insertVemnde (pubkey owner : Pubkey) (voter : Voter) : Except (Fault Error) VemndeRow := do
  let votingPower ← voterVotingPower registrar currentTs voter
  return { pubkey, voterAuthority := voter.voterAuthority, votingPower, owner }

def outcome (account : VoterAccount) : Option (Except (Fault Error) VemndeRow) :=
  account.voter.map (insertVemnde registrar currentTs account.pubkey account.owner)

/-- `ProcessorVeMnde::process` over the scanned accounts: the rows sent, and whether the
task panicked.  An account that does not deserialize, and an `Err` of `insert_vemnde`, are
logged and skipped. -/
def process : List VoterAccount → List VemndeRow × Bool
  | [] => ([], false)
  | account :: accounts =>
    match outcome registrar currentTs account with
    | some (.ok row) => (row :: (process accounts).1, (process accounts).2)
    | some (.error .panic) => ([], true)
    | some (.error (.error _)) | none => process accounts

end Process

end SnapshotParser.Processors.Vemnde
