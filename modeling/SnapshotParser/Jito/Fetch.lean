import SnapshotParser.Jito.Parser

namespace SnapshotParser.Jito

/-! # Fetching the commissions of an epoch

`fetch_jito_mev_metas` and `fetch_jito_priority_fee_metas` scan the accounts of a Jito
distribution program.  An account whose first 8 bytes are the discriminator of the
program's distribution accounts is read, and if it was created in the epoch asked for,
its meta is pushed; other accounts are skipped.  With no meta at all the fetch fails.
Both are `fetchMetas`, with their own discriminator, update and error.

Over accounts laid out as the Jito programs write them, each fetch returns the metas of
exactly the distribution accounts of the epoch, in scan order.  An account shorter than
a discriminator makes the whole fetch panic.
-/

structure JitoMevMeta where
  voteAccount : Pubkey
  mevCommission : U16
deriving DecidableEq

structure JitoPriorityFeeMeta where
  validatorVoteAccount : Pubkey
  validatorCommissionBps : U16
  totalLamportsTransferred : U64
deriving DecidableEq

def tipDistributionAccountDiscriminator : List UInt8 := [85, 64, 113, 198, 234, 94, 120, 123]

def priorityFeeDistributionAccountDiscriminator : List UInt8 :=
  [163, 183, 254, 12, 121, 137, 235, 27]

theorem length_tipDistributionAccountDiscriminator :
    tipDistributionAccountDiscriminator.length = 8 := rfl

theorem length_priorityFeeDistributionAccountDiscriminator :
    priorityFeeDistributionAccountDiscriminator.length = 8 := rfl

def totalLamportsTrasferredByteOffset : Nat := 8 + 2 + 8

section Scan

variable {α : Type} (discriminator : List UInt8)
  (update : List α → List UInt8 → Pubkey → Except (Fault Error) (List α))

/-- One turn of the scan over `(pubkey, account)`: an account holding the discriminator is
updated into the metas, others are skipped. -/
def scanAccount (metas : List α) (account : Pubkey × List UInt8) :
    Except (Fault Error) (List α) := do
  if (← indexRange account.2 0 8) = discriminator then update metas account.2 account.1
  else pure metas

/-- The scan both fetches make over the accounts of their program; no meta at all is an
error. -/
def fetchMetas (noneFound : Error) (accounts : List (Pubkey × List UInt8)) :
    Except (Fault Error) (List α) := do
  let metas ← accounts.foldlM (scanAccount discriminator update) []
  if metas.isEmpty then throw (.error noneFound)
  return metas

end Scan

/-- `update_mev_commission`: the meta read at the epoch's index is pushed; the epoch read
there must be the one asked for. -/
def updateMevCommission (jitoMevMetas : List JitoMevMeta) (data : List UInt8)
    (accountPubkey : Pubkey) (epochByteIndex : Nat) (epoch : U64) :
    Except (Fault Error) (List JitoMevMeta) := do
  let meta ← readJitoCommissionAndEpoch accountPubkey data epochByteIndex
  if epoch ≠ meta.epochCreatedAt then throw .panic
  return jitoMevMetas ++ [⟨meta.validatorVoteAccount, meta.validatorCommissionBps⟩]

def updateJitoMevMetas (jitoMevMetas : List JitoMevMeta) (data : List UInt8) (pubkey : Pubkey)
    (epoch : U64) : Except (Fault Error) (List JitoMevMeta) := do
  let (epochCreatedAt, epochByteIndex) ← getEpochCreatedAt data
  if epochCreatedAt = epoch then updateMevCommission jitoMevMetas data pubkey epochByteIndex epoch
  else return jitoMevMetas

def fetchJitoMevMetas (accounts : List (Pubkey × List UInt8)) (epoch : U64) :
    Except (Fault Error) (List JitoMevMeta) :=
  fetchMetas tipDistributionAccountDiscriminator
    (fun metas data pubkey => updateJitoMevMetas metas data pubkey epoch) .noJitoMevCommissions
    accounts

/-- `read_priority_fee_total_lamports_transferred`: the `u64` behind `expires_at`, through
`slice_at`, which returns an `Err` where the data ends before it. -/
def readPriorityFeeTotalLamportsTransferred (accountPubkey : Pubkey) (data : List UInt8)
    (endMerkleRootByteIndex : Nat) : Except (Fault Error) U64 := do
  let totalLamportsTransferredByteIndex :=
    endMerkleRootByteIndex + totalLamportsTrasferredByteOffset
  let totalLamportsTransferred ← okOr (.parseTotalLamportsTransferred accountPubkey)
    (U8Array.tryFrom 8 (← sliceAt data totalLamportsTransferredByteIndex 8))
  return totalLamportsTransferred.fromLeBytes

def updateJitoPriorityFeeMetas (jitoPriorityFeeMetas : List JitoPriorityFeeMeta)
    (data : List UInt8) (pubkey : Pubkey) (epoch : U64) :
    Except (Fault Error) (List JitoPriorityFeeMeta) := do
  let (epochCreatedAt, epochByteIndex) ← getEpochCreatedAt data
  if epochCreatedAt = epoch then
    let commissionData ← readJitoCommissionAndEpoch pubkey data epochByteIndex
    if epoch ≠ commissionData.epochCreatedAt then throw .panic
    let totalLamportsTransferred ←
      readPriorityFeeTotalLamportsTransferred pubkey data epochByteIndex
    return jitoPriorityFeeMetas ++ [⟨commissionData.validatorVoteAccount,
      commissionData.validatorCommissionBps, totalLamportsTransferred⟩]
  else return jitoPriorityFeeMetas

def fetchJitoPriorityFeeMetas (accounts : List (Pubkey × List UInt8)) (epoch : U64) :
    Except (Fault Error) (List JitoPriorityFeeMeta) :=
  fetchMetas priorityFeeDistributionAccountDiscriminator
    (fun metas data pubkey => updateJitoPriorityFeeMetas metas data pubkey epoch)
    .noJitoPriorityFeeData accounts

structure PriorityFeeDistributionAccount extends DistributionAccount where
  totalLamportsTransferred : U64

def PriorityFeeDistributionAccount.serialize (a : PriorityFeeDistributionAccount) :
    List UInt8 :=
  a.toDistributionAccount.serialize ++ (a.totalLamportsTransferred.toLeBytes 8).bytes

/-- An account of a Jito distribution program as the scan meets it: a distribution account
laid out behind the discriminator, with whatever the program keeps after it, or an account
of another kind, whose first 8 bytes are not the discriminator. -/
inductive ProgramAccount (α : Type) (discriminator : List UInt8) where
  | distribution (account : α) (rest : List UInt8)
  | other (data : List UInt8) (long : 8 ≤ data.length) (foreign : data.take 8 ≠ discriminator)

namespace ProgramAccount

variable {α : Type} {discriminator : List UInt8}

def data (serialize : α → List UInt8) : ProgramAccount α discriminator → List UInt8
  | distribution account rest => discriminator ++ serialize account ++ rest
  | other data _ _ => data

/-- What `fetch_jito_mev_metas` should keep of an account: the vote account and commission
of a tip distribution account of the epoch. -/
def mevMeta (epoch : U64) :
    ProgramAccount DistributionAccount discriminator → Option JitoMevMeta
  | distribution a _ =>
    if a.epochCreatedAt = epoch then some ⟨a.validatorVoteAccount, a.validatorCommissionBps⟩
    else none
  | other .. => none

/-- What `fetch_jito_priority_fee_metas` should keep of an account: the vote account,
commission and total transferred of a priority fee distribution account of the epoch. -/
def priorityFeeMeta (epoch : U64) :
    ProgramAccount PriorityFeeDistributionAccount discriminator → Option JitoPriorityFeeMeta
  | distribution a _ =>
    if a.epochCreatedAt = epoch then
      some ⟨a.validatorVoteAccount, a.validatorCommissionBps, a.totalLamportsTransferred⟩
    else none
  | other .. => none

end ProgramAccount

section Scan

variable {α β : Type} {discriminator : List UInt8}
  {update : List α → List UInt8 → Pubkey → Except (Fault Error) (List α)}

theorem scanAccount_eq {metas : List α} {pubkey : Pubkey} {data : List UInt8}
    (long : 8 ≤ data.length) :
    scanAccount discriminator update metas (pubkey, data) =
      if data.take 8 = discriminator then update metas data pubkey else .ok metas := by
  simp only [scanAccount, indexRange, getRange_zero long, unwrap, ok_bind, pure_eq_ok]

theorem scanAccount_distribution {metas : List α} {pubkey : Pubkey}
    (header : discriminator.length = 8) (body rest : List UInt8) :
    scanAccount discriminator update metas (pubkey, discriminator ++ body ++ rest) =
      update metas (discriminator ++ body ++ rest) pubkey := by
  rw [scanAccount_eq (by simp only [List.length_append, header]; omega), List.append_assoc,
    List.take_left' header, if_pos rfl]

theorem scanAccount_of_short {metas : List α} {pubkey : Pubkey} {data : List UInt8}
    (short : data.length < 8) :
    scanAccount discriminator update metas (pubkey, data) = .error .panic := by
  simp only [scanAccount, indexRange, getRange_of_lt short, unwrap, error_bind]

variable (raw : β → Pubkey × List UInt8) (found : β → Option α)
  (step : ∀ b metas, scanAccount discriminator update metas (raw b) = .ok (metas ++ (found b).toList))
include step

/-- Over accounts each of which adds what `found` says of it, the scan collects those
metas in order. -/
theorem foldlM_scanAccount (accounts : List β) (metas : List α) :
    (accounts.map raw).foldlM (scanAccount discriminator update) metas =
      .ok (metas ++ accounts.filterMap found) := by
  induction accounts generalizing metas with
  | nil => simp
  | cons b accounts ih =>
    rw [List.map_cons, List.foldlM_cons, step, ok_bind, ih]
    cases found_b : found b <;> simp [List.filterMap_cons, found_b]

theorem fetchMetas_map (noneFound : Error) (accounts : List β) :
    fetchMetas discriminator update noneFound (accounts.map raw) =
      if (accounts.filterMap found).isEmpty then .error (.error noneFound)
      else .ok (accounts.filterMap found) := by
  rw [fetchMetas, foldlM_scanAccount raw found step, ok_bind, List.nil_append]
  cases accounts.filterMap found <;> rfl

theorem fetchMetas_of_short (noneFound : Error) (accounts : List β) (pubkey : Pubkey)
    {data : List UInt8} (short : data.length < 8) (later : List (Pubkey × List UInt8)) :
    fetchMetas discriminator update noneFound (accounts.map raw ++ (pubkey, data) :: later) =
      .error .panic := by
  rw [fetchMetas, List.foldlM_append, foldlM_scanAccount raw found step, ok_bind,
    List.foldlM_cons, scanAccount_of_short short, error_bind, error_bind]

end Scan

theorem DistributionAccount.readPriorityFeeTotalLamportsTransferred_serialize
    (a : DistributionAccount) {discriminator : List UInt8} (header : discriminator.length = 8)
    (total : U64) (rest : List UInt8) (accountPubkey : Pubkey) :
    readPriorityFeeTotalLamportsTransferred accountPubkey
      (discriminator ++ a.serialize ++ ((total.toLeBytes 8).bytes ++ rest)) a.epochByteIndex =
        .ok total := by
  have read : getRange (discriminator ++ a.serialize ++ ((total.toLeBytes 8).bytes ++ rest))
      (a.epochByteIndex + 18) (a.epochByteIndex + 18 + 8) = some (total.toLeBytes 8).bytes :=
    getRange_eq_some (discriminator ++ a.serialize) _ rest (by simp only [List.append_assoc])
      (a.length_serialize header) rfl
  simp only [readPriorityFeeTotalLamportsTransferred, sliceAt, totalLamportsTrasferredByteOffset,
    read, okOr, ok_bind, U8Array.tryFrom_bytes, fromLeBytes_toLeBytes]
  rfl

theorem scanAccount_mev (epoch : U64)
    (account : Pubkey × ProgramAccount DistributionAccount tipDistributionAccountDiscriminator)
    (metas : List JitoMevMeta) :
    scanAccount tipDistributionAccountDiscriminator
        (fun metas data pubkey => updateJitoMevMetas metas data pubkey epoch) metas
        (account.1, account.2.data DistributionAccount.serialize) =
      .ok (metas ++ (account.2.mevMeta epoch).toList) := by
  have header := length_tipDistributionAccountDiscriminator
  obtain ⟨pubkey, ⟨a, rest⟩ | ⟨data, long, foreign⟩⟩ := account
  · rw [ProgramAccount.data, scanAccount_distribution header]
    simp only [updateJitoMevMetas, a.getEpochCreatedAt_serialize header rest, ok_bind]
    by_cases same : a.epochCreatedAt = epoch
    · simp only [same, if_true, updateMevCommission, a.readJitoCommissionAndEpoch_serialize header,
        ok_bind, ne_eq, not_true_eq_false, if_false, throw_eq_error, pure_eq_ok,
        ProgramAccount.mevMeta]
      rfl
    · simp [same, ProgramAccount.mevMeta]
  · rw [ProgramAccount.data, scanAccount_eq long, if_neg foreign]
    simp [ProgramAccount.mevMeta]

theorem scanAccount_priorityFee (epoch : U64)
    (account : Pubkey × ProgramAccount PriorityFeeDistributionAccount
      priorityFeeDistributionAccountDiscriminator)
    (metas : List JitoPriorityFeeMeta) :
    scanAccount priorityFeeDistributionAccountDiscriminator
        (fun metas data pubkey => updateJitoPriorityFeeMetas metas data pubkey epoch) metas
        (account.1, account.2.data PriorityFeeDistributionAccount.serialize) =
      .ok (metas ++ (account.2.priorityFeeMeta epoch).toList) := by
  have header := length_priorityFeeDistributionAccountDiscriminator
  obtain ⟨pubkey, ⟨a, rest⟩ | ⟨data, long, foreign⟩⟩ := account
  · have layout : priorityFeeDistributionAccountDiscriminator ++ a.serialize ++ rest =
        priorityFeeDistributionAccountDiscriminator ++ a.toDistributionAccount.serialize ++
          ((a.totalLamportsTransferred.toLeBytes 8).bytes ++ rest) := by
      simp only [PriorityFeeDistributionAccount.serialize, List.append_assoc]
    rw [ProgramAccount.data, scanAccount_distribution header, layout]
    simp only [updateJitoPriorityFeeMetas, a.getEpochCreatedAt_serialize header, ok_bind]
    by_cases same : a.epochCreatedAt = epoch
    · simp only [same, if_true, a.readJitoCommissionAndEpoch_serialize header,
        a.readPriorityFeeTotalLamportsTransferred_serialize header, ok_bind, ne_eq,
        not_true_eq_false, if_false, throw_eq_error, pure_eq_ok, ProgramAccount.priorityFeeMeta]
      rfl
    · simp [same, ProgramAccount.priorityFeeMeta]
  · rw [ProgramAccount.data, scanAccount_eq long, if_neg foreign]
    simp [ProgramAccount.priorityFeeMeta]

/-- Over the accounts of the tip distribution program, laid out as the program writes them,
`fetch_jito_mev_metas` returns the vote account and commission of each tip distribution
account of the epoch, in scan order, and fails when there is none. -/
theorem fetchJitoMevMetas_scan
    (accounts : List (Pubkey × ProgramAccount DistributionAccount
      tipDistributionAccountDiscriminator)) (epoch : U64) :
    fetchJitoMevMetas
        (accounts.map fun account => (account.1, account.2.data DistributionAccount.serialize))
        epoch =
      if (accounts.filterMap fun account => account.2.mevMeta epoch).isEmpty then
        .error (.error .noJitoMevCommissions)
      else .ok (accounts.filterMap fun account => account.2.mevMeta epoch) :=
  fetchMetas_map _ _ (scanAccount_mev epoch) .noJitoMevCommissions accounts

/-- Over the accounts of the priority fee distribution program, laid out as the program
writes them, `fetch_jito_priority_fee_metas` returns the vote account, commission and total
transferred of each priority fee distribution account of the epoch, in scan order, and
fails when there is none. -/
theorem fetchJitoPriorityFeeMetas_scan
    (accounts : List (Pubkey × ProgramAccount PriorityFeeDistributionAccount
      priorityFeeDistributionAccountDiscriminator)) (epoch : U64) :
    fetchJitoPriorityFeeMetas (accounts.map fun account =>
        (account.1, account.2.data PriorityFeeDistributionAccount.serialize)) epoch =
      if (accounts.filterMap fun account => account.2.priorityFeeMeta epoch).isEmpty then
        .error (.error .noJitoPriorityFeeData)
      else .ok (accounts.filterMap fun account => account.2.priorityFeeMeta epoch) :=
  fetchMetas_map _ _ (scanAccount_priorityFee epoch) .noJitoPriorityFeeData accounts

/-- Behind accounts laid out as the programs write them, an account shorter than a
discriminator makes either fetch panic: `account.data[0..8]` is out of range, so such an
account is not skipped but ends the scan. -/
theorem fetchJitoMetas_of_short (pubkey : Pubkey) (data : List UInt8) (short : data.length < 8)
    (later : List (Pubkey × List UInt8)) (epoch : U64)
    (mev : List (Pubkey × ProgramAccount DistributionAccount tipDistributionAccountDiscriminator))
    (priorityFee : List (Pubkey × ProgramAccount PriorityFeeDistributionAccount
      priorityFeeDistributionAccountDiscriminator)) :
    fetchJitoMevMetas (mev.map (fun account =>
        (account.1, account.2.data DistributionAccount.serialize)) ++ (pubkey, data) :: later)
        epoch = .error .panic ∧
      fetchJitoPriorityFeeMetas (priorityFee.map (fun account =>
        (account.1, account.2.data PriorityFeeDistributionAccount.serialize)) ++
          (pubkey, data) :: later) epoch = .error .panic :=
  ⟨fetchMetas_of_short _ _ (scanAccount_mev epoch) _ mev pubkey short later,
    fetchMetas_of_short _ _ (scanAccount_priorityFee epoch) _ priorityFee pubkey short later⟩

theorem emptyAccount_fetchJitoMetas_panics :
    ([] : List UInt8).length < 8 ∧
      fetchJitoMevMetas [(⟨List.replicate 32 0, rfl⟩, [])] ⟨0, by decide⟩ = .error .panic ∧
      fetchJitoPriorityFeeMetas [(⟨List.replicate 32 0, rfl⟩, [])] ⟨0, by decide⟩ =
        .error .panic :=
  ⟨by decide, fetchJitoMetas_of_short ⟨List.replicate 32 0, rfl⟩ [] (by decide) [] ⟨0, by decide⟩
    [] []⟩

end SnapshotParser.Jito
