import SnapshotParser.Bytes

namespace SnapshotParser.Jito

/-! # Jito distribution accounts

`utils/jito_parser.rs` reads a `TipDistributionAccount` or a
`PriorityFeeDistributionAccount` of the Jito programs from its raw bytes: behind the
8-byte discriminator lie the validator's vote account, the merkle root upload authority,
an `Option<MerkleRoot>`, and then `epoch_created_at`, `validator_commission_bps` and
`expires_at`.  Where the epoch sits depends on the option's tag, so
`get_epoch_created_at` returns the index it read it at, and
`read_jito_commission_and_epoch` reads from there on.

Every `try_into` converts a range of exactly the array's length, so the errors mapped
from them never arise: the readers only panic, on data too short or an option tag other
than 0 or 1.  `DistributionAccount.serialize` is the Borsh layout the readers expect, and
reading a laid-out account gives back its fields.
-/

abbrev Pubkey := U8Array 32

inductive Error where
  /-- The `TryFromSliceError` that `try_into()?` turns into an `anyhow` error in
  `get_epoch_created_at`. -/
  | tryFromSlice
  /-- `"Failed to parse on-chain account {}: {:?}"`. -/
  | parseAccount (accountPubkey : Pubkey)
  /-- `"Failed to parse epoch for account {}: {:?}"`. -/
  | parseEpoch (accountPubkey : Pubkey)
  /-- `"Failed to parse validator_commission_bps for account {}: {:?}"`. -/
  | parseValidatorCommissionBps (accountPubkey : Pubkey)
  /-- `"Failed to parse total_lamports_transferred for account {}: {:?}"`. -/
  | parseTotalLamportsTransferred (accountPubkey : Pubkey)
  /-- `"SliceAt out of range: start={start}, length={length}, slice_length={}"`. -/
  | sliceAtOutOfRange (start length sliceLength : Nat)
  /-- `"Not expected. No Jito MEV commissions found. Evaluate the snapshot data."` -/
  | noJitoMevCommissions
  /-- `"Not expected. No Jito Priority Fee data found. Evaluate the snapshot data."` -/
  | noJitoPriorityFeeData
deriving DecidableEq

def validatorVoteAccountByteIndex : Nat := 8

def merkleRootOptionByteIndex : Nat := 8 + 64

def epochCreatedAtNoMerkleRootByteIndex : Nat := merkleRootOptionByteIndex + 1

def epochCreatedAtWithMerkleRootByteIndex : Nat := epochCreatedAtNoMerkleRootByteIndex + 64

def validatorCommissionBpsByteOffset : Nat := 8

/-- `get_epoch_created_at`: the epoch and the byte index it was read at, behind the tag of
the `Option<MerkleRoot>`; a tag other than 0 or 1 fails the `assert_eq!`. -/
def getEpochCreatedAt (data : List UInt8) : Except (Fault Error) (U64 × Nat) := do
  if (← unwrap data[merkleRootOptionByteIndex]?) = 0 then
    let epoch ← okOr .tryFromSlice (U8Array.tryFrom 8 (← indexRange data
      epochCreatedAtNoMerkleRootByteIndex (epochCreatedAtNoMerkleRootByteIndex + 8)))
    return (epoch.fromLeBytes, epochCreatedAtNoMerkleRootByteIndex)
  else
    if (← unwrap data[merkleRootOptionByteIndex]?) ≠ 1 then throw .panic
    let epoch ← okOr .tryFromSlice (U8Array.tryFrom 8 (← indexRange data
      epochCreatedAtWithMerkleRootByteIndex (epochCreatedAtWithMerkleRootByteIndex + 8)))
    return (epoch.fromLeBytes, epochCreatedAtWithMerkleRootByteIndex)

structure JitoCommissionMeta where
  validatorVoteAccount : Pubkey
  epochCreatedAt : U64
  validatorCommissionBps : U16
deriving DecidableEq

/-- `read_jito_commission_and_epoch`: the vote account, and the epoch and the commission
from the index behind the merkle root on. -/
def readJitoCommissionAndEpoch (accountPubkey : Pubkey) (data : List UInt8)
    (endMerkleRootByteIndex : Nat) : Except (Fault Error) JitoCommissionMeta := do
  let validatorVoteAccount ← okOr (.parseAccount accountPubkey) (U8Array.tryFrom 32
    (← indexRange data validatorVoteAccountByteIndex (validatorVoteAccountByteIndex + 32)))
  let epochCreatedAt ← okOr (.parseEpoch accountPubkey) (U8Array.tryFrom 8
    (← indexRange data endMerkleRootByteIndex (endMerkleRootByteIndex + 8)))
  let validatorCommissionBpsByteIndex := endMerkleRootByteIndex + validatorCommissionBpsByteOffset
  let validatorCommissionBps ← okOr (.parseValidatorCommissionBps accountPubkey)
    (U8Array.tryFrom 2 (← indexRange data validatorCommissionBpsByteIndex
      (validatorCommissionBpsByteIndex + 2)))
  return ⟨validatorVoteAccount, epochCreatedAt.fromLeBytes, validatorCommissionBps.fromLeBytes⟩

/-- `SliceAt::slice_at`: `length` bytes from `start`, or an `Err` naming the range. -/
def sliceAt (data : List UInt8) (start length : Nat) : Except (Fault Error) (List UInt8) :=
  okOr (.sliceAtOutOfRange start length data.length) (getRange data start (start + length))

theorem getEpochCreatedAt_errors (data : List UInt8) :
    ErrorsSatisfy (fun _ => False) (getEpochCreatedAt data) := by
  refine ErrorsSatisfy.bind errorsSatisfy_unwrap fun _ _ => ?_
  split
  · exact errorsSatisfy_indexRange_tryFrom fun _ => errorsSatisfy_ok
  · refine ErrorsSatisfy.bind errorsSatisfy_unwrap fun _ _ => ?_
    split
    · exact ErrorsSatisfy.bind errorsSatisfy_panic fun _ _ =>
        errorsSatisfy_indexRange_tryFrom fun _ => errorsSatisfy_ok
    · exact errorsSatisfy_indexRange_tryFrom fun _ => errorsSatisfy_ok

theorem readJitoCommissionAndEpoch_errors (accountPubkey : Pubkey) (data : List UInt8)
    (endMerkleRootByteIndex : Nat) :
    ErrorsSatisfy (fun _ => False)
      (readJitoCommissionAndEpoch accountPubkey data endMerkleRootByteIndex) :=
  errorsSatisfy_indexRange_tryFrom fun _ => errorsSatisfy_indexRange_tryFrom fun _ =>
    errorsSatisfy_indexRange_tryFrom fun _ => errorsSatisfy_ok

/-- What `get_epoch_created_at` reads: a merkle root tag of 0 or 1, `index` the place of the
epoch behind the root, and the epoch's 8 bytes there. -/
def EpochLaidOut (data : List UInt8) (epoch : U64) (index : Nat) : Prop :=
  (data[merkleRootOptionByteIndex]? = some 0 ∧ index = epochCreatedAtNoMerkleRootByteIndex ∨
    data[merkleRootOptionByteIndex]? = some 1 ∧ index = epochCreatedAtWithMerkleRootByteIndex) ∧
  ∃ bytes : U8Array 8, getRange data index (index + 8) = some bytes.bytes ∧
    bytes.fromLeBytes = epoch

theorem getEpochCreatedAt_ok_iff_laidOut {data : List UInt8} {epoch : U64} {index : Nat} :
    getEpochCreatedAt data = .ok (epoch, index) ↔ EpochLaidOut data epoch index := by
  have read (i : Nat) : (∃ a : U8Array 8, getRange data i (i + 8) = some a.bytes ∧
      a.fromLeBytes = epoch ∧ i = index) ↔
      index = i ∧ ∃ bytes : U8Array 8, getRange data index (index + 8) = some bytes.bytes ∧
        bytes.fromLeBytes = epoch :=
    ⟨fun ⟨a, found, value, same⟩ => ⟨same.symm, a, same ▸ found, value⟩,
      fun ⟨same, a, found, value⟩ => ⟨a, same ▸ found, value, same.symm⟩⟩
  have tags : (0 : UInt8) ≠ 1 := by decide
  unfold getEpochCreatedAt EpochLaidOut
  cases tag : data[merkleRootOptionByteIndex]? with
  | none => simp [unwrap]
  | some t =>
    by_cases zero : t = 0
    · simp [unwrap, zero, tags, indexRange_tryFrom_eq_ok, read]
    · by_cases one : t = 1
      · simp [unwrap, zero, one, tags.symm, indexRange_tryFrom_eq_ok, read]
      · simp [unwrap, zero, one]

/-- `get_epoch_created_at` accepts exactly the laid-out data and returns its epoch and
index, and panics on every other data. -/
theorem getEpochCreatedAt_eq_ok_iff {data : List UInt8} :
    (∀ {epoch : U64} {index : Nat},
      getEpochCreatedAt data = .ok (epoch, index) ↔ EpochLaidOut data epoch index) ∧
    ((∀ epoch index, ¬ EpochLaidOut data epoch index) → getEpochCreatedAt data = .error .panic) := by
  refine ⟨getEpochCreatedAt_ok_iff_laidOut, fun other => ?_⟩
  rcases result : getEpochCreatedAt data with (_ | e) | ⟨epoch, index⟩
  · rfl
  · exact (getEpochCreatedAt_errors data e result).elim
  · exact absurd (getEpochCreatedAt_ok_iff_laidOut.mp result) (other epoch index)

/-- Neither reader returns an `Err`: every `try_into` converts a range of exactly the
array's length, so the `?` of `get_epoch_created_at` and the `map_err`s of
`read_jito_commission_and_epoch` never fire, and the readers fail only by panicking. -/
theorem jitoReaders_never_err (data : List UInt8) (accountPubkey : Pubkey)
    (endMerkleRootByteIndex : Nat) (e : Error) :
    getEpochCreatedAt data ≠ .error (.error e) ∧
      readJitoCommissionAndEpoch accountPubkey data endMerkleRootByteIndex ≠
        .error (.error e) :=
  ⟨getEpochCreatedAt_errors data e,
    readJitoCommissionAndEpoch_errors accountPubkey data endMerkleRootByteIndex e⟩

/-- The fields of a Jito distribution account from its vote account to `expires_at`. -/
structure DistributionAccount where
  validatorVoteAccount : Pubkey
  merkleRootUploadAuthority : Pubkey
  merkleRoot : Option (U8Array 64)
  epochCreatedAt : U64
  validatorCommissionBps : U16
  expiresAt : U64

def merkleRootBytes : Option (U8Array 64) → List UInt8
  | none => [0]
  | some root => 1 :: root.bytes

namespace DistributionAccount

def keysAndRoot (a : DistributionAccount) : List UInt8 :=
  a.validatorVoteAccount.bytes ++ a.merkleRootUploadAuthority.bytes ++ merkleRootBytes a.merkleRoot

def epochToExpiry (a : DistributionAccount) : List UInt8 :=
  (a.epochCreatedAt.toLeBytes 8).bytes ++ (a.validatorCommissionBps.toLeBytes 2).bytes ++
    (a.expiresAt.toLeBytes 8).bytes

/-- The Borsh layout of the fields, as the Jito programs write them behind the
discriminator. -/
def serialize (a : DistributionAccount) : List UInt8 :=
  a.keysAndRoot ++ a.epochToExpiry

def epochByteIndex (a : DistributionAccount) : Nat :=
  match a.merkleRoot with
  | none => epochCreatedAtNoMerkleRootByteIndex
  | some _ => epochCreatedAtWithMerkleRootByteIndex

section Layout

variable (a : DistributionAccount) {discriminator : List UInt8}
  (header : discriminator.length = 8) (tail : List UInt8)
include header

theorem length_keysAndRoot : (discriminator ++ a.keysAndRoot).length = a.epochByteIndex := by
  cases root : a.merkleRoot <;>
    simp [keysAndRoot, epochByteIndex, merkleRootBytes, root, header, U8Array.length_eq,
      epochCreatedAtNoMerkleRootByteIndex, epochCreatedAtWithMerkleRootByteIndex,
      merkleRootOptionByteIndex]

theorem length_serialize : (discriminator ++ a.serialize).length = a.epochByteIndex + 18 := by
  rw [serialize, ← List.append_assoc, List.length_append, length_keysAndRoot a header]
  simp [epochToExpiry, U8Array.length_eq]

theorem getRange_epoch :
    getRange (discriminator ++ a.serialize ++ tail) a.epochByteIndex (a.epochByteIndex + 8) =
      some (a.epochCreatedAt.toLeBytes 8).bytes :=
  getRange_eq_some (discriminator ++ a.keysAndRoot) _
    ((a.validatorCommissionBps.toLeBytes 2).bytes ++ (a.expiresAt.toLeBytes 8).bytes ++ tail)
    (by simp only [serialize, epochToExpiry, List.append_assoc]) (length_keysAndRoot a header) rfl

theorem getEpochCreatedAt_serialize :
    getEpochCreatedAt (discriminator ++ a.serialize ++ tail) =
      .ok (a.epochCreatedAt, a.epochByteIndex) := by
  have tag : (discriminator ++ a.serialize ++ tail)[merkleRootOptionByteIndex]? =
      (merkleRootBytes a.merkleRoot).head? :=
    (getElem?_eq_head? (discriminator ++ a.validatorVoteAccount.bytes ++
        a.merkleRootUploadAuthority.bytes) (merkleRootBytes a.merkleRoot ++ a.epochToExpiry ++ tail)
      (by simp only [serialize, keysAndRoot, List.append_assoc])
      (by simp [header, U8Array.length_eq, merkleRootOptionByteIndex])).trans
    (by cases a.merkleRoot <;> rfl)
  have epoch := getRange_epoch a header tail
  cases root : a.merkleRoot <;> simp only [epochByteIndex, merkleRootBytes, root] at epoch tag ⊢ <;>
    simp only [getEpochCreatedAt, tag, List.head?_cons, unwrap, ok_bind, indexRange, epoch,
      U8Array.tryFrom_bytes, okOr, fromLeBytes_toLeBytes, if_true, one_ne_zero, if_false,
      ne_eq, not_true_eq_false] <;>
    rfl

theorem readJitoCommissionAndEpoch_serialize (accountPubkey : Pubkey) :
    readJitoCommissionAndEpoch accountPubkey (discriminator ++ a.serialize ++ tail)
      a.epochByteIndex =
        .ok ⟨a.validatorVoteAccount, a.epochCreatedAt, a.validatorCommissionBps⟩ := by
  have vote : getRange (discriminator ++ a.serialize ++ tail) 8 40 =
      some a.validatorVoteAccount.bytes :=
    getRange_eq_some discriminator _
      (a.merkleRootUploadAuthority.bytes ++ merkleRootBytes a.merkleRoot ++ a.epochToExpiry ++ tail)
      (by simp only [serialize, keysAndRoot, List.append_assoc]) header
      (by rw [U8Array.length_eq])
  have commission : getRange (discriminator ++ a.serialize ++ tail) (a.epochByteIndex + 8)
      (a.epochByteIndex + 8 + 2) = some (a.validatorCommissionBps.toLeBytes 2).bytes :=
    getRange_eq_some (discriminator ++ a.keysAndRoot ++ (a.epochCreatedAt.toLeBytes 8).bytes) _
      ((a.expiresAt.toLeBytes 8).bytes ++ tail)
      (by simp only [serialize, epochToExpiry, List.append_assoc])
      (by rw [List.length_append, length_keysAndRoot a header, U8Array.length_eq]) rfl
  simp only [readJitoCommissionAndEpoch, indexRange, vote, getRange_epoch a header tail,
    commission, unwrap, okOr, ok_bind, U8Array.tryFrom_bytes, fromLeBytes_toLeBytes,
    validatorVoteAccountByteIndex, validatorCommissionBpsByteOffset]
  rfl

end Layout

/-- The readers invert the layout: behind any discriminator and before anything else,
`get_epoch_created_at` finds the account's epoch behind its merkle root, and
`read_jito_commission_and_epoch` reads there its vote account, epoch and commission. -/
theorem parse_serialize (a : DistributionAccount) (discriminator : U8Array 8)
    (tail : List UInt8) (accountPubkey : Pubkey) :
    getEpochCreatedAt (discriminator.bytes ++ a.serialize ++ tail) =
        .ok (a.epochCreatedAt, a.epochByteIndex) ∧
      readJitoCommissionAndEpoch accountPubkey (discriminator.bytes ++ a.serialize ++ tail)
          a.epochByteIndex =
        .ok ⟨a.validatorVoteAccount, a.epochCreatedAt, a.validatorCommissionBps⟩ :=
  ⟨a.getEpochCreatedAt_serialize discriminator.length_eq tail,
    a.readJitoCommissionAndEpoch_serialize discriminator.length_eq tail accountPubkey⟩

end DistributionAccount

end SnapshotParser.Jito
