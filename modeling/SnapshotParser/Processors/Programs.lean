import SnapshotParser.Processors.Rows
import SnapshotParser.Filters

namespace SnapshotParser.Processors

open DbConnection Vsr

/-! # What each processor sends

Each processor's `process` scans the frozen bank and sends one request per row it
writes.  As the bank does not change and what a processor computes does not depend on the
answers it gets, a run of `process` is a list of actions fixed in advance: the requests in
scan order, with what the processor does on an `Err` answer, and a `stop` where it returns
an error of its own or panics.

The account owners, token metadata and native staking processors log every `Err` answer,
so they send every row they scan.  The token processor ends at the first account whose
metadata row fails (`?`), and the mint processor at the first listed mint that is missing
or does not unpack.  The decoders and program ids the processors use come from libraries
outside this repository and are taken as given (`Libraries`).
-/

/-- The frozen bank: its accounts, in the order its scans return them. -/
structure Bank where
  accounts : List (Pubkey × Account)

namespace Bank

def getProgramAccounts (bank : Bank) (program : Pubkey) : List (Pubkey × Account) :=
  bank.accounts.filter fun a => a.2.owner = program

def getFilteredProgramAccounts (bank : Bank) (program : Pubkey) (filter : Account → Bool) :
    List (Pubkey × Account) :=
  bank.accounts.filter fun a => a.2.owner = program && filter a.2

def getAccount (bank : Bank) (pubkey : Pubkey) : Option Account :=
  (bank.accounts.find? fun a => a.1 = pubkey).map Prod.snd

end Bank

/-- What the processors use from outside this repository: the text of a `Pubkey` and
`Pubkey::from_str`, SQLite, the program ids of SPL Token and Token Metadata, and the
decoders of their accounts, of the vote-stake-registry accounts and of stake accounts.
`unpack` of a token account returns `None` for every `ProgramError`, which the token
filter treats alike, and `safe_deserialize` for every error kind, which the metadata
processor skips alike. -/
structure Libraries where
  display : Pubkey → String
  fromStr : String → Except String Pubkey
  sqlite : Sqlite
  splTokenId : Pubkey
  tokenMetadataId : Pubkey
  unpackAccount : List UInt8 → Option TokenAccount
  unpackMint : List UInt8 → Option Mint
  safeDeserialize : List UInt8 → Option Metadata
  deserializeRegistrar : List UInt8 → Option Registrar
  deserializeVoter : List UInt8 → Option Voter
  generateStakeMetaCollection : Bank → Option (List StakeMeta)

def tokenAccountLen : Nat := 165

def voterAccountLen : Nat := 2728

def marinadeVsrProgramAddr : String := "VoteMBhDCqGLRgYpp9o7DGyq81KNmwjXQRAHStjtJsS"

def marinadeNativeStakeAuthorityAddr : String := "stWirqFCf2Uts1JBL1Jsd3r6VBWhgnpdPxCTe1MFjrq"

structure ProcessorAccountOwners where
  accountOwners : List Pubkey
  accountOwnersCounter : String

structure ProcessorToken where
  mints : List Pubkey
  accountOwnersCounter : String
  tokenCounter : String

structure ProcessorMint where
  mints : List Pubkey
  tokenCounter : String

structure ProcessorVeMnde where
  marinadeVsrProgramAddr : Pubkey
  vsrRegistrar : Registrar
  vemndeCounter : String
  currentTs : Int

structure ProcessorNativeStake where
  nativeStakeCounter : String
  nativeStakeAuthority : Pubkey

structure ProcessorTokenMetadata where
  tokenMetadataCounter : String

section Process

variable (lib : Libraries) (bank : Bank)

/-- `ProcessorAccountOwners::process`: for each owner in turn, the metadata row of each
account it owns; an `Err` answer is logged. -/
def ProcessorAccountOwners.process (self : ProcessorAccountOwners) : List Action :=
  self.accountOwners.flatMap fun owner => (bank.getProgramAccounts owner).map fun a =>
    .send (insertAccountMeta lib.display lib.sqlite self.accountOwnersCounter a.1 a.2) false

def ProcessorToken.isListed (self : ProcessorToken) (data : List UInt8) : Bool :=
  data.length = tokenAccountLen &&
    match lib.unpackAccount data with
    | some tokenAccount => self.mints.contains tokenAccount.mint
    | none => false

/-- The loop body of `ProcessorToken::process`: `unpack(..)?` again, then the account's
metadata row, whose `Err` ends the task, and its token row, whose `Err` is logged. -/
def ProcessorToken.insertAccount (self : ProcessorToken) (a : Pubkey × Account) : List Action :=
  match lib.unpackAccount a.2.data with
  | none => [.stop]
  | some tokenAccount =>
    [.send (insertAccountMeta lib.display lib.sqlite self.accountOwnersCounter a.1 a.2) true,
      .send (insertToken lib.display lib.sqlite self.tokenCounter a.1 tokenAccount) false]

def ProcessorToken.process (self : ProcessorToken) : List Action :=
  (bank.getFilteredProgramAccounts lib.splTokenId fun account =>
    self.isListed lib account.data).flatMap (self.insertAccount lib)

/-- The row of a listed mint: its account, whose absence returns "Mint account not found",
unpacked, whose failure returns "Failed to unpack mint". -/
def ProcessorMint.mintRow (self : ProcessorMint) (mintPubkey : Pubkey) : Option Request := do
  let account ← bank.getAccount mintPubkey
  let tokenMint ← lib.unpackMint account.data
  pure (insertMint lib.display lib.sqlite self.tokenCounter mintPubkey tokenMint)

/-- `ProcessorMint::process`: for each listed mint, its row, whose `Err` is logged; a mint
without a row ends the task with its error. -/
def ProcessorMint.process (self : ProcessorMint) : List Action :=
  self.mints.flatMap fun mintPubkey =>
    match self.mintRow lib bank mintPubkey with
    | none => [.stop]
    | some row => [.send row false]

def ProcessorVeMnde.voterAccounts (self : ProcessorVeMnde) : List Vemnde.VoterAccount :=
  (bank.getFilteredProgramAccounts self.marinadeVsrProgramAddr fun account =>
      account.data.length = voterAccountLen).map fun a =>
    { pubkey := a.1, owner := a.2.owner, voter := lib.deserializeVoter a.2.data }

/-- `ProcessorVeMnde::process`: the rows `Vemnde.process` computes, each sent with its `Err`
logged, and the end of the task where a total panics. -/
def ProcessorVeMnde.process (self : ProcessorVeMnde) : List Action :=
  let run := Vemnde.process self.vsrRegistrar self.currentTs (self.voterAccounts lib bank)
  run.1.map (fun row => .send (insertVemndeRequest lib.display lib.sqlite self.vemndeCounter row)
    false) ++ if run.2 then [.stop] else []

/-- `ProcessorNativeStake::process`: `generate_stake_meta_collection(..)?`, then the row of
each stake whose stake authority is Marinade's; an `Err` answer is logged. -/
def ProcessorNativeStake.process (self : ProcessorNativeStake) : List Action :=
  match lib.generateStakeMetaCollection bank with
  | none => [.stop]
  | some stakeMetas =>
    (stakeMetas.filter fun stakeMeta => stakeMeta.stakeAuthority = self.nativeStakeAuthority).map
      fun stakeMeta => .send (insertNativeStaking lib.display lib.sqlite self.nativeStakeCounter
        stakeMeta.pubkey stakeMeta.withdrawAuthority stakeMeta.activeDelegationLamports) false

/-- `ProcessorTokenMetadata::process`: the row of each account of the Token Metadata program
that deserializes; the others are skipped, and an `Err` answer is logged. -/
def ProcessorTokenMetadata.process (self : ProcessorTokenMetadata) : List Action :=
  (bank.getProgramAccounts lib.tokenMetadataId).filterMap fun a =>
    (lib.safeDeserialize a.2.data).map fun metadata =>
      .send (insertTokenMetadata lib.display lib.sqlite self.tokenMetadataCounter a.1
        a.2.data.length metadata) false

/-- `ProcessorVeMnde::new` up to its `CREATE TABLE`: `Registrar::deserialize(..)?` of the
filters' registrar data, and the VSR program address. -/
def ProcessorVeMnde.new (filters : Filters) (vemndeCounter : String) (currentTs : Int) :
    Option ProcessorVeMnde := do
  let vsrRegistrar ← lib.deserializeRegistrar filters.vsrRegistrarData
  let marinadeVsrProgramAddr ← (lib.fromStr Processors.marinadeVsrProgramAddr).toOption
  pure { marinadeVsrProgramAddr, vsrRegistrar, vemndeCounter, currentTs }

def ProcessorNativeStake.new (nativeStakeCounter : String) : Option ProcessorNativeStake := do
  let nativeStakeAuthority ← (lib.fromStr marinadeNativeStakeAuthorityAddr).toOption
  pure { nativeStakeCounter, nativeStakeAuthority }

theorem ProcessorVeMnde.vemndeCounter_of_new {filters : Filters} {vemndeCounter : String}
    {currentTs : Int} {processor : ProcessorVeMnde}
    (created : ProcessorVeMnde.new lib filters vemndeCounter currentTs = some processor) :
    processor.vemndeCounter = vemndeCounter := by
  simp only [ProcessorVeMnde.new, Option.bind_eq_bind, Option.bind_eq_some, Option.pure_def,
    Option.some.injEq] at created
  obtain ⟨_, -, _, -, rfl⟩ := created
  rfl

theorem ProcessorNativeStake.nativeStakeCounter_of_new {nativeStakeCounter : String}
    {processor : ProcessorNativeStake}
    (created : ProcessorNativeStake.new lib nativeStakeCounter = some processor) :
    processor.nativeStakeCounter = nativeStakeCounter := by
  simp only [ProcessorNativeStake.new, Option.bind_eq_bind, Option.bind_eq_some,
    Option.pure_def, Option.some.injEq] at created
  obtain ⟨_, -, rfl⟩ := created
  rfl

end Process

section Sends

variable (lib : Libraries) (bank : Bank)

theorem ProcessorAccountOwners.sends_process (self : ProcessorAccountOwners) :
    sends (self.process lib bank) =
      (self.accountOwners.flatMap bank.getProgramAccounts).map fun a =>
        insertAccountMeta lib.display lib.sqlite self.accountOwnersCounter a.1 a.2 := by
  rw [ProcessorAccountOwners.process, ← List.map_flatMap, sends_map_logged]

def ProcessorToken.rows (self : ProcessorToken) (a : Pubkey × Account) : List Request :=
  insertAccountMeta lib.display lib.sqlite self.accountOwnersCounter a.1 a.2 ::
    (lib.unpackAccount a.2.data).toList.map
      (insertToken lib.display lib.sqlite self.tokenCounter a.1)

/-- Over accounts that unpack, the loop sends the metadata row and then the token row of
each, up to the first whose metadata row does not run, after which it ends. -/
theorem ProcessorToken.sends_flatMap (self : ProcessorToken) (metaRuns : Pubkey × Account → Bool)
    (runs : ∀ a, metaRuns a =
      (insertAccountMeta lib.display lib.sqlite self.accountOwnersCounter a.1 a.2).stmt.ran) :
    ∀ accounts : List (Pubkey × Account),
      (∀ a ∈ accounts, (lib.unpackAccount a.2.data).isSome) →
      sends (accounts.flatMap (self.insertAccount lib)) =
        (accounts.takeWhile metaRuns).flatMap (self.rows lib) ++
          ((accounts.dropWhile metaRuns).take 1).map fun a =>
            insertAccountMeta lib.display lib.sqlite self.accountOwnersCounter a.1 a.2
  | [], _ => rfl
  | a :: rest, unpacks => by
    obtain ⟨tokenAccount, unpacked⟩ :=
      Option.isSome_iff_exists.mp (unpacks a (List.mem_cons_self a rest))
    rw [List.flatMap_cons, sends_append]
    simp only [insertAccount, unpacked, rows, Option.toList_some, List.map_cons, List.map_nil]
    by_cases ran : metaRuns a
    · simp [sends, completes, ← runs, ran, List.takeWhile_cons, List.dropWhile_cons, rows,
        unpacked, sends_flatMap self metaRuns runs rest fun a member =>
          unpacks a (List.mem_cons_of_mem _ member)]
    · simp [sends, completes, ← runs, ran, List.takeWhile_cons, List.dropWhile_cons]

/-- The token processor sends, in scan order, the metadata row and then the token row of
each listed token account, up to the first whose metadata row does not run: its `?` ends
the task after that row, without its token row.  The second `unpack(..)?` never ends it,
as every listed account has unpacked once already. -/
theorem ProcessorToken.sends_up_to_failed_meta (self : ProcessorToken) :
    let listed := bank.getFilteredProgramAccounts lib.splTokenId fun account =>
      self.isListed lib account.data
    let metaRuns := fun a : Pubkey × Account =>
      (insertAccountMeta lib.display lib.sqlite self.accountOwnersCounter a.1 a.2).stmt.ran
    sends (self.process lib bank) =
      (listed.takeWhile metaRuns).flatMap (self.rows lib) ++
        ((listed.dropWhile metaRuns).take 1).map fun a =>
          insertAccountMeta lib.display lib.sqlite self.accountOwnersCounter a.1 a.2 := by
  refine self.sends_flatMap lib _ (fun _ => rfl) _ fun a member => ?_
  have listed := (List.mem_filter.mp member).2
  simp only [Bool.and_eq_true, decide_eq_true_eq, isListed] at listed
  revert listed
  cases lib.unpackAccount a.2.data <;> simp

theorem ProcessorNativeStake.sends_process (self : ProcessorNativeStake) :
    sends (self.process lib bank) =
      (((lib.generateStakeMetaCollection bank).getD []).filter fun stakeMeta =>
          stakeMeta.stakeAuthority = self.nativeStakeAuthority).map fun stakeMeta =>
        insertNativeStaking lib.display lib.sqlite self.nativeStakeCounter stakeMeta.pubkey
          stakeMeta.withdrawAuthority stakeMeta.activeDelegationLamports := by
  unfold ProcessorNativeStake.process
  rcases lib.generateStakeMetaCollection bank with _ | stakeMetas
  · rfl
  · exact sends_map_logged _ _

theorem ProcessorTokenMetadata.sends_process (self : ProcessorTokenMetadata) :
    sends (self.process lib bank) =
      (bank.getProgramAccounts lib.tokenMetadataId).filterMap fun a =>
        (lib.safeDeserialize a.2.data).map
          (insertTokenMetadata lib.display lib.sqlite self.tokenMetadataCounter a.1
            a.2.data.length) := by
  have logged : self.process lib bank = List.map (fun row => .send row false)
      ((bank.getProgramAccounts lib.tokenMetadataId).filterMap fun a =>
        (lib.safeDeserialize a.2.data).map
          (insertTokenMetadata lib.display lib.sqlite self.tokenMetadataCounter a.1
            a.2.data.length)) := by
    rw [List.map_filterMap]
    simp only [Option.map_map]
    rfl
  rw [logged, sends_map_logged, List.map_id']

theorem ProcessorVeMnde.sends_process (self : ProcessorVeMnde) :
    sends (self.process lib bank) =
      (Vemnde.process self.vsrRegistrar self.currentTs (self.voterAccounts lib bank)).1.map
        (insertVemndeRequest lib.display lib.sqlite self.vemndeCounter) := by
  unfold ProcessorVeMnde.process
  rw [sends_append, sends_map_logged, completes_map_logged, if_pos rfl]
  split <;> simp [sends]

theorem counter_of_mem_sends :
    (∀ self : ProcessorAccountOwners, ∀ r ∈ sends (self.process lib bank),
      r.counter = some self.accountOwnersCounter) ∧
    (∀ self : ProcessorMint, ∀ r ∈ sends (self.process lib bank),
      r.counter = some self.tokenCounter) ∧
    (∀ self : ProcessorVeMnde, ∀ r ∈ sends (self.process lib bank),
      r.counter = some self.vemndeCounter) ∧
    (∀ self : ProcessorNativeStake, ∀ r ∈ sends (self.process lib bank),
      r.counter = some self.nativeStakeCounter) ∧
    (∀ self : ProcessorTokenMetadata, ∀ r ∈ sends (self.process lib bank),
      r.counter = some self.tokenMetadataCounter) := by
  refine ⟨fun self r member => ?_, fun self r member => ?_, fun self r member => ?_,
    fun self r member => ?_, fun self r member => ?_⟩
  · rw [ProcessorAccountOwners.sends_process] at member
    obtain ⟨a, -, rfl⟩ := List.mem_map.mp member
    rfl
  · obtain ⟨mintPubkey, -, member⟩ := mem_sends_flatMap member
    rcases row : self.mintRow lib bank mintPubkey with _ | row
    · simp [row, sends] at member
    · simp only [ProcessorMint.mintRow, Option.bind_eq_bind, Option.bind_eq_some,
        Option.pure_def, Option.some.injEq] at row
      obtain ⟨account, found, tokenMint, unpacked, rfl⟩ := row
      simp [ProcessorMint.mintRow, found, unpacked, sends] at member
      rw [member]
      rfl
  · rw [ProcessorVeMnde.sends_process] at member
    obtain ⟨row, -, rfl⟩ := List.mem_map.mp member
    rfl
  · rw [ProcessorNativeStake.sends_process] at member
    obtain ⟨stakeMeta, -, rfl⟩ := List.mem_map.mp member
    rfl
  · rw [ProcessorTokenMetadata.sends_process] at member
    obtain ⟨a, -, row⟩ := List.mem_filterMap.mp member
    obtain ⟨metadata, -, rfl⟩ := Option.map_eq_some'.mp row
    rfl

end Sends

end SnapshotParser.Processors
