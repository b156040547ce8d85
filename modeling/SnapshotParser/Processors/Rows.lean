import SnapshotParser.Processors.Vemnde
import SnapshotParser.DbConnection

namespace SnapshotParser.Processors

open DbConnection Vsr

/-! # Rows and requests

A processor writes through the SQLite executor: it sends a message on the channel, waits
for the answer, and goes on.  `sql_params!` turns each parameter into an `OwnedSqlValue`.
The `insert_*` functions send an `Execute` of their table's `INSERT OR REPLACE` with one
row, and count it on a progress counter once it is sent; `new` of each processor sends an
`ExecuteSpecial` of its table's `CREATE TABLE`.  What happens on an `Err` answer is up to
the caller: `?` ends the processor, `unwrap_or_else` logs the error and goes on.

The `u64` columns the rows store as `INTEGER` go through `as i64`, which keeps the 64 bits,
so a field of `2 ^ 63` or more is stored negative.  What SQLite makes of a query and its row is taken as given (`Sqlite`),
and so is the base58 text of a `Pubkey`.
-/

inductive OwnedSqlValue where
  | text (value : Option String)
  | integer (value : Option I64)
  | unsignedInteger (value : Option U64)
  | unsignedU16 (value : Option U16)
  | boolean (value : Option Bool)
  | u8 (value : Option U8)
deriving DecidableEq, Repr

/-- `x as i64` of a `u64` or `usize`: its low 64 bits, read as two's complement. -/
def asI64 (x : Nat) : I64 :=
  ⟨wrapSigned 64 x, by unfold wrapSigned; omega⟩

def toU64 (x : Nat) : U64 :=
  ⟨x % 2 ^ 64, Nat.mod_lt x (by decide)⟩

/-- What SQLite makes of a query: whether `prepare` accepts it, and whether it runs with a
given row. -/
structure Sqlite where
  prepares : String → Bool
  runs : String → List OwnedSqlValue → Bool

def Sqlite.statement (sqlite : Sqlite) (query : String) (params : List OwnedSqlValue) :
    Statement :=
  ⟨query, sqlite.prepares query, sqlite.runs query params⟩

/-- A message to the executor as its sender sees it: an `Execute`, or (`special`) an
`ExecuteSpecial`, of a statement and its row, and the progress counter incremented once
it is sent, if any. -/
structure Request where
  special : Bool
  stmt : Statement
  params : List OwnedSqlValue
  counter : Option String
deriving DecidableEq

def Request.msg (request : Request) : DbMessage :=
  if request.special then .executeSpecial request.stmt else .execute request.stmt

@[simp] theorem Request.expectedResponse_msg (request : Request) :
    request.msg.expectedResponse = request.stmt.outcome := by
  unfold Request.msg
  split <;> rfl

@[simp] theorem Request.ranQueries_msg (request : Request) :
    request.msg.ranQueries = request.stmt.ranQueries := by
  unfold Request.msg
  split <;> rfl

theorem Request.msg_ne_shutdown (request : Request) : request.msg ≠ .shutdown := by
  unfold Request.msg
  split <;> nofun

/-- One step of a processor task: a request, after which an `Err` answer ends the task
(`abortOnErr`, the `?`) or is logged (`unwrap_or_else`); or the end of the task, by a `?`
on an error of its own or a panic, before it sends anything more. -/
inductive Action where
  | send (request : Request) (abortOnErr : Bool)
  | stop
deriving DecidableEq

/-- The requests a task sends when every answer is its statement's own result: it stops
at a `stop`, or after a `?` request whose statement does not run. -/
def sends : List Action → List Request
  | [] => []
  | .stop :: _ => []
  | .send request abortOnErr :: rest =>
    request :: if abortOnErr && !request.stmt.ran then [] else sends rest

def completes : List Action → Bool
  | [] => true
  | .stop :: _ => false
  | .send request abortOnErr :: rest => !(abortOnErr && !request.stmt.ran) && completes rest

theorem sends_append (first second : List Action) :
    sends (first ++ second) = sends first ++ if completes first then sends second else [] := by
  induction first with
  | nil => rfl
  | cons action first ih =>
    cases action with
    | stop => rfl
    | send request abortOnErr =>
      by_cases stops : abortOnErr && !request.stmt.ran <;> simp [sends, completes, stops, ih]

theorem mem_sends_flatMap {α : Type} {g : α → List Action} {r : Request} :
    ∀ {xs : List α}, r ∈ sends (xs.flatMap g) → ∃ x ∈ xs, r ∈ sends (g x)
  | [], member => by simp [sends] at member
  | x :: xs, member => by
    rw [List.flatMap_cons, sends_append, List.mem_append] at member
    rcases member with here | later
    · exact ⟨x, List.mem_cons_self _ _, here⟩
    · split at later
      · obtain ⟨y, mem, there⟩ := mem_sends_flatMap later
        exact ⟨y, List.mem_cons_of_mem _ mem, there⟩
      · simp at later

@[simp] theorem sends_map_logged {α : Type} (f : α → Request) (xs : List α) :
    sends (xs.map fun x => .send (f x) false) = xs.map f := by
  induction xs with
  | nil => rfl
  | cons x xs ih => simp [sends, ih]

@[simp] theorem completes_map_logged {α : Type} (f : α → Request) (xs : List α) :
    completes (xs.map fun x => .send (f x) false) = true := by
  induction xs with
  | nil => rfl
  | cons x xs ih => simp [completes, ih]

def metaAccountTable : String := "account"

def tokenAccountTable : String := "token_account"

/-- The table of `ProcessorMint`, which has no constant of its own. -/
def tokenMintTable : String := "token_mint"

def veMndeAccountTable : String := "vemnde_accounts"

def nativeStakeAccountTable : String := "native_stake_accounts"

def tokenMetadataAccountTable : String := "token_metadata"

def insertMetaAccountQuery : String :=
  "INSERT OR REPLACE INTO account (pubkey, data_len, owner, lamports, executable, " ++
    "rent_epoch) SELECT ?, ?, ?, ?, ?, ?;"

def insertTokenAccountQuery : String :=
  "INSERT OR REPLACE INTO token_account (pubkey, mint, owner, amount, delegate, state, " ++
    "is_native, delegated_amount, close_authority) SELECT ?, ?, ?, ?, ?, ?, ?, ?, ?;"

def insertMintQuery : String :=
  "INSERT OR REPLACE INTO token_mint (pubkey, mint_authority, supply, decimals, " ++
    "is_initialized, freeze_authority) SELECT ?, ?, ?, ?, ?, ?;"

def insertNativeStakeAccountQuery : String :=
  "INSERT OR REPLACE INTO native_stake_accounts (pubkey, withdraw_authority, amount) " ++
    "SELECT ?, ?, ?;"

/-- `INSERT_TOKEN_METADATA_ACCOUNT_QUERY`: the line continuation drops the space before
`SELECT`. -/
def insertTokenMetadataAccountQuery : String :=
  "INSERT OR REPLACE INTO token_metadata (pubkey, mint, update_authority, name, symbol, " ++
    "uri, data_length, seller_fee_basis_points, primary_sale_happened, is_mutable, " ++
    "edition_nonce, collection_verified, collection_key)" ++
    "SELECT ?, ?, ?, ?, ?, ?, ?, ?, ?, ?, ?, ?, ?;"

structure Account where
  data : List UInt8
  owner : Pubkey
  lamports : U64
  executable : Bool
  rentEpoch : U64
deriving DecidableEq

inductive AccountState where
  | uninitialized
  | initialized
  | frozen
deriving DecidableEq, Repr

def AccountState.toU8 : AccountState → U8
  | .uninitialized => ⟨0, by decide⟩
  | .initialized => ⟨1, by decide⟩
  | .frozen => ⟨2, by decide⟩

structure TokenAccount where
  mint : Pubkey
  owner : Pubkey
  amount : U64
  delegate : Option Pubkey
  state : AccountState
  isNative : Option U64
  delegatedAmount : U64
  closeAuthority : Option Pubkey
deriving DecidableEq

structure Mint where
  mintAuthority : Option Pubkey
  supply : U64
  decimals : U8
  isInitialized : Bool
  freezeAuthority : Option Pubkey
deriving DecidableEq

structure Collection where
  verified : Bool
  key : Pubkey
deriving DecidableEq

/-- `mpl_token_metadata::accounts::Metadata`, with the fields `insert_token_metadata`
reads; `key` is the `Debug` text of the account's `Key`, such as `MetadataV1`. -/
structure Metadata where
  key : String
  updateAuthority : Pubkey
  mint : Pubkey
  name : String
  symbol : String
  uri : String
  sellerFeeBasisPoints : U16
  primarySaleHappened : Bool
  isMutable : Bool
  editionNonce : Option U8
  collection : Option Collection
deriving DecidableEq

structure StakeMeta where
  pubkey : Pubkey
  activeDelegationLamports : U64
  stakeAuthority : Pubkey
  withdrawAuthority : Pubkey
deriving DecidableEq

/-- The `create_*_table` calls: an `ExecuteSpecial` of the table's `CREATE TABLE`, with no
parameters and no counter. -/
def createTableRequest (table : String) : Request :=
  ⟨true, SQLiteExecutor.createTable table, [], none⟩

section Insert

/- `display` is the base58 text `Pubkey` displays, which is also what
`bs58::encode(key.as_ref())` gives. -/
variable (display : Pubkey → String) (sqlite : Sqlite)

/-- The `insert_*` functions, which differ in their query, their row and their counter:
an `Execute` of `query` with `params`. -/
def insertRow (query counter : String) (params : List OwnedSqlValue) : Request :=
  ⟨false, sqlite.statement query params, params, some counter⟩

def insertAccountMeta (counter : String) (pubkey : Pubkey) (account : Account) : Request :=
  insertRow sqlite insertMetaAccountQuery counter
    [.text (some (display pubkey)), .integer (some (asI64 account.data.length)),
      .text (some (display account.owner)), .integer (some (asI64 account.lamports.val)),
      .boolean (some account.executable), .integer (some (asI64 account.rentEpoch.val))]

def insertToken (counter : String) (pubkey : Pubkey) (tokenAccount : TokenAccount) :
    Request :=
  insertRow sqlite insertTokenAccountQuery counter
    [.text (some (display pubkey)), .text (some (display tokenAccount.mint)),
      .text (some (display tokenAccount.owner)),
      .integer (some (asI64 tokenAccount.amount.val)),
      .text (tokenAccount.delegate.map display), .u8 (some tokenAccount.state.toU8),
      .unsignedInteger tokenAccount.isNative,
      .integer (some (asI64 tokenAccount.delegatedAmount.val)),
      .text (tokenAccount.closeAuthority.map display)]

def insertMint (counter : String) (pubkey : Pubkey) (tokenMint : Mint) : Request :=
  insertRow sqlite insertMintQuery counter
    [.text (some (display pubkey)), .text (tokenMint.mintAuthority.map display),
      .integer (some (asI64 tokenMint.supply.val)), .u8 (some tokenMint.decimals),
      .boolean (some tokenMint.isInitialized), .text (tokenMint.freezeAuthority.map display)]

/-- `insert_native_staking`: the stake goes in as decimal text. -/
def insertNativeStaking (counter : String) (pubkey authorizedWithdrawer : Pubkey)
    (delegatedStake : U64) : Request :=
  insertRow sqlite insertNativeStakeAccountQuery counter
    [.text (some (display pubkey)), .text (some (display authorizedWithdrawer)),
      .text (some (toString delegatedStake.val))]

/-- `insert_token_metadata`.  Its `collection_key` column gets the `Debug` text of the
account's own `Key`, not the collection's key. -/
def insertTokenMetadata (counter : String) (pubkey : Pubkey) (accountDataLen : Nat)
    (metadata : Metadata) : Request :=
  insertRow sqlite insertTokenMetadataAccountQuery counter
    [.text (some (display pubkey)), .text (some (display metadata.mint)),
      .text (some (display metadata.updateAuthority)), .text (some metadata.name),
      .text (some metadata.symbol), .text (some metadata.uri),
      .unsignedInteger (some (toU64 accountDataLen)),
      .unsignedU16 (some metadata.sellerFeeBasisPoints),
      .boolean (some metadata.primarySaleHappened), .boolean (some metadata.isMutable),
      .u8 metadata.editionNonce, .boolean (metadata.collection.map Collection.verified),
      .text (some metadata.key)]

def insertVemndeRequest (counter : String) (row : Vemnde.VemndeRow) : Request :=
  insertRow sqlite SQLiteExecutor.insertVeMndeAccount.query counter
    [.text (some (display row.pubkey)), .text (some (display row.voterAuthority)),
      .text (some (toString row.votingPower)), .text (some (display row.owner))]

@[simp] theorem insertRow_msg (query counter : String) (params : List OwnedSqlValue) :
    (insertRow sqlite query counter params).msg = .execute (sqlite.statement query params) :=
  rfl

end Insert

end SnapshotParser.Processors
