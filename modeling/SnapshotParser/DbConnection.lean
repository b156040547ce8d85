import SnapshotParser.Rust

namespace SnapshotParser.DbConnection

/-! # The SQLite executor

`SQLiteExecutor` owns the one SQLite connection and runs the statements the processors
send it.  With `tx_bulk = Some(b)` it groups `Execute` statements into transactions,
counted by `transaction_batch_counter` and committed every `b`, and `execute_special`
commits the open transaction before a statement that must run outside one.  Of SQLite the
model keeps what the executor relies on: `BEGIN` fails inside a transaction, `COMMIT`
fails outside one, and a statement run outside a transaction is committed at once.
-/

inductive SqliteError where
  /-- `BEGIN` inside a transaction: "cannot start a transaction within a transaction". -/
  | transactionWithinTransaction
  /-- `COMMIT` outside one: "cannot commit - no transaction is active". -/
  | noTransactionActive
  /-- The statement itself is rejected, when prepared or when run. -/
  | statement
deriving DecidableEq, Repr

/-- The statement of a message, with what SQLite makes of it: whether `prepare` accepts it,
and whether running it succeeds. -/
structure Statement where
  query : String
  prepares : Bool
  runs : Bool
deriving DecidableEq, Repr

namespace Statement

def ran (stmt : Statement) : Bool := stmt.prepares && stmt.runs

def outcome (stmt : Statement) : Except SqliteError Unit :=
  if stmt.ran then .ok () else .error .statement

def ranQueries (stmt : Statement) : List String :=
  if stmt.ran then [stmt.query] else []

end Statement

/-- The connection: whether a transaction is open, the statements committed, and those of
the open transaction, of which there are none outside one. -/
structure Connection where
  inTransaction : Bool
  committed : List String
  pending : List String
  pending_eq_nil : inTransaction = false → pending = []

namespace Connection

def begin : Connection → Except SqliteError Connection
  | ⟨true, _, _, _⟩ => .error .transactionWithinTransaction
  | ⟨false, committed, pending, _⟩ => .ok ⟨true, committed, pending, nofun⟩

def commit : Connection → Except SqliteError Connection
  | ⟨true, committed, pending, _⟩ => .ok ⟨false, committed ++ pending, [], fun _ => rfl⟩
  | ⟨false, _, _, _⟩ => .error .noTransactionActive

def run (query : String) : Connection → Connection
  | ⟨true, committed, pending, _⟩ => ⟨true, committed, pending ++ [query], nofun⟩
  | ⟨false, committed, pending, idle⟩ => ⟨false, committed ++ [query], pending, idle⟩

def executed (db : Connection) : List String := db.committed ++ db.pending

variable {db : Connection}

@[simp] theorem run_inTransaction (query : String) :
    (db.run query).inTransaction = db.inTransaction := by
  rcases db with ⟨_ | _, _, _, _⟩ <;> rfl

@[simp] theorem executed_run (query : String) : (db.run query).executed = db.executed ++ [query] := by
  rcases db with ⟨_ | _, committed, pending, idle⟩
  · simp [run, executed, idle rfl]
  · simp [run, executed]

theorem begin_of_idle (idle : db.inTransaction = false) :
    ∃ db', db.begin = .ok db' ∧ db'.inTransaction = true ∧ db'.executed = db.executed := by
  rcases db with ⟨_ | _, _, _, _⟩
  · exact ⟨_, rfl, rfl, rfl⟩
  · cases idle

theorem commit_of_inTransaction (active : db.inTransaction = true) :
    ∃ db', db.commit = .ok db' ∧ db'.inTransaction = false ∧ db'.executed = db.executed := by
  rcases db with ⟨_ | _, _, _, _⟩
  · cases active
  · exact ⟨_, rfl, rfl, by simp [executed]⟩

theorem committed_of_idle (idle : db.inTransaction = false) : db.committed = db.executed := by
  simp [executed, db.pending_eq_nil idle]

end Connection

/-- `SQLiteExecutor` with the fields its calls read and write; `promoted` is what the
promoted DB file holds once `finalize` has promoted it. -/
structure SQLiteExecutor where
  db : Connection
  txBulk : Option U16
  transactionBatchCounter : U16
  promoted : Option (List String)
  shutDown : Bool

/-- How a call of the executor ends: it panics, which ends the executor task, or it returns
its result with the executor after it; an `Err` keeps the changes made before it. -/
inductive Step where
  | panic
  | returned (result : Except SqliteError Unit) (self : SQLiteExecutor)

inductive DbMessage where
  | execute (stmt : Statement)
  | executeSpecial (stmt : Statement)
  | shutdown
deriving DecidableEq

namespace DbMessage

/-- The response a message gets when no `BEGIN` or `COMMIT` is in the way: its statement's
own result. -/
def expectedResponse : DbMessage → Except SqliteError Unit
  | .execute stmt | .executeSpecial stmt => stmt.outcome
  | .shutdown => .ok ()

def ranQueries : DbMessage → List String
  | .execute stmt | .executeSpecial stmt => stmt.ranQueries
  | .shutdown => []

/-- The messages an executor keeps bracketed: `Execute` with a positive bulk size or none,
`ExecuteSpecial` with a bulk size of one or none. -/
def SafeWith (txBulk : Option U16) : DbMessage → Prop
  | .execute _ => ∀ b ∈ txBulk, 0 < b.val
  | .executeSpecial _ => ∀ b ∈ txBulk, b.val = 1
  | .shutdown => False

end DbMessage

namespace SQLiteExecutor

def new (txBulk : Option U16) : SQLiteExecutor where
  db := ⟨false, [], [], fun _ => rfl⟩
  txBulk := txBulk
  transactionBatchCounter := ⟨0, by decide⟩
  promoted := none
  shutDown := false

/-- Lines 57-62 of `execute`: `BEGIN` when bulks are on and none is counted. -/
def beginBulk (self : SQLiteExecutor) : Except SqliteError SQLiteExecutor :=
  if self.txBulk.isSome ∧ self.transactionBatchCounter.val = 0 then
    self.db.begin.map fun db => { self with db, transactionBatchCounter := ⟨1, by decide⟩ }
  else .ok self

def countStatement (self : SQLiteExecutor) (stmt : Statement) : SQLiteExecutor :=
  { self with
    transactionBatchCounter := self.transactionBatchCounter.saturatingAdd 1
    db := if stmt.runs then self.db.run stmt.query else self.db }

/-- Lines 71-78 of `execute`: `COMMIT` when the counter reaches a multiple of the bulk, or
`u16::MAX`.  The `%` panics on a bulk of zero. -/
def commitBulk (self : SQLiteExecutor) : Except (Fault SqliteError) SQLiteExecutor :=
  match self.txBulk with
  | none => .ok self
  | some bulkSize =>
    if bulkSize.val = 0 then .error .panic
    else if self.transactionBatchCounter.val % bulkSize.val = 0 ∨
        self.transactionBatchCounter.val = 2 ^ 16 - 1 then
      match self.db.commit with
      | .ok db => .ok { self with db, transactionBatchCounter := ⟨0, by decide⟩ }
      | .error e => .error (.error e)
    else .ok self

/-- Lines 90-92 of `execute_special`, and 169-171 of `finalize`: `COMMIT` of the counted
bulk.  The counter is left as it is. -/
def closeBulk (self : SQLiteExecutor) : Except SqliteError SQLiteExecutor :=
  if self.txBulk.isSome ∧ 0 < self.transactionBatchCounter.val then
    self.db.commit.map fun db => { self with db }
  else .ok self

/-- Lines 98-103 of `execute_special`: `BEGIN` again when the counter is a multiple of the
bulk.  The `%` panics on a bulk of zero. -/
def reopenBulk (self : SQLiteExecutor) : Except (Fault SqliteError) SQLiteExecutor :=
  match self.txBulk with
  | none => .ok self
  | some bulkSize =>
    if bulkSize.val = 0 then .error .panic
    else if self.transactionBatchCounter.val % bulkSize.val = 0 then
      match self.db.begin with
      | .ok db => .ok { self with db, transactionBatchCounter := ⟨1, by decide⟩ }
      | .error e => .error (.error e)
    else .ok self

def execute (self : SQLiteExecutor) (stmt : Statement) : Step :=
  match self.beginBulk with
  | .error e => .returned (.error e) self
  | .ok self =>
    if stmt.prepares then
      let self := self.countStatement stmt
      match self.commitBulk with
      | .error .panic => .panic
      | .error (.error e) => .returned (.error e) self
      | .ok self => .returned stmt.outcome self
    else .returned (.error .statement) self

def executeSpecial (self : SQLiteExecutor) (stmt : Statement) : Step :=
  match self.closeBulk with
  | .error e => .returned (.error e) self
  | .ok self =>
    let self := if stmt.ran then { self with db := self.db.run stmt.query } else self
    match self.reopenBulk with
    | .error .panic => .panic
    | .error (.error e) => .returned (.error e) self
    | .ok self => .returned stmt.outcome self

/-- `SQLiteExecutor::finalize`: commit the counted bulk, then promote the DB file.  The
temporary file's guard gives up its path on the first `promote`, so a second one panics in
its `expect`. -/
def finalize (self : SQLiteExecutor) : Step :=
  match self.closeBulk with
  | .error e => .returned (.error e) self
  | .ok self =>
    match self.promoted with
    | some _ => .panic
    | none => .returned (.ok ()) { self with promoted := some self.db.committed }

def handle (self : SQLiteExecutor) : DbMessage → Step
  | .execute stmt => self.execute stmt
  | .executeSpecial stmt => self.executeSpecial stmt
  | .shutdown =>
    match self.finalize with
    | .returned (.ok ()) self => .returned (.ok ()) { self with shutDown := true }
    | step => step

/-- The `while let Some(msg) = self.receiver.recv().await` loop: the responses sent, in
order, and the executor when the channel closes; `none` when a call panics. -/
def receive (self : SQLiteExecutor) :
    List DbMessage → Option (List (Except SqliteError Unit) × SQLiteExecutor)
  | [] => some ([], self)
  | msg :: msgs =>
    match self.handle msg with
    | .panic => none
    | .returned result self => (self.receive msgs).map fun run => (result :: run.1, run.2)

def start (self : SQLiteExecutor) (msgs : List DbMessage) :
    Option (List (Except SqliteError Unit) × SQLiteExecutor) :=
  if self.shutDown then some ([], self) else self.receive msgs

def createTable (name : String) : Statement := ⟨"CREATE TABLE " ++ name, true, true⟩

def insertVeMndeAccount : Statement :=
  ⟨"INSERT OR REPLACE INTO vemnde_accounts (pubkey, voter_authority, voting_power, owner) " ++
    "SELECT ?, ?, ?, ?;", true, true⟩

def vemndeMessages : List DbMessage :=
  [.executeSpecial (createTable "vemnde_accounts"), .execute insertVeMndeAccount]

/-- Between calls: without bulks no transaction is open, and with them one is open exactly
while the batch counter is positive. -/
def Bracketed (self : SQLiteExecutor) : Prop :=
  match self.txBulk with
  | none => self.db.inTransaction = false
  | some _ => (self.db.inTransaction = true ↔ 0 < self.transactionBatchCounter.val)

def Begun (self : SQLiteExecutor) : Prop :=
  match self.txBulk with
  | none => self.db.inTransaction = false
  | some _ => self.db.inTransaction = true ∧ 0 < self.transactionBatchCounter.val

section Bracketing

variable {self : SQLiteExecutor}

theorem Begun.bracketed (begun : self.Begun) : self.Bracketed := by
  rcases self with ⟨db, _ | _, counter, promoted, shutDown⟩
  · exact begun
  · exact ⟨fun _ => begun.2, fun _ => begun.1⟩

theorem beginBulk_of_bracketed (bracketed : self.Bracketed) :
    ∃ next, self.beginBulk = .ok next ∧ next.Begun ∧ next.txBulk = self.txBulk ∧
      next.db.executed = self.db.executed := by
  rcases self with ⟨db, _ | bulkSize, ⟨counter, fits⟩, promoted, shutDown⟩
  · exact ⟨_, rfl, bracketed, rfl, rfl⟩
  · by_cases idle : counter = 0
    · subst idle
      obtain ⟨db', began, active, same⟩ :=
        db.begin_of_idle (by simpa [Bracketed] using bracketed)
      exact ⟨⟨db', some bulkSize, ⟨1, by decide⟩, promoted, shutDown⟩,
        by simp [beginBulk, began]; rfl, ⟨active, Nat.one_pos⟩, rfl, same⟩
    · have counted : 0 < counter := Nat.pos_of_ne_zero idle
      exact ⟨⟨db, some bulkSize, ⟨counter, fits⟩, promoted, shutDown⟩, by simp [beginBulk, idle],
        ⟨bracketed.mpr counted, counted⟩, rfl, rfl⟩

theorem countStatement_begun (begun : self.Begun) (stmt : Statement) :
    (self.countStatement stmt).Begun ∧ (self.countStatement stmt).txBulk = self.txBulk ∧
      (self.countStatement stmt).db.executed =
        self.db.executed ++ if stmt.runs then [stmt.query] else [] := by
  refine ⟨?_, rfl, by by_cases runs : stmt.runs <;> simp [countStatement, runs]⟩
  have active : (self.countStatement stmt).db.inTransaction = self.db.inTransaction := by
    by_cases runs : stmt.runs <;> simp [countStatement, runs]
  rcases self with ⟨db, _ | _, counter, promoted, shutDown⟩
  · exact active.trans begun
  · exact ⟨active.trans begun.1, lt_min (Nat.succ_pos _) (by decide)⟩

theorem commitBulk_of_begun (positive : ∀ b ∈ self.txBulk, 0 < b.val) (begun : self.Begun) :
    ∃ next, self.commitBulk = .ok next ∧ next.Bracketed ∧ next.txBulk = self.txBulk ∧
      next.db.executed = self.db.executed := by
  rcases self with ⟨db, _ | bulkSize, counter, promoted, shutDown⟩
  · exact ⟨_, rfl, begun, rfl, rfl⟩
  · have nonzero : bulkSize.val ≠ 0 := (positive bulkSize rfl).ne'
    by_cases full : counter.val % bulkSize.val = 0 ∨ counter.val = 2 ^ 16 - 1
    · obtain ⟨db', committed, idle, same⟩ := db.commit_of_inTransaction begun.1
      exact ⟨⟨db', some bulkSize, ⟨0, by decide⟩, promoted, shutDown⟩,
        by simp only [commitBulk, nonzero, full, if_true, if_false, committed],
        by simp [Bracketed, idle], rfl, same⟩
    · exact ⟨⟨db, some bulkSize, counter, promoted, shutDown⟩,
        by simp only [commitBulk, nonzero, full, if_false], begun.bracketed, rfl, rfl⟩

theorem closeBulk_of_bracketed (bracketed : self.Bracketed) :
    ∃ next, self.closeBulk = .ok next ∧ next.db.inTransaction = false ∧
      next.txBulk = self.txBulk ∧ next.db.executed = self.db.executed := by
  rcases self with ⟨db, _ | bulkSize, counter, promoted, shutDown⟩
  · exact ⟨_, rfl, bracketed, rfl, rfl⟩
  · by_cases counted : 0 < counter.val
    · obtain ⟨db', committed, idle, same⟩ := db.commit_of_inTransaction (bracketed.mpr counted)
      exact ⟨⟨db', some bulkSize, counter, promoted, shutDown⟩,
        by simp [closeBulk, counted, committed]; rfl, idle, rfl, same⟩
    · exact ⟨⟨db, some bulkSize, counter, promoted, shutDown⟩, by simp [closeBulk, counted],
        by simpa [Bracketed, counted] using bracketed, rfl, rfl⟩

theorem reopenBulk_of_idle (single : ∀ b ∈ self.txBulk, b.val = 1)
    (idle : self.db.inTransaction = false) :
    ∃ next, self.reopenBulk = .ok next ∧ next.Bracketed ∧ next.txBulk = self.txBulk ∧
      next.db.executed = self.db.executed := by
  rcases self with ⟨db, _ | bulkSize, counter, promoted, shutDown⟩
  · exact ⟨_, rfl, idle, rfl, rfl⟩
  · have one : bulkSize.val = 1 := single bulkSize rfl
    obtain ⟨db', began, active, same⟩ := db.begin_of_idle idle
    exact ⟨⟨db', some bulkSize, ⟨1, by decide⟩, promoted, shutDown⟩,
      by simp [reopenBulk, one, began, Nat.mod_one], by simp [Bracketed, active], rfl, same⟩

theorem execute_of_bracketed (positive : ∀ b ∈ self.txBulk, 0 < b.val)
    (bracketed : self.Bracketed) (stmt : Statement) :
    ∃ next, self.execute stmt = .returned stmt.outcome next ∧ next.Bracketed ∧
      next.txBulk = self.txBulk ∧ next.db.executed = self.db.executed ++ stmt.ranQueries := by
  obtain ⟨begun, began, isBegun, bulk, same⟩ := beginBulk_of_bracketed bracketed
  by_cases prepares : stmt.prepares
  · obtain ⟨counted, countedBulk, countedSame⟩ := countStatement_begun isBegun stmt
    obtain ⟨next, committed, isBracketed, nextBulk, nextSame⟩ :=
      commitBulk_of_begun (by rwa [countedBulk, bulk]) counted
    refine ⟨next, by simp [execute, began, prepares, committed], isBracketed,
      by rw [nextBulk, countedBulk, bulk], ?_⟩
    simp [nextSame, countedSame, same, Statement.ranQueries, Statement.ran, prepares]
  · exact ⟨begun, by simp [execute, began, prepares, Statement.outcome, Statement.ran],
      isBegun.bracketed, bulk, by simp [same, Statement.ranQueries, Statement.ran, prepares]⟩

theorem executeSpecial_of_bracketed (single : ∀ b ∈ self.txBulk, b.val = 1)
    (bracketed : self.Bracketed) (stmt : Statement) :
    ∃ next, self.executeSpecial stmt = .returned stmt.outcome next ∧ next.Bracketed ∧
      next.txBulk = self.txBulk ∧ next.db.executed = self.db.executed ++ stmt.ranQueries := by
  obtain ⟨closed, closedOk, idle, bulk, same⟩ := closeBulk_of_bracketed bracketed
  have ranIdle : (if stmt.ran then { closed with db := closed.db.run stmt.query } else closed).db.inTransaction = false := by
    split <;> simpa
  obtain ⟨next, reopened, isBracketed, nextBulk, nextSame⟩ :=
    reopenBulk_of_idle (by split <;> rwa [bulk]) ranIdle
  refine ⟨next, by simp [executeSpecial, closedOk, reopened], isBracketed, ?_, ?_⟩
  · rw [nextBulk]; split <;> exact bulk
  · rw [nextSame]; split <;> simp_all [Statement.ranQueries]

section Frame

variable {next : SQLiteExecutor}

theorem beginBulk_promoted (began : self.beginBulk = .ok next) : next.promoted = self.promoted := by
  unfold beginBulk at began
  split at began
  · cases begin : self.db.begin <;> simp [begin, Except.map] at began
    rw [← began]
  · cases began; rfl

theorem commitBulk_promoted (committed : self.commitBulk = .ok next) :
    next.promoted = self.promoted := by
  unfold commitBulk at committed
  split at committed
  · cases committed; rfl
  · split_ifs at committed
    · split at committed <;> cases committed; rfl
    · cases committed; rfl

theorem closeBulk_promoted (closed : self.closeBulk = .ok next) : next.promoted = self.promoted := by
  unfold closeBulk at closed
  split at closed
  · cases commit : self.db.commit <;> simp [commit, Except.map] at closed
    rw [← closed]
  · cases closed; rfl

theorem reopenBulk_promoted (reopened : self.reopenBulk = .ok next) :
    next.promoted = self.promoted := by
  unfold reopenBulk at reopened
  split at reopened
  · cases reopened; rfl
  · split_ifs at reopened
    · split at reopened <;> cases reopened; rfl
    · cases reopened; rfl

theorem handle_promoted {msg : DbMessage} (notShutdown : msg ≠ .shutdown)
    {result : Except SqliteError Unit} (handled : self.handle msg = .returned result next) :
    next.promoted = self.promoted := by
  cases msg with
  | execute stmt =>
    simp only [handle, execute] at handled
    split at handled
    · cases handled; rfl
    · next begun began =>
      split_ifs at handled
      · split at handled
        · cases handled
        · cases handled; exact (beginBulk_promoted began :)
        · next committed =>
          cases handled; exact (commitBulk_promoted committed).trans (beginBulk_promoted began :)
      · cases handled; exact beginBulk_promoted began
  | executeSpecial stmt =>
    simp only [handle, executeSpecial] at handled
    split at handled
    · cases handled; rfl
    · next closed closedOk =>
      split at handled
      · cases handled
      · cases handled; split <;> exact (closeBulk_promoted closedOk :)
      · next reopened =>
        cases handled; rw [reopenBulk_promoted reopened]; split <;> exact (closeBulk_promoted closedOk :)
  | shutdown => exact absurd rfl notShutdown

end Frame

theorem finalize_of_bracketed (bracketed : self.Bracketed) (fresh : self.promoted = none) :
    ∃ next, self.finalize = .returned (.ok ()) next ∧ next.promoted = some self.db.executed ∧
      next.txBulk = self.txBulk := by
  obtain ⟨closed, closedOk, idle, bulk, same⟩ := closeBulk_of_bracketed bracketed
  exact ⟨{ closed with promoted := some closed.db.committed },
    by simp [finalize, closedOk, closeBulk_promoted closedOk, fresh],
    by simp [Connection.committed_of_idle idle, same], bulk⟩

theorem new_bracketed (txBulk : Option U16) : (new txBulk).Bracketed := by
  cases txBulk <;> simp [Bracketed, new]

@[simp] theorem start_new (txBulk : Option U16) (msgs : List DbMessage) :
    (new txBulk).start msgs = (new txBulk).receive msgs := rfl

theorem handle_of_bracketed (bracketed : self.Bracketed) {msg : DbMessage}
    (safe : msg.SafeWith self.txBulk) :
    ∃ next, self.handle msg = .returned msg.expectedResponse next ∧ next.Bracketed ∧
      next.txBulk = self.txBulk ∧ next.db.executed = self.db.executed ++ msg.ranQueries := by
  cases msg with
  | execute stmt => exact execute_of_bracketed safe bracketed stmt
  | executeSpecial stmt => exact executeSpecial_of_bracketed safe bracketed stmt
  | shutdown => exact safe.elim

/-- A run of messages its bulk size handles: no call panics, each returns its statement's
own result, and the executor ends bracketed, having run the statements that ran. -/
theorem receive_of_bracketed (bracketed : self.Bracketed) {msgs : List DbMessage}
    (safe : ∀ msg ∈ msgs, msg.SafeWith self.txBulk) :
    ∃ last, self.receive msgs = some (msgs.map DbMessage.expectedResponse, last) ∧
      last.Bracketed ∧ last.txBulk = self.txBulk ∧
      last.db.executed = self.db.executed ++ msgs.flatMap DbMessage.ranQueries ∧
      last.promoted = self.promoted := by
  induction msgs generalizing self with
  | nil => exact ⟨self, rfl, bracketed, rfl, by simp, rfl⟩
  | cons msg msgs ih =>
    have notShutdown : msg ≠ .shutdown := by
      rintro rfl
      exact safe _ (List.mem_cons_self _ msgs)
    obtain ⟨next, handled, nextBracketed, nextBulk, nextSame⟩ :=
      handle_of_bracketed bracketed (safe msg (List.mem_cons_self msg msgs))
    obtain ⟨last, received, lastBracketed, lastBulk, lastSame, lastPromoted⟩ :=
      ih nextBracketed fun m member => nextBulk ▸ safe m (List.mem_cons_of_mem msg member)
    exact ⟨last, by simp [receive, handled, received], lastBracketed, lastBulk.trans nextBulk,
      by simp [lastSame, nextSame], lastPromoted.trans (handle_promoted notShutdown handled)⟩

theorem safeWith_of_single {txBulk : Option U16} (single : ∀ b ∈ txBulk, b.val = 1)
    {msgs : List DbMessage} (noShutdown : ∀ msg ∈ msgs, msg ≠ .shutdown) :
    ∀ msg ∈ msgs, msg.SafeWith txBulk
  | .execute _, _ => fun b member => by simp [single b member]
  | .executeSpecial _, _ => single
  | .shutdown, member => noShutdown _ member rfl

theorem receive_append (msgs rest : List DbMessage) :
    self.receive (msgs ++ rest) = (self.receive msgs).bind fun run =>
      (run.2.receive rest).map fun tail => (run.1 ++ tail.1, tail.2) := by
  induction msgs generalizing self with
  | nil => simp [receive]
  | cons msg msgs ih =>
    simp only [List.cons_append, receive]
    cases self.handle msg with
    | panic => rfl
    | returned result next =>
      dsimp only [List.append_eq]
      rw [ih]
      rcases next.receive msgs with _ | run
      · rfl
      · simp [Option.map_map, Function.comp_def]

/-- With `tx_bulk` `None` or `Some(1)`, whatever the order of the processors' messages: no
call panics, every call returns its statement's own result, so that no `BEGIN` or `COMMIT`
fails, and the final `Shutdown` promotes a DB file holding exactly the statements that ran,
in the order received. -/
theorem start_promotes_ran_statements (txBulk : Option U16) (single : ∀ b ∈ txBulk, b.val = 1)
    (msgs : List DbMessage) (noShutdown : ∀ msg ∈ msgs, msg ≠ .shutdown) :
    ∃ last, (new txBulk).start (msgs ++ [.shutdown]) =
        some (msgs.map DbMessage.expectedResponse ++ [.ok ()], last) ∧
      last.promoted = some (msgs.flatMap DbMessage.ranQueries) ∧ last.shutDown = true := by
  obtain ⟨ran, received, bracketed, -, executed, fresh⟩ :=
    receive_of_bracketed (new_bracketed txBulk) (safeWith_of_single single noShutdown)
  obtain ⟨final, finalized, promoted, -⟩ := finalize_of_bracketed bracketed fresh
  refine ⟨{ final with shutDown := true }, ?_, by rw [promoted, executed]; rfl, rfl⟩
  simp [receive_append, received, receive, handle, finalized]

theorem start_promotes_vemndeMessages :
    ∃ last, (new (some ⟨1, by decide⟩)).start (vemndeMessages ++ [.shutdown]) =
        some (vemndeMessages.map DbMessage.expectedResponse ++ [.ok ()], last) ∧
      last.promoted = some (vemndeMessages.flatMap DbMessage.ranQueries) ∧ last.shutDown = true :=
  start_promotes_ran_statements (some ⟨1, by decide⟩) (fun _ member => by cases member; rfl)
    vemndeMessages (by decide)

/-- Rows alone keep the bracketing for every positive bulk size: it is `execute_special`
that needs a bulk size of one. -/
theorem start_executes_of_pos (txBulk : Option U16) (positive : ∀ b ∈ txBulk, 0 < b.val)
    (stmts : List Statement) :
    ((new txBulk).start (stmts.map .execute)).map Prod.fst = some (stmts.map Statement.outcome) := by
  have safe : ∀ msg ∈ stmts.map DbMessage.execute, msg.SafeWith txBulk := by
    simp only [List.mem_map]
    rintro _ ⟨stmt, -, rfl⟩
    exact positive
  obtain ⟨last, received, -⟩ := receive_of_bracketed (new_bracketed txBulk) safe
  simp [received, DbMessage.expectedResponse, Function.comp_def]

theorem start_three_rows :
    ((new (some ⟨2, by decide⟩)).start
        ([insertVeMndeAccount, insertVeMndeAccount, insertVeMndeAccount].map .execute)).map
        Prod.fst =
      some ([insertVeMndeAccount, insertVeMndeAccount, insertVeMndeAccount].map Statement.outcome) :=
  start_executes_of_pos (some ⟨2, by decide⟩) (fun _ member => by cases member; decide) _

end Bracketing

def threeTables : List DbMessage :=
  [.executeSpecial (createTable "account"), .executeSpecial (createTable "token_account"),
    .executeSpecial (createTable "token_mint")]

theorem start_threeTables_of_two_le {bulkSize : U16} (two : 2 ≤ bulkSize.val) :
    ((new (some bulkSize)).start threeTables).map Prod.fst =
      some [.ok (), .ok (), .error .noTransactionActive] := by
  have nonzero : bulkSize.val ≠ 0 := by omega
  have one : 1 % bulkSize.val = 1 := Nat.mod_eq_of_lt (by omega)
  simp [threeTables, start, receive, handle, executeSpecial, closeBulk, reopenBulk, new,
    createTable, Statement.ran, Statement.outcome, nonzero, one, Connection.begin,
    Connection.commit, Connection.run, Except.map]

theorem start_threeTables_of_zero {bulkSize : U16} (zero : bulkSize.val = 0) :
    (new (some bulkSize)).start threeTables = none := by
  simp [threeTables, start, receive, handle, executeSpecial, closeBulk, reopenBulk, new,
    createTable, Statement.ran, zero, Connection.run, Except.map]

/-- Only `None` and `Some(1)` give every run of the processors' messages their statements'
own results: from any other bulk size the first three `CREATE TABLE`s panic, or the third
fails its `COMMIT`. -/
theorem start_expected_iff (txBulk : Option U16) :
    ((∀ msgs : List DbMessage, (∀ msg ∈ msgs, msg ≠ .shutdown) →
      ((new txBulk).start msgs).map Prod.fst = some (msgs.map DbMessage.expectedResponse)) ↔
      ∀ b ∈ txBulk, b.val = 1) ∧
    (∀ b ∈ txBulk, b.val = 0 → (new txBulk).start threeTables = none) ∧
    (∀ b ∈ txBulk, 2 ≤ b.val → ((new txBulk).start threeTables).map Prod.fst =
      some [.ok (), .ok (), .error .noTransactionActive]) := by
  refine ⟨⟨fun expected bulkSize member => ?_, fun single msgs noShutdown => ?_⟩,
    fun _ member zero => ?_, fun _ member two => ?_⟩
  · cases member
    have three := expected threeTables (by decide)
    by_contra notOne
    rcases Nat.lt_or_ge bulkSize.val 2 with small | two
    · rw [start_threeTables_of_zero (by omega)] at three
      cases three
    · rw [start_threeTables_of_two_le two] at three
      simp [threeTables, DbMessage.expectedResponse, Statement.outcome, Statement.ran,
        createTable] at three
  · obtain ⟨last, received, -⟩ :=
      receive_of_bracketed (new_bracketed txBulk) (safeWith_of_single single noShutdown)
    simp [received]
  · cases member
    exact start_threeTables_of_zero zero
  · cases member
    exact start_threeTables_of_two_le two

/-- With `--sqlite-tx-bulk 2` the third processor's `CREATE TABLE` fails its `COMMIT`, and
with `--sqlite-tx-bulk 0` the first one panics on `% 0`. -/
theorem threeTables_break_bracketing :
    ((new (some ⟨2, by decide⟩)).start threeTables).map Prod.fst =
        some [.ok (), .ok (), .error .noTransactionActive] ∧
      (new (some ⟨0, by decide⟩)).start threeTables = none :=
  ⟨rfl, rfl⟩

end SQLiteExecutor

end SnapshotParser.DbConnection
