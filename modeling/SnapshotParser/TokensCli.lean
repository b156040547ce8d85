import SnapshotParser.Processors.Programs
import Mathlib.Data.List.Perm.Basic

namespace SnapshotParser.TokensCli

open DbConnection Processors

/-! # The tokens CLI: processors and executor

`main` of the tokens CLI starts the SQLite executor's task, then for each processor in
turn calls `new`, which sends the processor's `CREATE TABLE` and waits for the answer
(`?`), and spawns the processor's task.  The tasks run concurrently and share the
executor's channel; each waits for the answer to a message before it sends the next.
Once every task has ended (`tokio::join!`, whose results are discarded), `main` sends
`Shutdown`, waits for its answer (whose result it discards as well), and waits for the
executor's task.

A run is an interleaving of the steps of `main` and of the tasks, given by a schedule.
The executor handles messages in the order the channel delivers them, so every step that
sends a message is answered before any other message is sent.  The log and the counters
are the history of the run: no step reads them.  A message still queued when the executor
panics is counted in the code; here it is sent after the panic, to no executor, and is
neither logged nor counted.
-/

inductive Sender where
  | main
  | task (i : Nat)
deriving DecidableEq, Repr

/-- A processor as `main` starts it: the `CREATE TABLE` its `new` sends, `none` when `new`
returns an `Err` before that, and the actions of its task. -/
structure Spawn where
  create : Option Request
  program : List Action

/-- Where `main` is: creating tables and spawning tasks, with the processors still to
start; returned with the `Err` of a `new`; or past its `Shutdown`, `ok` when it returned
`Ok`. -/
inductive Main where
  | spawning (rest : List Spawn)
  | failed
  | shutdown (ok : Bool)

def Main.sent : Main → List DbMessage
  | .shutdown _ => [.shutdown]
  | .spawning _ | .failed => []

/-- The tokens CLI between two steps.  `executor` is `none` once the executor's task has
panicked; `tasks` holds what each spawned task has still to do; `log` holds every request
the executor received, with its sender, and `incs` every increment of a progress counter,
by the counter's name. -/
structure System where
  executor : Option DbConnection.SQLiteExecutor
  main : Main
  tasks : List (List Action)
  log : List (Sender × Request)
  incs : List String

/-- `send(msg).await?` then `response_rx.await?`: the executor after the message, and the
answer, which is `none` when the channel is closed because the executor's task has ended,
or when the executor panics on this message and drops the response sender. -/
def deliver (executor : Option DbConnection.SQLiteExecutor) (msg : DbMessage) :
    Option DbConnection.SQLiteExecutor × Option (Except SqliteError Unit) :=
  match executor with
  | none => (none, none)
  | some executor =>
    match executor.handle msg with
    | .panic => (none, none)
    | .returned result next => (some next, some result)

def answeredOk : Option (Except SqliteError Unit) → Bool
  | some (.ok ()) => true
  | _ => false

/-- The `ProgressCounter` named `name`: its `AtomicU64` counts the increments, wrapping. -/
def counterValue (incs : List String) (name : String) : Nat :=
  incs.count name % 2 ^ 64

namespace System

/-- `sender` sends `request`: once the message is in the channel it is logged and its
counter incremented, and the executor answers it. -/
def send (s : System) (sender : Sender) (request : Request) :
    System × Option (Except SqliteError Unit) :=
  match s.executor with
  | none => (s, none)
  | some executor =>
    let delivered := deliver (some executor) request.msg
    let next : System :=
      { s with
        executor := delivered.1
        log := s.log ++ [(sender, request)]
        incs := s.incs ++ request.counter.toList }
    (next, delivered.2)

/-- A step of task `i`: its next request, after which an `Err` answer to a `?` request
ends it; or its end. -/
def stepTask (s : System) (i : Nat) : System :=
  match s.tasks.getD i [] with
  | [] => s
  | .stop :: _ => { s with tasks := s.tasks.set i [] }
  | .send request abortOnErr :: rest =>
    let sent := s.send (.task i) request
    { sent.1 with
      tasks := s.tasks.set i (if abortOnErr && !answeredOk sent.2 then [] else rest) }

/-- A step of `main`: the next processor's `new` and spawn; or, once every task has ended,
`Shutdown`, after which `main` returns `Ok` unless the answer was lost. -/
def stepMain (s : System) : System :=
  match s.main with
  | .failed | .shutdown _ => s
  | .spawning [] =>
    if s.tasks.all List.isEmpty then
      let delivered := deliver s.executor .shutdown
      { s with executor := delivered.1, main := .shutdown delivered.2.isSome }
    else s
  | .spawning (spawn :: rest) =>
    match spawn.create with
    | none => { s with main := .failed }
    | some create =>
      let sent := s.send .main create
      if answeredOk sent.2 then
        { sent.1 with main := .spawning rest, tasks := s.tasks ++ [spawn.program] }
      else { sent.1 with main := .failed }

inductive Choice where
  | main
  | task (i : Nat)

/-- A step of the party chosen; once `main` has returned, the process is over. -/
def step (s : System) : Choice → System
  | .main => s.stepMain
  | .task i =>
    match s.main with
    | .spawning _ => s.stepTask i
    | .failed | .shutdown _ => s

def run (s : System) (schedule : List Choice) : System :=
  schedule.foldl step s

def received (s : System) : List DbMessage :=
  s.log.map (fun e => e.2.msg) ++ s.main.sent

@[simp] theorem send_main (s : System) (sender : Sender) (request : Request) :
    (s.send sender request).1.main = s.main := by
  unfold send; split <;> rfl

@[simp] theorem send_tasks (s : System) (sender : Sender) (request : Request) :
    (s.send sender request).1.tasks = s.tasks := by
  unfold send; split <;> rfl

end System

def init (txBulk : Option U16) (spawns : List Spawn) : System :=
  ⟨some (DbConnection.SQLiteExecutor.new txBulk), .spawning spawns, [], [], []⟩

def project (sender : Sender) (log : List (Sender × Request)) : List Request :=
  log.filterMap fun e => if e.1 = sender then some e.2 else none

theorem receive_snoc (executor : DbConnection.SQLiteExecutor) (msgs : List DbMessage)
    (msg : DbMessage) :
    (executor.receive (msgs ++ [msg])).map Prod.snd =
      (deliver ((executor.receive msgs).map Prod.snd) msg).1 := by
  rw [DbConnection.SQLiteExecutor.receive_append]
  rcases executor.receive msgs with _ | ⟨results, last⟩
  · rfl
  · cases handled : last.handle msg <;>
      simp [deliver, DbConnection.SQLiteExecutor.receive, handled]

section Refinement

variable {txBulk : Option U16}

/-- Whatever the bulk size: the executor of a run is the one the `start` loop makes of the
messages received, in order, and the counters count the requests sent. -/
structure Refines (txBulk : Option U16) (s : System) : Prop where
  executor_eq :
    s.executor = ((DbConnection.SQLiteExecutor.new txBulk).receive s.received).map Prod.snd
  incs_eq : s.incs = s.log.flatMap fun e => e.2.counter.toList

variable {s : System}

theorem Refines.withTasks (refines : Refines txBulk s) (tasks : List (List Action)) :
    Refines txBulk { s with tasks } :=
  ⟨refines.executor_eq, refines.incs_eq⟩

theorem Refines.withMain (refines : Refines txBulk s) {main : Main}
    (same : main.sent = s.main.sent) : Refines txBulk { s with main } :=
  ⟨by rw [refines.executor_eq, System.received, System.received, same], refines.incs_eq⟩

theorem Refines.send (refines : Refines txBulk s) (idle : s.main.sent = []) (sender : Sender)
    (request : Request) : Refines txBulk (s.send sender request).1 := by
  unfold System.send
  rcases executor : s.executor with _ | executor
  · exact refines
  · have before := refines.executor_eq
    rw [executor, System.received, idle, List.append_nil] at before
    refine ⟨?_, by simp [refines.incs_eq]⟩
    simp only [System.received, idle, List.map_append, List.map_cons, List.map_nil,
      List.append_nil, receive_snoc, ← before]

theorem Refines.stepTask (refines : Refines txBulk s) (idle : s.main.sent = []) (i : Nat) :
    Refines txBulk (s.stepTask i) := by
  unfold System.stepTask
  split
  · exact refines
  · exact refines.withTasks _
  · exact (refines.send idle _ _).withTasks _

theorem Refines.stepMain (refines : Refines txBulk s) : Refines txBulk s.stepMain := by
  unfold System.stepMain
  split
  · exact refines
  · exact refines
  · next main =>
    have idle : s.main.sent = [] := by rw [main]; rfl
    split
    · refine ⟨?_, refines.incs_eq⟩
      have before := refines.executor_eq
      rw [System.received, idle, List.append_nil] at before
      simp only [System.received, Main.sent, receive_snoc, ← before]
    · exact refines
  · next spawn rest main =>
    have idle : s.main.sent = [] := by rw [main]; rfl
    split
    · exact refines.withMain (by rw [idle]; rfl)
    · next create _ =>
      have sent := refines.send idle .main create
      have same : ∀ main : Main, main.sent = [] →
          main.sent = (s.send .main create).1.main.sent := by
        intro main none
        rw [System.send_main, idle, none]
      dsimp only
      split
      · exact (sent.withMain (same (.spawning rest) rfl)).withTasks _
      · exact sent.withMain (same .failed rfl)

theorem Refines.step (refines : Refines txBulk s) (c : System.Choice) :
    Refines txBulk (s.step c) := by
  cases c with
  | main => exact refines.stepMain
  | task i =>
    dsimp only [System.step]
    split
    · next main => exact refines.stepTask (by rw [main]; rfl) i
    · exact refines
    · exact refines

theorem Refines.run (refines : Refines txBulk s) (schedule : List System.Choice) :
    Refines txBulk (s.run schedule) := by
  induction schedule generalizing s with
  | nil => exact refines
  | cons c schedule ih => exact ih (refines.step c)

theorem init_refines (spawns : List Spawn) : Refines txBulk (init txBulk spawns) :=
  ⟨rfl, rfl⟩

end Refinement

section Lists

variable {α : Type} (l : List α) (d : α)

theorem getD_of_length_le {j : Nat} (long : l.length ≤ j) : l.getD j d = d := by
  simp [List.getD_eq_getElem?_getD, List.getElem?_eq_none long]

theorem getD_concat (a : α) (j : Nat) :
    (l ++ [a]).getD j d = if j < l.length then l.getD j d else if j = l.length then a else d := by
  simp only [List.getD_eq_getElem?_getD]
  split
  · rw [List.getElem?_append_left ‹_›]
  · rw [List.getElem?_append_right (by omega)]
    split
    · subst_vars; simp
    · rw [List.getElem?_eq_none (by simp; omega)]; rfl

theorem getD_set {i : Nat} (a : α) (inside : i < l.length) (j : Nat) :
    (l.set i a).getD j d = if i = j then a else l.getD j d := by
  simp only [List.getD_eq_getElem?_getD, List.getElem?_set, inside, if_true]
  split <;> rfl

theorem lt_length_of_getD_eq_cons {i : Nat} {a : α} {as : List α} (l : List (List α))
    (nonempty : l.getD i [] = a :: as) : i < l.length := by
  by_contra long
  rw [getD_of_length_le l [] (Nat.le_of_not_lt long)] at nonempty
  cases nonempty

theorem flatMap_range_getD {β : Type} (l : List (List α)) (f : List α → List β) :
    ((List.range l.length).flatMap fun i => f (l.getD i [])) = l.flatMap f := by
  induction l with
  | nil => rfl
  | cons a l ih =>
    rw [List.length_cons, List.range_succ_eq_map, List.flatMap_cons, List.flatMap_map]
    exact congrArg (f a ++ ·) ih

theorem flatMap_ite_eq [DecidableEq α] {β : Type} {xs : List α} (nodup : xs.Nodup) {x : α}
    (member : x ∈ xs) (b : β) : (xs.flatMap fun y => if x = y then [b] else []) = [b] := by
  induction xs with
  | nil => cases member
  | cons y ys ih =>
    rw [List.nodup_cons] at nodup
    by_cases same : x = y
    · subst same
      have rest : (ys.flatMap fun y => if x = y then [b] else []) = [] :=
        List.flatMap_eq_nil_iff.mpr fun z mem => if_neg fun (h : x = z) => nodup.1 (h ▸ mem)
      simp [rest]
    · simp [same, ih nodup.2 ((List.mem_cons.mp member).resolve_left same)]

end Lists

@[simp] theorem project_append (sender : Sender) (log₁ log₂ : List (Sender × Request)) :
    project sender (log₁ ++ log₂) = project sender log₁ ++ project sender log₂ :=
  List.filterMap_append _ _ _

theorem project_singleton (sender sender' : Sender) (request : Request) :
    project sender [(sender', request)] = if sender' = sender then [request] else [] := by
  by_cases same : sender' = sender <;> simp [project, same]

/-- A log holds what its senders sent, interleaved: it is a permutation of the requests of
each sender in turn. -/
theorem perm_projections {senders : List Sender} (nodup : senders.Nodup) :
    ∀ log : List (Sender × Request), (∀ e ∈ log, e.1 ∈ senders) →
      (log.map Prod.snd).Perm (senders.flatMap fun sender => project sender log)
  | [], _ => by simp [project]
  | e :: log, covered => by
    have rest := perm_projections nodup log fun e' member =>
      covered e' (List.mem_cons_of_mem e member)
    have first : (senders.flatMap fun sender => project sender (e :: log)) =
        senders.flatMap fun sender =>
          (if e.1 = sender then [e.2] else []) ++ project sender log := by
      congr
      funext sender
      rw [← project_singleton, ← project_append]
      rfl
    rw [first]
    refine List.Perm.trans ?_ (List.flatMap_append_perm _ _ _)
    rw [flatMap_ite_eq nodup (covered e (List.mem_cons_self e log))]
    exact rest.cons e.2

@[simp] theorem answeredOk_outcome (stmt : Statement) :
    answeredOk (some stmt.outcome) = stmt.ran := by
  unfold Statement.outcome
  split <;> simp_all [answeredOk]

section Safe

variable {txBulk : Option U16} {s : System}

theorem receive_requests (single : ∀ b ∈ txBulk, b.val = 1) (log : List (Sender × Request)) :
    ∃ executor,
      ((DbConnection.SQLiteExecutor.new txBulk).receive (log.map fun e => e.2.msg)).map
          Prod.snd = some executor ∧
        executor.Bracketed ∧ executor.txBulk = txBulk ∧
        executor.db.executed = log.flatMap (fun e => e.2.stmt.ranQueries) ∧
        executor.promoted = none := by
  have safe : ∀ msg ∈ log.map (fun e => e.2.msg),
      msg.SafeWith (DbConnection.SQLiteExecutor.new txBulk).txBulk :=
    DbConnection.SQLiteExecutor.safeWith_of_single single fun msg member => by
      obtain ⟨e, -, rfl⟩ := List.mem_map.mp member
      exact e.2.msg_ne_shutdown
  obtain ⟨last, received, bracketed, bulk, executed, fresh⟩ :=
    DbConnection.SQLiteExecutor.receive_of_bracketed
      (DbConnection.SQLiteExecutor.new_bracketed txBulk) safe
  refine ⟨last, by rw [received]; rfl, bracketed, bulk, ?_, fresh⟩
  rw [executed]
  simp [DbConnection.SQLiteExecutor.new, Connection.executed, List.flatMap_map]

theorem deliver_shutdown {executor : DbConnection.SQLiteExecutor} (bracketed : executor.Bracketed)
    (fresh : executor.promoted = none) :
    ∃ next, deliver (some executor) .shutdown = (some next, some (.ok ())) ∧
      next.promoted = some executor.db.executed := by
  obtain ⟨next, finalized, promoted, -⟩ :=
    DbConnection.SQLiteExecutor.finalize_of_bracketed bracketed fresh
  exact ⟨{ next with shutDown := true },
    by simp [deliver, DbConnection.SQLiteExecutor.handle, finalized], promoted⟩

theorem Refines.healthy (single : ∀ b ∈ txBulk, b.val = 1) (refines : Refines txBulk s)
    (idle : s.main.sent = []) :
    ∃ executor, s.executor = some executor ∧ executor.Bracketed ∧ executor.txBulk = txBulk ∧
      executor.db.executed = s.log.flatMap (fun e => e.2.stmt.ranQueries) ∧
      executor.promoted = none := by
  obtain ⟨executor, received, rest⟩ := receive_requests single s.log
  exact ⟨executor, by rw [refines.executor_eq, System.received, idle, List.append_nil, received],
    rest⟩

theorem Refines.send_of_single (single : ∀ b ∈ txBulk, b.val = 1) (refines : Refines txBulk s)
    (idle : s.main.sent = []) (sender : Sender) (request : Request) :
    (s.send sender request).1.log = s.log ++ [(sender, request)] ∧
      (s.send sender request).2 = some request.stmt.outcome := by
  obtain ⟨executor, present, bracketed, bulk, -⟩ := refines.healthy single idle
  have safe : request.msg.SafeWith executor.txBulk := by
    rw [bulk]
    exact DbConnection.SQLiteExecutor.safeWith_of_single single
      (fun msg member => by rw [List.mem_singleton.mp member]; exact request.msg_ne_shutdown)
      request.msg (List.mem_singleton_self _)
  obtain ⟨next, handled, -⟩ := DbConnection.SQLiteExecutor.handle_of_bracketed bracketed safe
  unfold System.send
  rw [present]
  simp [deliver, handled]

/-- What the processors have sent, with `main` past the `new` of the first
`s.tasks.length` of them: `main` has sent their `CREATE TABLE`s, each task has sent what
its program sends up to where it is, and `main` has sent `Shutdown` only once every task
has ended. -/
structure Accounted (spawns : List Spawn) (s : System) : Prop where
  le_length : s.tasks.length ≤ spawns.length
  main_log : project .main s.log = (spawns.take s.tasks.length).filterMap Spawn.create
  task_log : ∀ i, project (.task i) s.log ++ sends (s.tasks.getD i []) =
    sends (((spawns.take s.tasks.length).map Spawn.program).getD i [])
  senders : ∀ e ∈ s.log, e.1 = .main ∨ ∃ i < s.tasks.length, e.1 = .task i
  phase : s.main = .spawning (spawns.drop s.tasks.length) ∨
    s.main = .shutdown true ∧ s.tasks.length = spawns.length ∧ s.tasks.all List.isEmpty

variable {spawns : List Spawn}

theorem Accounted.stepTask (accounted : Accounted spawns s)
    (spawning : s.main = .spawning (spawns.drop s.tasks.length)) (i : Nat)
    (sent : ∀ request, (s.send (.task i) request).1.log = s.log ++ [(.task i, request)] ∧
      (s.send (.task i) request).2 = some request.stmt.outcome) :
    Accounted spawns (s.stepTask i) := by
  unfold System.stepTask
  split
  · exact accounted
  · next rest first =>
    have inside := lt_length_of_getD_eq_cons s.tasks first
    refine ⟨by simpa using accounted.le_length, by simpa using accounted.main_log,
      fun j => ?_, by simpa using accounted.senders, .inl (by simpa using spawning)⟩
    simp only [List.length_set, getD_set _ _ _ inside]
    by_cases same : i = j
    · subst same
      have before := accounted.task_log i
      rw [first] at before
      simpa [sends] using before
    · simpa [same] using accounted.task_log j
  · next request abortOnErr rest first =>
    have inside := lt_length_of_getD_eq_cons s.tasks first
    obtain ⟨log, answer⟩ := sent request
    refine ⟨by simpa using accounted.le_length, ?_, fun j => ?_, ?_,
      .inl (by simpa using spawning)⟩
    · simpa [log, project_singleton] using accounted.main_log
    · simp only [System.send_tasks, List.length_set, log, project_append, project_singleton,
        getD_set _ _ _ inside, Sender.task.injEq]
      rw [← accounted.task_log j]
      by_cases same : i = j
      · subst same
        rw [first, answer, answeredOk_outcome]
        by_cases stops : abortOnErr && !request.stmt.ran <;> simp [stops, sends]
      · simp [same]
    · simp only [log, List.mem_append, List.mem_singleton, System.send_tasks, List.length_set]
      rintro e (member | rfl)
      · exact accounted.senders e member
      · exact .inr ⟨i, inside, rfl⟩

theorem Refines.shutdown_of_single (single : ∀ b ∈ txBulk, b.val = 1)
    (refines : Refines txBulk s) (idle : s.main.sent = []) :
    ∃ next, deliver s.executor .shutdown = (some next, some (.ok ())) := by
  obtain ⟨executor, present, bracketed, -, -, fresh⟩ := refines.healthy single idle
  obtain ⟨next, delivered, -⟩ := deliver_shutdown bracketed fresh
  exact ⟨next, by rw [present, delivered]⟩

theorem Accounted.stepMain (single : ∀ b ∈ txBulk, b.val = 1)
    (accepted : ∀ spawn ∈ spawns, ∃ create, spawn.create = some create ∧ create.stmt.ran)
    (refines : Refines txBulk s) (accounted : Accounted spawns s) :
    Accounted spawns s.stepMain := by
  rcases accounted.phase with spawning | ⟨shutdown, -⟩
  · have idle : s.main.sent = [] := by rw [spawning]; rfl
    unfold System.stepMain
    rw [spawning]
    rcases Nat.lt_or_ge s.tasks.length spawns.length with inside | done
    · rw [List.drop_eq_getElem_cons inside]
      obtain ⟨create, created, ran⟩ :=
        accepted _ (List.getElem_mem (l := spawns) inside)
      obtain ⟨log, answer⟩ := refines.send_of_single single idle .main create
      have take : spawns.take (s.tasks.length + 1) =
          spawns.take s.tasks.length ++ [spawns[s.tasks.length]] := by
        rw [List.take_succ, List.getElem?_eq_getElem inside]; rfl
      have length : ((spawns.take s.tasks.length).map Spawn.program).length =
          s.tasks.length := by
        simp [Nat.min_eq_left accounted.le_length]
      dsimp only
      rw [created]
      dsimp only
      rw [answer, answeredOk_outcome, ran, if_pos rfl]
      refine ⟨by simpa using inside, ?_, fun j => ?_, ?_, .inl (by simp)⟩
      · simp only [log, project_append, accounted.main_log, project_singleton, if_true,
          List.length_append, List.length_singleton, take, List.filterMap_append,
          List.filterMap_cons, created, List.filterMap_nil]
      · have before := accounted.task_log j
        simp only [log, project_append, project_singleton, reduceCtorEq, if_false,
          List.append_nil, System.send_tasks, List.length_append, List.length_singleton,
          take, List.map_append, List.map_singleton, getD_concat, length] at before ⊢
        split
        · exact before
        · rw [getD_of_length_le _ _ (Nat.le_of_not_lt ‹_›),
            getD_of_length_le _ _ (by rw [length]; exact Nat.le_of_not_lt ‹_›)] at before
          simp only [sends, List.append_nil] at before
          rw [before]
          split <;> rfl
      · simp only [log, List.mem_append, List.mem_singleton, System.send_tasks,
          List.length_append, List.length_singleton]
        rintro e (member | rfl)
        · rcases accounted.senders e member with main | ⟨i, lt, task⟩
          · exact .inl main
          · exact .inr ⟨i, by omega, task⟩
        · exact .inl rfl
    · have all : spawns.drop s.tasks.length = [] := List.drop_eq_nil_of_le done
      rw [all]
      dsimp only
      split
      · next empty =>
        obtain ⟨next, delivered⟩ := refines.shutdown_of_single single idle
        rw [delivered]
        exact ⟨accounted.le_length, accounted.main_log, accounted.task_log, accounted.senders,
          .inr ⟨rfl, Nat.le_antisymm accounted.le_length done, empty⟩⟩
      · exact accounted
  · unfold System.stepMain
    rw [shutdown]
    exact accounted

theorem Accounted.step (single : ∀ b ∈ txBulk, b.val = 1)
    (accepted : ∀ spawn ∈ spawns, ∃ create, spawn.create = some create ∧ create.stmt.ran)
    (refines : Refines txBulk s) (accounted : Accounted spawns s) (c : System.Choice) :
    Accounted spawns (s.step c) := by
  cases c with
  | main => exact accounted.stepMain single accepted refines
  | task i =>
    rcases accounted.phase with spawning | ⟨shutdown, -⟩
    · simp only [System.step, spawning]
      exact accounted.stepTask spawning i
        (refines.send_of_single single (by rw [spawning]; rfl) _)
    · simp only [System.step, shutdown]
      exact accounted

theorem init_accounted (spawns : List Spawn) : Accounted spawns (init txBulk spawns) :=
  ⟨Nat.zero_le _, rfl, fun _ => by simp [init, project, sends], nofun, .inl rfl⟩

theorem accounted_run (single : ∀ b ∈ txBulk, b.val = 1)
    (accepted : ∀ spawn ∈ spawns, ∃ create, spawn.create = some create ∧ create.stmt.ran)
    (schedule : List System.Choice) :
    Refines txBulk ((init txBulk spawns).run schedule) ∧
      Accounted spawns ((init txBulk spawns).run schedule) := by
  suffices ∀ s : System, Refines txBulk s → Accounted spawns s →
      Refines txBulk (s.run schedule) ∧ Accounted spawns (s.run schedule) from
    this _ (init_refines spawns) (init_accounted spawns)
  induction schedule with
  | nil => exact fun s refines accounted => ⟨refines, accounted⟩
  | cons c schedule ih =>
    exact fun s refines accounted =>
      ih (s.step c) (refines.step c) (accounted.step single accepted refines c)

/-- Once `main` has returned from a run that keeps both invariants: it returned `Ok`,
after `Shutdown` promoted the statements of the requests received that ran, and the
requests received are `main`'s `CREATE TABLE`s and everything the tasks send, each
sender's in its order. -/
theorem Accounted.finished (single : ∀ b ∈ txBulk, b.val = 1) (refines : Refines txBulk s)
    (accounted : Accounted spawns s) (returned : ∀ rest, s.main ≠ .spawning rest) :
    s.main = .shutdown true ∧
      (∃ executor, s.executor = some executor ∧
        executor.promoted = some (s.log.flatMap fun e => e.2.stmt.ranQueries)) ∧
      (s.log.map Prod.snd).Perm
        (spawns.filterMap Spawn.create ++ (spawns.map Spawn.program).flatMap sends) ∧
      project .main s.log = spawns.filterMap Spawn.create ∧
      ∀ i, project (.task i) s.log = sends ((spawns.map Spawn.program).getD i []) := by
  rcases accounted.phase with spawning | ⟨shutdown, length, empty⟩
  · exact absurd spawning (returned _)
  have emptied : ∀ i, s.tasks.getD i [] = [] := fun i => by
    rw [List.getD_eq_getElem?_getD]
    rcases found : s.tasks[i]? with _ | task
    · rfl
    · exact List.isEmpty_iff.mp (List.all_eq_true.mp empty task (List.getElem?_mem found))
  have take : spawns.take s.tasks.length = spawns := by rw [length, List.take_length]
  have main : project .main s.log = spawns.filterMap Spawn.create := by
    rw [accounted.main_log, take]
  have tasks : ∀ i, project (.task i) s.log = sends ((spawns.map Spawn.program).getD i []) :=
    fun i => by
      have before := accounted.task_log i
      rw [emptied i, take] at before
      simpa [sends] using before
  refine ⟨shutdown, ?_, ?_, main, tasks⟩
  · obtain ⟨executor, received, bracketed, -, executed, fresh⟩ := receive_requests single s.log
    obtain ⟨next, delivered, promoted⟩ := deliver_shutdown bracketed fresh
    refine ⟨next, ?_, by rw [promoted, executed]⟩
    rw [refines.executor_eq, System.received, shutdown, Main.sent, receive_snoc, received,
      delivered]
  · have nodup : (Sender.main :: (List.range spawns.length).map Sender.task).Nodup :=
      List.nodup_cons.mpr ⟨by simp, (List.nodup_range _).map fun _ _ same => Sender.task.inj same⟩
    have covered :
        ∀ e ∈ s.log, e.1 ∈ Sender.main :: (List.range spawns.length).map Sender.task := by
      intro e member
      rcases accounted.senders e member with sender | ⟨i, lt, sender⟩
      · simp [sender]
      · simp [sender, ← length, lt]
    refine (perm_projections nodup s.log covered).trans ?_
    rw [List.flatMap_cons, List.flatMap_map, main]
    simp only [tasks]
    rw [← List.length_map spawns Spawn.program, flatMap_range_getD]

theorem count_counters (requests : List Request) (name : String) :
    (requests.flatMap fun r => r.counter.toList).count name =
      requests.countP fun r => r.counter = some name := by
  induction requests with
  | nil => rfl
  | cons r rs ih =>
    rcases counter : r.counter with _ | c
    · simp [counter, ih]
    · by_cases same : c = name <;> simp [counter, ih, same, List.count_cons, List.countP_cons]

theorem countP_counter_of_all {requests : List Request} {counter : String}
    (all : ∀ r ∈ requests, r.counter = some counter) (name : String) :
    (requests.countP fun r => r.counter = some name) =
      if counter = name then requests.length else 0 := by
  split
  · exact List.countP_eq_length.mpr fun r member => by simp [all r member, *]
  · exact List.countP_eq_zero.mpr fun r member => by simp [all r member, *]

/-- Once `main` has returned, each progress counter holds how many of the requests received
were counted on it, whichever task sent them and whether or not their statements ran. -/
theorem Accounted.counterValue_eq (single : ∀ b ∈ txBulk, b.val = 1)
    (refines : Refines txBulk s) (accounted : Accounted spawns s)
    (returned : ∀ rest, s.main ≠ .spawning rest) (name : String) :
    counterValue s.incs name =
      ((spawns.filterMap Spawn.create ++ (spawns.map Spawn.program).flatMap sends).countP
        fun r => r.counter = some name) % 2 ^ 64 := by
  obtain ⟨-, -, perm, -⟩ := accounted.finished single refines returned
  have incs : s.incs = (s.log.map Prod.snd).flatMap fun r => r.counter.toList := by
    rw [refines.incs_eq, List.flatMap_map]
  rw [counterValue, incs, count_counters, perm.countP_eq]

/-- With `--sqlite-tx-bulk` absent or `1`, and a `CREATE TABLE` that SQLite accepts from
each processor's `new`: whatever the interleaving, once `main` has returned it has returned
`Ok`, and the DB file it promoted holds the statements that ran of the requests received,
in the order received.  These requests are a permutation of `main`'s `CREATE TABLE`s and of
everything each task sends when every answer is its statement's own result, and each
sender's come in its own order: no request is lost or received twice, and what a task
sends does not depend on the schedule. -/
theorem run_promotes_every_request (txBulk : Option U16) (single : ∀ b ∈ txBulk, b.val = 1)
    (spawns : List Spawn)
    (accepted : ∀ spawn ∈ spawns, ∃ create, spawn.create = some create ∧ create.stmt.ran)
    (schedule : List System.Choice)
    (returned : ∀ rest, ((init txBulk spawns).run schedule).main ≠ .spawning rest) :
    let s := (init txBulk spawns).run schedule
    s.main = .shutdown true ∧
      (∃ executor, s.executor = some executor ∧
        executor.promoted = some (s.log.flatMap fun e => e.2.stmt.ranQueries)) ∧
      (s.log.map Prod.snd).Perm
        (spawns.filterMap Spawn.create ++ (spawns.map Spawn.program).flatMap sends) ∧
      project .main s.log = spawns.filterMap Spawn.create ∧
      ∀ i, project (.task i) s.log = sends ((spawns.map Spawn.program).getD i []) :=
  have invariants := accounted_run single accepted schedule
  invariants.2.finished single invariants.1 returned

def oneRowSpawns : List Spawn :=
  [⟨some (createTableRequest metaAccountTable),
    [.send ⟨false, ⟨insertMetaAccountQuery, true, true⟩, [], some metaAccountTable⟩ false]⟩]

theorem oneRow_promotes_every_request :
    let s := (init none oneRowSpawns).run [.main, .task 0, .main]
    s.main = .shutdown true ∧
      (∃ executor, s.executor = some executor ∧
        executor.promoted = some (s.log.flatMap fun e => e.2.stmt.ranQueries)) ∧
      (s.log.map Prod.snd).Perm
        (oneRowSpawns.filterMap Spawn.create ++ (oneRowSpawns.map Spawn.program).flatMap sends) ∧
      project .main s.log = oneRowSpawns.filterMap Spawn.create ∧
      ∀ i, project (.task i) s.log = sends ((oneRowSpawns.map Spawn.program).getD i []) :=
  run_promotes_every_request none nofun oneRowSpawns
    (fun _ member => by cases List.mem_singleton.mp member; exact ⟨_, rfl, rfl⟩)
    [.main, .task 0, .main] (fun _ returned => by cases returned)

end Safe


/-- The processors in the order `main` starts them, each with the counters `main` hands it:
the token processor counts its metadata rows on the `account` counter, and the mint
processor its rows on the `token_account` counter. -/
def mainSpawns (lib : Libraries) (bank : Bank) (filters : Filters) (currentTs : Int) :
    List Spawn :=
  [⟨some (createTableRequest metaAccountTable),
      ProcessorAccountOwners.process lib bank ⟨filters.accountOwners, metaAccountTable⟩⟩,
    ⟨some (createTableRequest tokenAccountTable),
      ProcessorToken.process lib bank ⟨filters.accountMints, metaAccountTable, tokenAccountTable⟩⟩,
    ⟨some (createTableRequest tokenMintTable),
      ProcessorMint.process lib bank ⟨filters.accountMints, tokenAccountTable⟩⟩,
    match ProcessorVeMnde.new lib filters veMndeAccountTable currentTs with
    | some processor => ⟨some (createTableRequest veMndeAccountTable), processor.process lib bank⟩
    | none => ⟨none, []⟩,
    match ProcessorNativeStake.new lib nativeStakeAccountTable with
    | some processor =>
      ⟨some (createTableRequest nativeStakeAccountTable), processor.process lib bank⟩
    | none => ⟨none, []⟩,
    ⟨some (createTableRequest tokenMetadataAccountTable),
      ProcessorTokenMetadata.process lib bank ⟨tokenMetadataAccountTable⟩⟩]

def registrarOnly : Libraries where
  display _ := ""
  fromStr _ := .ok ⟨0, by decide⟩
  sqlite := ⟨fun _ => true, fun _ _ => true⟩
  splTokenId := ⟨0, by decide⟩
  tokenMetadataId := ⟨0, by decide⟩
  unpackAccount _ := none
  unpackMint _ := none
  safeDeserialize _ := none
  deserializeRegistrar _ := some Processors.Vemnde.baselineRegistrar
  deserializeVoter _ := none
  generateStakeMetaCollection _ := some []

/-- With `--sqlite-tx-bulk` absent or `1`, a registrar that deserializes and addresses that
parse: once `main` has returned, the `token_account` counter `Stats` prints counts the token
rows the token processor sent and every row the mint processor sent, whether or not SQLite
ran them, as `main` hands the mint processor the token counter. -/
theorem mainSpawns_tokenAccount_counter (lib : Libraries) (bank : Bank) (filters : Filters)
    (currentTs : Int) (txBulk : Option U16) (single : ∀ b ∈ txBulk, b.val = 1)
    (vemnde : (ProcessorVeMnde.new lib filters veMndeAccountTable currentTs).isSome)
    (nativeStake : (ProcessorNativeStake.new lib nativeStakeAccountTable).isSome)
    (schedule : List System.Choice)
    (returned : ∀ rest,
      ((init txBulk (mainSpawns lib bank filters currentTs)).run schedule).main ≠ .spawning rest) :
    counterValue ((init txBulk (mainSpawns lib bank filters currentTs)).run schedule).incs
        tokenAccountTable =
      ((sends (ProcessorToken.process lib bank
          ⟨filters.accountMints, metaAccountTable, tokenAccountTable⟩)).countP
          (fun r => r.counter = some tokenAccountTable) +
        (sends (ProcessorMint.process lib bank
          ⟨filters.accountMints, tokenAccountTable⟩)).length) % 2 ^ 64 := by
  obtain ⟨vemndeProcessor, vemndeNew⟩ := Option.isSome_iff_exists.mp vemnde
  obtain ⟨nativeProcessor, nativeNew⟩ := Option.isSome_iff_exists.mp nativeStake
  have accepted : ∀ spawn ∈ mainSpawns lib bank filters currentTs,
      ∃ create, spawn.create = some create ∧ create.stmt.ran := by
    simp [mainSpawns, vemndeNew, nativeNew, createTableRequest,
      DbConnection.SQLiteExecutor.createTable, Statement.ran]
  have invariants := accounted_run single accepted schedule
  rw [invariants.2.counterValue_eq single invariants.1 returned]
  obtain ⟨owners, mint, vemndeRows, nativeRows, metadataRows⟩ := counter_of_mem_sends lib bank
  simp only [mainSpawns, vemndeNew, nativeNew]
  simp [createTableRequest, List.countP_append, countP_counter_of_all (owners _),
    ProcessorVeMnde.vemndeCounter_of_new lib vemndeNew,
    ProcessorNativeStake.nativeStakeCounter_of_new lib nativeNew, countP_counter_of_all (mint _),
    countP_counter_of_all (vemndeRows _), countP_counter_of_all (nativeRows _),
    countP_counter_of_all (metadataRows _), metaAccountTable, tokenAccountTable,
    veMndeAccountTable, nativeStakeAccountTable, tokenMetadataAccountTable]

theorem emptyBank_tokenAccount_counter :
    counterValue ((init none (mainSpawns registrarOnly ⟨[]⟩ ⟨[], [], []⟩ 0)).run
        (List.replicate 7 .main)).incs tokenAccountTable =
      ((sends (ProcessorToken.process registrarOnly ⟨[]⟩
          ⟨[], metaAccountTable, tokenAccountTable⟩)).countP
          (fun r => r.counter = some tokenAccountTable) +
        (sends (ProcessorMint.process registrarOnly ⟨[]⟩ ⟨[], tokenAccountTable⟩)).length) %
        2 ^ 64 :=
  mainSpawns_tokenAccount_counter registrarOnly ⟨[]⟩ ⟨[], [], []⟩ 0 none nofun rfl rfl
    (List.replicate 7 .main) (fun _ returned => by cases returned)

end SnapshotParser.TokensCli
