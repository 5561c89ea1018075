import Mathlib.Algebra.BigOperators.Pi
import Mathlib.Data.Fintype.Basic
import SampleGrpc.Interaction.Tally
import SampleGrpc.Auth.SignIn
import SampleGrpc.Server.Logging

/-!
# The greeter service

`Echo` of `main.go` behind the two interceptors, and `WriteEchoRequest` of `internal/db/db.go`. The
messages, the records and the table are the greeter's own; the log holds its records only.

* `serveEcho_tallies` — what a call adds to the table and to the log, whatever happens.
* `echo_settled` — what any number of calls leave there.
-/

namespace SampleGrpc.Greeter

open Prog

/-! ## Messages and records -/

structure EchoRequest where
  message : String
  deriving DecidableEq

structure EchoReply where
  message : String
  deriving DecidableEq

/-- The value of an attribute. -/
inductive Attr where
  | text (s : String)
  | request (req : EchoRequest)
  | response (reply : EchoReply)
  | dbError (err : DbError)
  | status (st : Status)
  | duration (d : ℕ)
  deriving DecidableEq

structure LogRecord where
  level : Level
  msg : String
  attrs : List (String × Attr)
  deriving DecidableEq

/-! ## The table -/

/-- A row of the `echo_requests` table. -/
structure EchoRequestRow where
  id : ℕ
  message : String
  createdAt : Time
  deriving DecidableEq

/-- The `echo_requests` table, and the number its sequence gives next. -/
structure EchoRequests where
  rows : List EchoRequestRow
  nextID : ℕ
  sorted : rows.Pairwise (·.id < ·.id)
  lt_next : ∀ r ∈ rows, r.id < nextID

/-- The INSERT; `skipped` numbers have been drawn by INSERTs that failed. -/
def EchoRequests.insert (t : EchoRequests) (message : String) (now : Time) (skipped : ℕ) :
    EchoRequests where
  rows := t.rows ++ [⟨t.nextID + skipped, message, now⟩]
  nextID := t.nextID + skipped + 1
  sorted := by
    rw [List.pairwise_append]
    refine ⟨t.sorted, List.pairwise_singleton _ _, fun r hr r' hr' => ?_⟩
    obtain rfl := List.mem_singleton.mp hr'
    exact Nat.lt_of_lt_of_le (t.lt_next r hr) (Nat.le_add_right _ _)
  lt_next := by
    intro r hr
    rcases List.mem_append.mp hr with hr | hr
    · have hlt := t.lt_next r hr
      omega
    · obtain rfl := List.mem_singleton.mp hr
      exact Nat.lt_succ_self _

/-! ## Actions -/

inductive Action where
  /-- `INSERT INTO echo_requests … RETURNING id` -/
  | insertEchoRequest (message : String)
  | timeNow
  | write (r : LogRecord)

def Action.Reply : Action → Type
  | .insertEchoRequest _ => Except DbError Unit
  | .timeNow => Time
  | .write _ => Unit

abbrev GreeterSrv (α : Type) := Prog Action Action.Reply α

structure Env where
  now : Time
  fault : Option DbError
  skipped : ℕ

/-- The table and the log. -/
structure World where
  table : EchoRequests
  log : List LogRecord

/-- An INSERT fails and changes nothing, or adds its row. -/
def exec (e : Env) : (q : Action) → World → q.Reply × World
  | .insertEchoRequest message, w =>
    match e.fault with
    | some err => (.error err, w)
    | none => (.ok (), { w with table := w.table.insert message e.now e.skipped })
  | .timeNow, w => (e.now, w)
  | .write r, w => ((), { w with log := w.log ++ [r] })

def write (r : LogRecord) : GreeterSrv Unit := .perform (Action.write r)

def timeNow : GreeterSrv Time := .perform Action.timeNow

/-- `Create(&EchoRequest{Message: message})` -/
def writeEchoRequest (message : String) : GreeterSrv (Except DbError Unit) :=
  .perform (Action.insertEchoRequest message)

/-! ## The service -/

def emptyMessage : LogRecord := ⟨.warn, "Echo called with empty message", []⟩

def writeFailed (err : DbError) : LogRecord :=
  ⟨.error, "failed to write echo request to db", [("error", .dbError err)]⟩

/-- A message that cannot be stored is echoed all the same. -/
def echo (req : EchoRequest) : GreeterSrv (Except Status EchoReply) := do
  if req.message = "" then write emptyMessage
  let reply : EchoReply := { message := req.message }
  match ← writeEchoRequest req.message with
  | .error err =>
    write (writeFailed err)
    return .ok reply
  | .ok () => return .ok reply

def requestReceived (info : UnaryServerInfo) (req : EchoRequest) : LogRecord :=
  ⟨.info, "request received", [("method", .text info.fullMethod), ("request", .request req)]⟩

/-- The record of a call that is done. -/
def requestDone (info : UnaryServerInfo) (duration : ℕ) : Except Status EchoReply → LogRecord
  | .error st =>
    if st.code = .internal then
      ⟨.error, "request failed", [("method", .text info.fullMethod), ("code", .text st.code.name),
        ("error", .status st), ("duration", .duration duration)]⟩
    else
      ⟨.warn, "request completed with non-OK status", [("method", .text info.fullMethod),
        ("code", .text st.code.name), ("error", .status st), ("duration", .duration duration)]⟩
  | .ok resp =>
    ⟨.info, "request completed", [("method", .text info.fullMethod), ("response", .response resp),
      ("duration", .duration duration)]⟩

/-- The interceptor of `main.go`, at the messages of this service. -/
def loggingInterceptor (req : EchoRequest) (info : UnaryServerInfo)
    (handler : EchoRequest → GreeterSrv (Except Status EchoReply)) :
    GreeterSrv (Except Status EchoReply) := do
  let start ← timeNow
  write (requestReceived info req)
  let resp ← handler req
  let now ← timeNow
  write (requestDone info (now - start) resp)
  return resp

def echoInfo : UnaryServerInfo := ⟨"/greeter.Greeter/Echo"⟩

/-- A call of `Echo`: the auth interceptor first, logging inside it. -/
def serveEcho (J : GolangJwt) (env : Environ) (now : Time) (ctx : Context) (req : EchoRequest) :
    GreeterSrv (Except Status EchoReply) :=
  unaryAuthInterceptor J env now ctx req echoInfo fun _ req => loggingInterceptor req echoInfo echo

/-- Whoever calls, the call gets through. -/
theorem serveEcho_eq (J : GolangJwt) (env : Environ) (now : Time) (ctx : Context)
    (req : EchoRequest) : serveEcho J env now ctx req = loggingInterceptor req echoInfo echo := by
  have hpub : echoInfo.fullMethod ∈ publicRPCs := by decide
  rw [serveEcho, unaryAuthInterceptor, if_pos hpub]

/-! ## What a call adds -/

/-- The record without the time a call took and the text of a database error. -/
def LogRecord.outline (r : LogRecord) : LogRecord :=
  { r with attrs := r.attrs.map fun kv => (kv.1, match kv.2 with
    | .duration _ => .duration 0
    | .dbError _ => .dbError ⟨none, ""⟩
    | a => a) }

/-- The messages stored and the records written, in any order. -/
abbrev Amounts := Multiset String × Multiset LogRecord

def World.amounts (w : World) : Amounts :=
  (↑(w.table.rows.map EchoRequestRow.message), ↑(w.log.map LogRecord.outline))

/-- What an action adds, by its reply. -/
def Action.gain : (q : Action) → q.Reply → Amounts
  | .insertEchoRequest message, .ok () => ({message}, 0)
  | .insertEchoRequest _, .error _ => 0
  | .timeNow, _ => 0
  | .write r, _ => (0, {r.outline})

@[simp] theorem gain_timeNow (r : Action.timeNow.Reply) : Action.timeNow.gain r = 0 := rfl

@[simp] theorem gain_write (r : LogRecord) (u : (Action.write r).Reply) :
    (Action.write r).gain u = (0, {r.outline}) := rfl

theorem exec_amounts (e : Env) (q : Action) (w : World) :
    (exec e q w).2.amounts = w.amounts + q.gain (exec e q w).1 := by
  cases q with
  | insertEchoRequest message =>
    cases hfault : e.fault with
    | some err => simp [exec, hfault, Action.gain]
    | none =>
      simp only [exec, hfault, World.amounts, EchoRequests.insert, Action.gain, Prod.mk_add_mk,
        List.map_append, List.map_cons, List.map_nil, add_zero]
      rfl
  | timeNow => simp [exec, Action.gain]
  | write r =>
    simp only [exec, World.amounts, Action.gain, Prod.mk_add_mk, List.map_append, List.map_cons,
      List.map_nil, add_zero]
    rfl

/-- The warning about an empty message. -/
def warned (req : EchoRequest) : Multiset LogRecord :=
  if req.message = "" then {emptyMessage.outline} else 0

/-- The record of a message that is not stored. -/
def failedRecord : LogRecord := (writeFailed ⟨none, ""⟩).outline

/-- `Echo` after its warning. -/
def storeAndReply (req : EchoRequest) : GreeterSrv (Except Status EchoReply) := do
  match ← writeEchoRequest req.message with
  | .error err =>
    write (writeFailed err)
    return .ok ⟨req.message⟩
  | .ok () => return .ok ⟨req.message⟩

theorem echo_eq (req : EchoRequest) : echo req =
    (if req.message = "" then write emptyMessage else .ret ()) >>= fun _ => storeAndReply req := by
  unfold echo
  split <;> rfl

theorem warning_tallies (req : EchoRequest) :
    (if req.message = "" then write emptyMessage else .ret () : GreeterSrv Unit).Tallies
      Action.gain fun _ m => m = (0, warned req) := by
  unfold warned
  split
  · exact fun _ => add_zero _
  · rfl

theorem storeAndReply_tallies (req : EchoRequest) :
    (storeAndReply req).Tallies Action.gain fun res m =>
      res = .ok ⟨req.message⟩ ∧ (m = ({req.message}, 0) ∨ m = (0, {failedRecord})) := by
  intro r
  cases r with
  | error err =>
    intro _
    refine ⟨rfl, .inr ?_⟩
    simp [Action.gain, failedRecord, writeFailed, LogRecord.outline]
  | ok u => exact ⟨rfl, .inl (add_zero _)⟩

/-- `Echo` replies with its message, and stores it once or says that it is not stored. -/
theorem echo_tallies (req : EchoRequest) : (echo req).Tallies Action.gain fun res m =>
    res = .ok ⟨req.message⟩ ∧
      (m = ({req.message}, warned req) ∨ m = (0, warned req + {failedRecord})) := by
  rw [echo_eq]
  refine (warning_tallies req).bind fun _ m hm => ?_
  refine (storeAndReply_tallies req).mono fun res m' h => ⟨h.1, ?_⟩
  rw [hm]
  obtain h | h := h.2
  · exact .inl (by simp [h])
  · exact .inr (by simp [h])

/-- The records of a call whose message is stored. -/
def storedRecords (req : EchoRequest) : Multiset LogRecord :=
  {(requestReceived echoInfo req).outline} + warned req +
    {(requestDone echoInfo 0 (.ok ⟨req.message⟩)).outline}

/-- The call has echoed its message, and stored it once or said that it is not stored. -/
def Settled (req : EchoRequest) (res : Except Status EchoReply) (m : Amounts) : Prop :=
  res = .ok ⟨req.message⟩ ∧
    (m = ({req.message}, storedRecords req) ∨ m = (0, storedRecords req + {failedRecord}))

theorem Settled.fst {req : EchoRequest} {res : Except Status EchoReply} {m : Amounts}
    (h : Settled req res m) : m.1 = if m.1 ≠ 0 then {req.message} else 0 := by
  obtain ⟨-, rfl | rfl⟩ := h <;> simp

theorem Settled.snd {req : EchoRequest} {res : Except Status EchoReply} {m : Amounts}
    (h : Settled req res m) :
    m.2 = storedRecords req + if m.1 ≠ 0 then 0 else {failedRecord} := by
  obtain ⟨-, rfl | rfl⟩ := h <;> simp

theorem outline_requestDone (d : ℕ) (reply : EchoReply) :
    (requestDone echoInfo d (.ok reply)).outline = (requestDone echoInfo 0 (.ok reply)).outline :=
  rfl

/-- **What a call adds**, whoever makes it, whenever it moves and whether its INSERT fails. -/
theorem serveEcho_tallies (J : GolangJwt) (env : Environ) (now : Time) (ctx : Context)
    (req : EchoRequest) : (serveEcho J env now ctx req).Tallies Action.gain (Settled req) := by
  rw [serveEcho_eq]
  intro start _
  refine (echo_tallies req).bind fun res m h => ?_
  obtain ⟨rfl, hm⟩ := h
  intro done _
  refine ⟨rfl, ?_⟩
  simp only [gain_timeNow, gain_write, outline_requestDone, zero_add, add_zero, storedRecords]
  obtain rfl | rfl := hm
  · refine .inl ?_
    simp
  · refine .inr ?_
    simp only [Prod.mk_add_mk, add_zero]
    congr 1
    ac_rfl

/-! ## Many calls -/

section Pools

variable {ι : Type} {J : GolangJwt} {env : Environ} {now : ι → Time} {ctx : ι → Context}
  {req : ι → EchoRequest}

/-- The calls, none of which has started. -/
def calls (J : GolangJwt) (env : Environ) (now : ι → Time) (ctx : ι → Context)
    (req : ι → EchoRequest) (w : World) :
    Pool ι Action Action.Reply (Except Status EchoReply) World where
  thread i := serveEcho J env (now i) (ctx i) (req i)
  state := w

/-- **Every call is settled.** Any number of calls, from anyone, interleaved in whatever order and
with whatever INSERTs failing: a call that is answered, whether the others are or not, is answered
with its own message; and when all are answered, the table has grown by the messages of some of
them, once each, and the log by the records of all, and one error for each that is not stored. -/
theorem echo_settled [Fintype ι] [DecidableEq ι] {w : World} {sched : List (ι × Env)} :
    (∀ i res, (Pool.exec exec (calls J env now ctx req w) sched).Returned i res →
      res = .ok ⟨(req i).message⟩) ∧
    ((∀ i, ∃ res, (Pool.exec exec (calls J env now ctx req w) sched).Returned i res) →
      ∃ stored : Finset ι, (Pool.exec exec (calls J env now ctx req w) sched).state.amounts =
        w.amounts + (stored.val.map fun i => (req i).message,
          ∑ i, storedRecords (req i) + storedᶜ.card • {failedRecord})) := by
  obtain ⟨paid, hamounts, hreturned⟩ := Pool.exec_tally exec_amounts
    (c := calls J env now ctx req w)
    (fun i => serveEcho_tallies J env (now i) (ctx i) (req i)) sched
  refine ⟨fun i res hres => (hreturned i res hres).1,
    fun hdone => ⟨Finset.univ.filter fun i => (paid i).1 ≠ 0, ?_⟩⟩
  · have hsettled (i : ι) : ∃ res, Settled (req i) res (paid i) := by
      obtain ⟨res, hres⟩ := hdone i
      exact ⟨res, hreturned i res hres⟩
    rw [hamounts]
    congr 1
    refine Prod.ext ?_ ?_
    · rw [Prod.fst_sum, Finset.sum_congr rfl fun i _ => (hsettled i).choose_spec.fst,
        ← Finset.sum_filter, ← Multiset.sum_map_singleton (Multiset.map _ _), Multiset.map_map]
      rfl
    · rw [Prod.snd_sum, Finset.sum_congr rfl fun i _ => (hsettled i).choose_spec.snd,
        Finset.sum_add_distrib, Finset.compl_filter, ← Finset.sum_const, Finset.sum_filter]
      congr 1
      exact Finset.sum_congr rfl fun i _ => by simp only [ite_not]

end Pools

namespace Sample

def empty : World := ⟨⟨[], 1, .nil, by simp⟩, []⟩

def env : Env := ⟨0, none, 0⟩

def fault : Env := { env with fault := some ⟨none, "connection refused"⟩ }

/-- Two calls in turn; the INSERT of the one without a message fails. -/
def inTurn : List (Bool × Env) :=
  [(true, env), (false, env), (true, env), (false, env), (true, env), (false, env), (true, env),
    (false, fault), (true, env), (false, env), (false, env), (false, env)]

def requests : Bool → EchoRequest
  | true => ⟨"hello"⟩
  | false => ⟨""⟩

end Sample

theorem echo_settled_two : ∃ stored : Finset Bool,
    (Pool.exec exec (calls SampleGrpc.Sample.jwt SampleGrpc.Sample.environ (fun _ => 0)
      (fun _ => ⟨none, none⟩) Sample.requests Sample.empty) Sample.inTurn).state.amounts =
    Sample.empty.amounts + (stored.val.map fun i => (Sample.requests i).message,
      ∑ i, storedRecords (Sample.requests i) + storedᶜ.card • {failedRecord}) := by
  refine echo_settled.2 fun i => ?_
  cases i with
  | false => exact ⟨.ok ⟨""⟩, by decide +kernel⟩
  | true => exact ⟨.ok ⟨"hello"⟩, by decide +kernel⟩

end SampleGrpc.Greeter
