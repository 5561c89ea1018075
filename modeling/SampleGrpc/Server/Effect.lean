import SampleGrpc.Interaction.Prog
import SampleGrpc.Db.Postgres
import SampleGrpc.Auth.Jwks
import SampleGrpc.Auth.Session

/-!
# What the server does to the world

The actions of the server's handlers: SQL statements, clock readings, the JWKS download, random
draws and log lines. Handlers are programs over these actions (`Srv`), so that one definition
serves a handler run alone and any interleaving of handlers at statement granularity.

`exec` gives the actions their meaning on the users table. The environment (`Env`) supplies the
rest at each action: the database, the time, the UUID that an INSERT draws, the fault, if any, with
which a statement fails, the answer of the JWKS URL and the random number. A statement that fails
leaves the table as it was. Text that the database refuses (a NUL byte) is one such fault.
-/

namespace SampleGrpc

/-- An argument of a log line. -/
inductive LogArg where
  | text (s : String)
  | json (v : Option Json)
  | jwks (err : JwksError)
  | auth (err : AuthError)

inductive Effect where
  | sql (q : Stmt)
  | timeNow
  | httpGet (url : String)
  | randIntN (n : Nat) (hn : 0 < n)
  | logPrintf (format : String) (args : List LogArg)

def Effect.Reply : Effect → Type
  | .sql q => Except DbError q.Result
  | .timeNow => Time
  | .httpGet _ => HttpReply
  | .randIntN n _ => Fin n
  | .logPrintf _ _ => Unit

/-- A handler of the server. -/
abbrev Srv (α : Type) := Prog Effect Effect.Reply α

structure Env where
  now : Time
  newID : Uuid
  fault : Option DbError
  http : String → HttpReply
  rand : Nat
  db : Postgres := .table

/-- A statement, with the fault that strikes it. -/
def execSql (e : Env) (q : Stmt) (t : UsersTable) : Except DbError q.Result × UsersTable :=
  match e.fault with
  | some err => (.error err, t)
  | none =>
    match e.db.query t e.now e.newID q with
    | .error err => (.error err, t)
    | .ok (r, t') => (.ok r, t')

def exec (e : Env) : (q : Effect) → UsersTable → q.Reply × UsersTable
  | .sql q, t => execSql e q t
  | .timeNow, t => (e.now, t)
  | .httpGet url, t => (e.http url, t)
  | .randIntN _ hn, t => (⟨e.rand % _, Nat.mod_lt _ hn⟩, t)
  | .logPrintf _ _, t => ((), t)

/-! ## The actions as programs -/

def selectFirst (conds : List Condition) : Srv (Except DbError (Option User)) :=
  .perform (Effect.sql (.selectFirst conds))

def insertUser (u : UserFields) : Srv (Except DbError User) := .perform (Effect.sql (.insert u))

def updateUsers (conds : List Condition) (set : List Column) : Srv (Except DbError Time) :=
  .perform (Effect.sql (.update conds set))

def selectAll : Srv (Except DbError (List User)) := .perform (Effect.sql .selectAll)

def timeNow : Srv Time := .perform Effect.timeNow

def httpGet (url : String) : Srv HttpReply := .perform (Effect.httpGet url)

def randIntN (n : Nat) (hn : 0 < n) : Srv (Fin n) := .perform (Effect.randIntN n hn)

def logPrintf (format : String) (args : List LogArg) : Srv Unit :=
  .perform (Effect.logPrintf format args)

section Bind

variable {α : Type}

@[simp] theorem selectFirst_bind (conds : List Condition) (f : _ → Srv α) :
    selectFirst conds >>= f = .act (.sql (.selectFirst conds)) f := rfl

@[simp] theorem insertUser_bind (u : UserFields) (f : _ → Srv α) :
    insertUser u >>= f = .act (.sql (.insert u)) f := rfl

@[simp] theorem updateUsers_bind (conds : List Condition) (set : List Column) (f : _ → Srv α) :
    updateUsers conds set >>= f = .act (.sql (.update conds set)) f := rfl

@[simp] theorem selectAll_bind (f : _ → Srv α) : selectAll >>= f = .act (.sql .selectAll) f := rfl

@[simp] theorem timeNow_bind (f : _ → Srv α) : timeNow >>= f = .act .timeNow f := rfl

@[simp] theorem httpGet_bind (url : String) (f : _ → Srv α) :
    httpGet url >>= f = .act (.httpGet url) f := rfl

@[simp] theorem randIntN_bind (n : Nat) (hn : 0 < n) (f : _ → Srv α) :
    randIntN n hn >>= f = .act (.randIntN n hn) f := rfl

@[simp] theorem logPrintf_bind (format : String) (args : List LogArg) (f : _ → Srv α) :
    logPrintf format args >>= f = .act (.logPrintf format args) f := rfl

end Bind

/-! ## What an action does to the table -/

/-- A statement fails and changes nothing, or has the effect of its query. -/
theorem execSql_cases (e : Env) (q : Stmt) (t : UsersTable) :
    (∃ err, execSql e q t = (.error err, t)) ∨
      ∃ r t', e.fault = none ∧ t.query e.now e.newID q = .ok (r, t') ∧
        execSql e q t = (.ok r, t') := by
  unfold execSql
  rw [e.db.query_eq]
  cases hf : e.fault with
  | some err => exact .inl ⟨err, rfl⟩
  | none =>
    cases hq : t.query e.now e.newID q with
    | error err => exact .inl ⟨err, rfl⟩
    | ok x => exact .inr ⟨x.1, x.2, rfl, rfl, rfl⟩

theorem execSql_of_query {e : Env} {q : Stmt} {t t' : UsersTable} {r : q.Result}
    (hfault : e.fault = none) (h : t.query e.now e.newID q = .ok (r, t')) :
    execSql e q t = (.ok r, t') := by
  simp only [execSql, hfault, e.db.query_eq, h]

/-- A SELECT that no fault strikes. -/
theorem exec_selectFirst {e : Env} {conds : List Condition} (hfault : e.fault = none)
    (hconds : conds.findSome? Condition.invalidText = none) (t : UsersTable) :
    exec e (.sql (.selectFirst conds)) t = (.ok (t.first conds), t) :=
  execSql_of_query hfault (t.query_selectFirst_ok e.now e.newID conds hconds)

end SampleGrpc
