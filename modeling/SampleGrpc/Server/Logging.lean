import SampleGrpc.Interaction.Alike
import SampleGrpc.Auth.Requests

/-!
# The logging interceptor

`loggingInterceptor` of `main.go`, inside the auth interceptor: a record when a request arrives and
one when it is done. A record holds the message that `%+v` prints, not the text; every field of a
message is in its text.

A server with its log is a program over the server's actions and the writing of records.

Main result: `play_loggingInterceptor`, what a logged call returns, leaves in the table and logs.
-/

namespace SampleGrpc

open Prog

/-! ## Records -/

inductive Level where
  | info
  | warn
  | error
  deriving DecidableEq

/-- The value of an attribute. -/
inductive Attr where
  | text (s : String)
  | request (req : Request)
  | response (resp : Response)
  | error (st : Status)
  | duration (d : ℕ)
  deriving DecidableEq

/-- A line of the log, from `slog` or from `log.Printf`. -/
inductive LogRecord where
  | slog (level : Level) (msg : String) (attrs : List (String × Attr))
  | printf (format : String) (args : List LogArg)

/-- `codes.Code.String` -/
def Code.name : Code → String
  | .invalidArgument => "InvalidArgument"
  | .notFound => "NotFound"
  | .alreadyExists => "AlreadyExists"
  | .permissionDenied => "PermissionDenied"
  | .unauthenticated => "Unauthenticated"
  | .internal => "Internal"

/-! ## A server with its log -/

inductive LogEffect where
  | server (q : Effect)
  | write (r : LogRecord)

def LogEffect.Reply : LogEffect → Type
  | .server q => q.Reply
  | .write _ => Unit

abbrev LoggedSrv (α : Type) := Prog LogEffect LogEffect.Reply α

/-- The users table and the log. -/
structure Logged where
  table : UsersTable
  log : List LogRecord

/-- The line an action writes. -/
def Effect.records : Effect → List LogRecord
  | .logPrintf format args => [.printf format args]
  | _ => []

def execLogged (e : Env) : (q : LogEffect) → Logged → q.Reply × Logged
  | .server q, s => ((exec e q s.table).1, ⟨(exec e q s.table).2, s.log ++ q.records⟩)
  | .write r, s => ((), ⟨s.table, s.log ++ [r]⟩)

/-- A handler, on a server with a log. -/
def liftLogged {α : Type} : Srv α → LoggedSrv α
  | .ret a => .ret a
  | .act q k => .act (.server q) fun r => liftLogged (k r)

def writeRecord (r : LogRecord) : LoggedSrv Unit := .perform (LogEffect.write r)

def readClock : LoggedSrv Time := .perform (LogEffect.server .timeNow)

@[simp] theorem writeRecord_bind {α : Type} (r : LogRecord) (f : Unit → LoggedSrv α) :
    writeRecord r >>= f = .act (.write r) f := rfl

@[simp] theorem readClock_bind {α : Type} (f : Time → LoggedSrv α) :
    readClock >>= f = .act (.server .timeNow) f := rfl

/-! ## The interceptor -/

def requestReceived (info : UnaryServerInfo) (req : Request) : LogRecord :=
  .slog .info "request received" [("method", .text info.fullMethod), ("request", .request req)]

/-- The record of a call that is done. Of the two codes that log an error, handlers return one. -/
def requestDone (info : UnaryServerInfo) (duration : ℕ) :
    Except Status Response → LogRecord
  | .error st =>
    if st.code = .internal then
      .slog .error "request failed" [("method", .text info.fullMethod),
        ("code", .text st.code.name), ("error", .error st), ("duration", .duration duration)]
    else
      .slog .warn "request completed with non-OK status" [("method", .text info.fullMethod),
        ("code", .text st.code.name), ("error", .error st), ("duration", .duration duration)]
  | .ok resp =>
    .slog .info "request completed" [("method", .text info.fullMethod),
      ("response", .response resp), ("duration", .duration duration)]

def loggingInterceptor (ctx : Context) (req : Request) (info : UnaryServerInfo)
    (handler : Context → Request → Srv (Except Status Response)) :
    LoggedSrv (Except Status Response) := do
  let start ← readClock
  writeRecord (requestReceived info req)
  let resp ← liftLogged (handler ctx req)
  let now ← readClock
  writeRecord (requestDone info (now - start) resp)
  return resp

/-- A request at the server with its log: the auth interceptor first, logging inside it. -/
def serveLogged (J : GolangJwt) (env : Environ) (s : Server) (now : Time) (ctx : Context)
    (req : Request) : LoggedSrv (Except Status Response) :=
  unaryAuthInterceptor J env now ctx req ⟨req.fullMethod⟩ fun ctx req =>
    loggingInterceptor ctx req ⟨req.fullMethod⟩ (handler J s)

/-! ## What it logs -/

/-- A handler runs on a server with a log as without one, and writes `log.Printf` lines only. -/
theorem play_liftLogged {α : Type} (p : Srv α) (es : ℕ → Env) (s : Logged) :
    ∃ lines, (∀ r ∈ lines, ∃ format args, r = .printf format args) ∧
      play execLogged (liftLogged p) es s =
        ((play exec p es s.table).1, ⟨(play exec p es s.table).2.1, s.log ++ lines⟩,
          (play exec p es s.table).2.2) := by
  induction p generalizing es s with
  | ret a => exact ⟨[], by simp, by simp [liftLogged]⟩
  | act q k ih =>
    obtain ⟨lines, hlines, hplay⟩ := ih (exec (es 0) q s.table).1 (fun i => es (i + 1))
      ⟨(exec (es 0) q s.table).2, s.log ++ q.records⟩
    refine ⟨q.records ++ lines, ?_, ?_⟩
    · intro r hr
      rcases List.mem_append.mp hr with hr | hr
      · cases q with
        | logPrintf format args => exact ⟨format, args, List.mem_singleton.mp hr⟩
        | _ => simp [Effect.records] at hr
      · exact hlines r hr
    · rw [← List.append_assoc]
      exact hplay

/-- The interceptor after the call. -/
def finishCall (info : UnaryServerInfo) (start : Time) (resp : Except Status Response) :
    LoggedSrv (Except Status Response) := do
  let now ← readClock
  writeRecord (requestDone info (now - start) resp)
  return resp

/-- The interceptor reads the clock and logs the request, then runs the handler. -/
theorem play_loggingInterceptor_eq (ctx : Context) (req : Request) (info : UnaryServerInfo)
    (handler : Context → Request → Srv (Except Status Response)) (es : ℕ → Env) (s : Logged) :
    play execLogged (loggingInterceptor ctx req info handler) es s =
      play execLogged (liftLogged (handler ctx req) >>= finishCall info (es 0).now)
        (fun i => es (i + 2)) ⟨s.table, s.log ++ [requestReceived info req]⟩ := by
  rw [← s.log.append_nil, List.append_assoc]
  show play execLogged (liftLogged (handler ctx req) >>= finishCall info (es 0).now)
    (fun i => es (i + 2)) ⟨s.table, s.log ++ [] ++ [requestReceived info req]⟩ = _
  rw [List.append_assoc]

/-- **A logged call is the call, with its records around the lines it prints.** -/
theorem play_loggingInterceptor (ctx : Context) (req : Request) (info : UnaryServerInfo)
    (handler : Context → Request → Srv (Except Status Response)) (es : ℕ → Env) (s : Logged) :
    ∃ lines duration rest, (∀ r ∈ lines, ∃ format args, r = .printf format args) ∧
      play execLogged (loggingInterceptor ctx req info handler) es s =
        ((play exec (handler ctx req) (fun i => es (i + 2)) s.table).1,
          ⟨(play exec (handler ctx req) (fun i => es (i + 2)) s.table).2.1,
            s.log ++ [requestReceived info req] ++ lines ++ [requestDone info duration
              (play exec (handler ctx req) (fun i => es (i + 2)) s.table).1]⟩, rest) := by
  obtain ⟨lines, hlines, hplay⟩ := play_liftLogged (handler ctx req) (fun i => es (i + 2))
    ⟨s.table, s.log ++ [requestReceived info req]⟩
  let rest := (play exec (handler ctx req) (fun i => es (i + 2)) s.table).2.2
  refine ⟨lines, (rest 0).now - (es 0).now, fun i => rest (i + 2), hlines, ?_⟩
  rw [play_loggingInterceptor_eq, play_bind, hplay]
  show (_, (⟨_, s.log ++ [requestReceived info req] ++ lines ++ [] ++ _⟩ : Logged), _) = _
  rw [List.append_nil]
  rfl

end SampleGrpc
