import SampleGrpc.Auth.Footprint

/-!
# Requests

The four methods of the auth service as one dispatcher. `handler` is the handler of a
request; `serve` is what the server does with it, the interceptor included.
-/

namespace SampleGrpc

inductive Request where
  | loginWithGoogle (idToken : String)
  | updateProfile (username : String)
  | getCurrentUser
  | listUsers
  deriving DecidableEq

inductive Response where
  | session (r : SessionResponse)
  | user (u : PbUser)
  | users (us : List PbUser)
  deriving DecidableEq

def Request.fullMethod : Request → String
  | .loginWithGoogle _ => "/greeter.AuthService/LoginWithGoogle"
  | .updateProfile _ => "/greeter.AuthService/UpdateProfile"
  | .getCurrentUser => "/greeter.AuthService/GetCurrentUser"
  | .listUsers => "/greeter.AuthService/ListUsers"

def handler (J : GolangJwt) (s : Server) (ctx : Context) :
    Request → Srv (Except Status Response)
  | .loginWithGoogle idToken => do return (← loginWithGoogle J s idToken).map .session
  | .updateProfile username => do return (← updateProfile ctx username).map .user
  | .getCurrentUser => do return (← getCurrentUser ctx).map .user
  | .listUsers => do return (← listUsers).map .users

/-- A request at the server: the interceptor, around the handler. -/
def serve (J : GolangJwt) (env : Environ) (s : Server) (now : Time) (ctx : Context)
    (req : Request) : Srv (Except Status Response) :=
  unaryAuthInterceptor J env now ctx req ⟨req.fullMethod⟩ (handler J s)

theorem handler_uses (J : GolangJwt) (s : Server) (ctx : Context) (req : Request) :
    (handler J s ctx req).Uses RpcEffect := by
  cases req with
  | loginWithGoogle idToken => exact (loginWithGoogle_uses J s idToken).bind fun _ => trivial
  | updateProfile username => exact (updateProfile_uses ctx username).bind fun _ => trivial
  | getCurrentUser =>
    exact (Effect.ReadsOnly.rpc (getCurrentUser_uses ctx)).bind fun _ => trivial
  | listUsers => exact (Effect.ReadsOnly.rpc listUsers_uses).bind fun _ => trivial

/-- The server refuses a request or runs its handler, in the same context up to claims. -/
theorem serve_cases (J : GolangJwt) (env : Environ) (s : Server) (now : Time) (ctx : Context)
    (req : Request) :
    (∃ st, serve J env s now ctx req = .ret (.error st)) ∨
    (req.fullMethod ∈ publicRPCs ∧ serve J env s now ctx req = handler J s ctx req) ∨
    (req.fullMethod ∉ publicRPCs ∧ ∃ c, Authenticated J env now ctx c ∧
      (req.fullMethod ∉ adminRPCs ∨ c.isAdmin = true) ∧
        serve J env s now ctx req = handler J s (withClaims ctx c) req) := by
  rcases unaryAuthInterceptor_cases J env now ctx req ⟨req.fullMethod⟩
      (handler J s) with
    ⟨hpub, hrun⟩ | ⟨-, -, st, -, hrun⟩ | ⟨-, c, -, -, -, hrun⟩ | ⟨hpub, c, hc, hpass, hrun⟩
  · exact .inr (.inl ⟨hpub, hrun⟩)
  · exact .inl ⟨st, hrun⟩
  · exact .inl ⟨_, hrun⟩
  · exact .inr (.inr ⟨hpub, c, hc, hpass, hrun⟩)

/-- A request whose token is good enough for its method reaches the handler. -/
theorem serve_of_authenticated {J : GolangJwt} {env : Environ} (s : Server) {now : Time}
    {ctx : Context} {req : Request} {c : Claims} (hpub : req.fullMethod ∉ publicRPCs)
    (hauth : Authenticated J env now ctx c) (hadmin : c.isAdmin = true) :
    serve J env s now ctx req = handler J s (withClaims ctx c) req := by
  rw [serve, unaryAuthInterceptor, if_neg hpub, extractClaims_ok_iff.mpr hauth]
  exact if_neg fun hdenied => hdenied.2 hadmin

theorem serve_uses (J : GolangJwt) (env : Environ) (s : Server) (now : Time) (ctx : Context)
    (req : Request) : (serve J env s now ctx req).Uses RpcEffect := by
  rcases serve_cases J env s now ctx req with ⟨st, h⟩ | ⟨-, h⟩ | ⟨-, c, -, -, h⟩
  · rw [h]; trivial
  · rw [h]; exact handler_uses J s ctx req
  · rw [h]; exact handler_uses J s _ req

end SampleGrpc
