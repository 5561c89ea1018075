import SampleGrpc.Auth.Google
import SampleGrpc.Auth.Interceptor
import SampleGrpc.Auth.Usernames
import SampleGrpc.Db.Queries

/-!
# The auth service

`internal/auth/service.go`: the server's configuration and its four handlers, and `main` up to
the point where it serves. Handlers are programs over the server's actions; a handler that needs
claims reads them from the context the interceptor hands it.
-/

namespace SampleGrpc

def defaultJWKSURL : String := "https://www.googleapis.com/oauth2/v3/certs"

structure Server where
  jwtSecret : Bytes
  jwksURL : String
  googleClientID : String

def newServer (env : Environ) : Server :=
  let jwksURL := env.GOOGLE_JWKS_URL.getD ""
  { jwtSecret := env.jwtSecret
    jwksURL := if jwksURL = "" then defaultJWKSURL else jwksURL
    googleClientID := env.GOOGLE_CLIENT_ID.getD "" }

/-- `main`, given that the database and the port are there: it serves, unless `DATABASE_URL` is
missing. -/
def startServer (env : Environ) : Except String Server :=
  if env.DATABASE_URL.getD "" = "" then .error "DATABASE_URL environment variable is not set"
  else .ok (newServer env)

/-! ## Messages -/

structure PbUser where
  id : String
  email : String
  displayName : String
  username : String
  pictureUrl : String
  isAdmin : Bool
  deriving DecidableEq

structure SessionResponse where
  jwt : String
  user : PbUser
  deriving DecidableEq

def userToProto (u : User) : PbUser :=
  { id := u.id.text
    email := u.email
    displayName := u.displayName
    username := u.username.getD ""
    pictureUrl := u.pictureURL.getD ""
    isAdmin := u.isAdmin }

/-! ## Handlers -/

def loginWithGoogle (J : GolangJwt) (s : Server) (idToken : String) :
    Srv (Except Status SessionResponse) := do
  if idToken = "" then return .error ⟨.invalidArgument, "id_token is required"⟩
  else
    match ← verifyGoogleIDToken J idToken s.jwksURL s.googleClientID with
    | .error err =>
      logPrintf "auth: VerifyGoogleIDToken failed: %v" [.auth err]
      return .error ⟨.unauthenticated, "invalid Google ID token"⟩
    | .ok g =>
      match ← upsertUser g.sub g.email g.displayName g.picture generateUsername with
      | .error _ => return .error ⟨.internal, "failed to upsert user"⟩
      | .ok user =>
        let now ← timeNow
        match issueJWT J now user.id.text user.isAdmin s.jwtSecret with
        | .error _ => return .error ⟨.internal, "failed to issue session token"⟩
        | .ok sessionJWT => return .ok { jwt := sessionJWT, user := userToProto user }

/-- `LoginWithGoogle` after `UpsertUser`. -/
def issueSession (J : GolangJwt) (s : Server) :
    Except DbLayerError User → Srv (Except Status SessionResponse)
  | .error _ => return .error ⟨.internal, "failed to upsert user"⟩
  | .ok user => do
    let now ← timeNow
    match issueJWT J now user.id.text user.isAdmin s.jwtSecret with
    | .error _ => return .error ⟨.internal, "failed to issue session token"⟩
    | .ok sessionJWT => return .ok { jwt := sessionJWT, user := userToProto user }

/-- `LoginWithGoogle` after `VerifyGoogleIDToken`. -/
def signInVerified (J : GolangJwt) (s : Server) :
    Except AuthError GoogleClaims → Srv (Except Status SessionResponse)
  | .error err => do
    logPrintf "auth: VerifyGoogleIDToken failed: %v" [.auth err]
    return .error ⟨.unauthenticated, "invalid Google ID token"⟩
  | .ok g =>
    upsertUser g.sub g.email g.displayName g.picture generateUsername >>= issueSession J s

theorem loginWithGoogle_eq {J : GolangJwt} {s : Server} {idToken : String} (hne : idToken ≠ "") :
    loginWithGoogle J s idToken =
      verifyGoogleIDToken J idToken s.jwksURL s.googleClientID >>= signInVerified J s := by
  rw [loginWithGoogle, if_neg hne]
  rfl

/-- A user that is stored gets a session. -/
theorem issueSession_ok (J : GolangJwt) (s : Server) (user : User) :
    ∃ resp : Time → SessionResponse,
      issueSession J s (.ok user) = .act .timeNow (fun now => .ret (.ok (resp now))) ∧
      ∀ now, (resp now).user = userToProto user ∧
        issueJWT J now user.id.text user.isAdmin s.jwtSecret = .ok (resp now).jwt := by
  refine ⟨fun now => ⟨sessionText J user.id.text user.isAdmin now ++ "." ++
    Base64Url.encode (J.mac .sha256 s.jwtSecret (sessionText J user.id.text user.isAdmin now)),
    userToProto user⟩, ?_, fun now => ⟨rfl, issueJWT_eq ..⟩⟩
  simp only [issueSession, timeNow_bind, issueJWT_eq]
  rfl

/-- The empty username clears the name. -/
def updateProfile (ctx : Context) (username : String) : Srv (Except Status PbUser) := do
  match claimsFromContext ctx with
  | none => return .error ⟨.unauthenticated, "missing auth context"⟩
  | some claims =>
    if username ≠ "" ∧ ¬ usernameRE username then
      return .error ⟨.invalidArgument,
        "username must be 3–30 characters and contain only letters, numbers, and underscores"⟩
    else
      match ← updateUsername claims.userID username with
      | .error err =>
        if err.is .errUsernameTaken then
          return .error ⟨.alreadyExists, "username is already taken"⟩
        else return .error ⟨.internal, "failed to update profile"⟩
      | .ok user => return .ok (userToProto user)

/-- `UpdateProfile` after `UpdateUsername`. -/
def profileReply : Except DbLayerError User → Srv (Except Status PbUser)
  | .error err =>
    if err.is .errUsernameTaken then return .error ⟨.alreadyExists, "username is already taken"⟩
    else return .error ⟨.internal, "failed to update profile"⟩
  | .ok user => return .ok (userToProto user)

theorem updateProfile_eq {ctx : Context} {claims : Claims} {username : String}
    (hclaims : claimsFromContext ctx = some claims)
    (hvalid : username ≠ "" → usernameRE username = true) :
    updateProfile ctx username = updateUsername claims.userID username >>= profileReply := by
  rw [updateProfile, hclaims]
  exact if_neg fun h => h.2 (hvalid h.1)

def getCurrentUser (ctx : Context) : Srv (Except Status PbUser) := do
  match claimsFromContext ctx with
  | none => return .error ⟨.unauthenticated, "missing auth context"⟩
  | some claims =>
    match ← getUserByID claims.userID with
    | .error _ => return .error ⟨.notFound, "user not found"⟩
    | .ok user => return .ok (userToProto user)

def listUsers : Srv (Except Status (List PbUser)) := do
  match ← listAllUsers with
  | .error _ => return .error ⟨.internal, "failed to list users"⟩
  | .ok users => return .ok (users.map userToProto)

end SampleGrpc
