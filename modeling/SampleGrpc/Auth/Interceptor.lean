import SampleGrpc.Auth.Session

/-!
# The auth interceptor

`internal/auth/interceptor.go`, with the gRPC values it handles. The handler runs in any monad;
the interceptor calls it at most once, in the context it was given (public methods) or in that
context with the validated claims attached (all other methods).

* `extractClaims_ok_iff` — which requests carry claims, and which claims.
* `unaryAuthInterceptor_cases` — the four things the interceptor can do.
-/

namespace SampleGrpc

/-! ## gRPC values -/

inductive Code where
  | invalidArgument
  | notFound
  | alreadyExists
  | permissionDenied
  | unauthenticated
  | internal
  deriving DecidableEq

structure Status where
  code : Code
  message : String
  deriving DecidableEq

/-- Request metadata: the values of each key, none for an absent key. Keys are in lower case. -/
abbrev MD := String → List String

def MD.get (md : MD) (k : String) : List String := md k.toLower

/-- The two context values the server reads: the incoming metadata, and what is attached under
`claimsKey` (nothing, a nil pointer, or claims). -/
structure Context where
  incoming : Option MD
  claimsKey : Option (Option Claims)

/-- The environment variables the server reads; `none` is unset. -/
structure Environ where
  DATABASE_URL : Option String := none
  GOOGLE_CLIENT_ID : Option String := none
  GOOGLE_JWKS_URL : Option String := none
  JWT_SECRET : Option Bytes := none

/-- `[]byte(os.Getenv("JWT_SECRET"))` -/
def Environ.jwtSecret (env : Environ) : Bytes := env.JWT_SECRET.getD []

/-- `ClaimsFromContext`; `none` for `(nil, false)`. -/
def claimsFromContext (ctx : Context) : Option Claims := ctx.claimsKey.join

def withClaims (ctx : Context) (claims : Claims) : Context :=
  { ctx with claimsKey := some (some claims) }

@[simp] theorem claimsFromContext_withClaims (ctx : Context) (claims : Claims) :
    claimsFromContext (withClaims ctx claims) = some claims := rfl

/-! ## The interceptor -/

def publicRPCs : List String :=
  ["/greeter.AuthService/LoginWithGoogle",
   "/greeter.Greeter/Echo",
   "/grpc.health.v1.Health/Check",
   "/grpc.health.v1.Health/Watch",
   "/grpc.reflection.v1.ServerReflection/ServerReflectionInfo",
   "/grpc.reflection.v1alpha.ServerReflection/ServerReflectionInfo"]

def adminRPCs : List String := ["/greeter.AuthService/ListUsers"]

/-- `strings.TrimPrefix` -/
def trimPrefix (s p : String) : String :=
  match s.toList.dropPrefix? p.toList with
  | some rest => String.ofList rest
  | none => s

def extractClaims (J : GolangJwt) (env : Environ) (now : Time) (ctx : Context) :
    Except Status Claims :=
  match ctx.incoming with
  | none => .error ⟨.unauthenticated, "missing metadata"⟩
  | some md =>
    match md.get "authorization" with
    | [] => .error ⟨.unauthenticated, "missing authorization header"⟩
    | val :: _ =>
      let token := trimPrefix val "Bearer "
      if token = val then .error ⟨.unauthenticated, "authorization must be Bearer <token>"⟩
      else
        match validateJWT J now token env.jwtSecret with
        | .error _ => .error ⟨.unauthenticated, "invalid or expired token"⟩
        | .ok claims => .ok claims

structure UnaryServerInfo where
  fullMethod : String

def unaryAuthInterceptor {m : Type → Type} [Monad m] {Req Resp : Type} (J : GolangJwt)
    (env : Environ) (now : Time) (ctx : Context) (req : Req) (info : UnaryServerInfo)
    (handler : Context → Req → m (Except Status Resp)) : m (Except Status Resp) :=
  if info.fullMethod ∈ publicRPCs then handler ctx req
  else
    match extractClaims J env now ctx with
    | .error err => pure (.error err)
    | .ok claims =>
      if info.fullMethod ∈ adminRPCs ∧ ¬ claims.isAdmin then
        pure (.error ⟨.permissionDenied, "admin access required"⟩)
      else handler (withClaims ctx claims) req

/-! ## Which requests carry claims -/

theorem trimPrefix_append (p t : String) : trimPrefix (p ++ t) p = t := by
  have hdrop : (p ++ t).toList.dropPrefix? p.toList = some t.toList := by
    rw [List.dropPrefix?_eq_some_iff]
    exact ⟨p.toList, by simp, by simp⟩
  rw [trimPrefix, hdrop]
  exact String.ofList_toList

/-- Trimming a non-empty prefix changes the text exactly when the prefix is there. -/
theorem trimPrefix_ne_iff {s p : String} (hp : p ≠ "") :
    trimPrefix s p ≠ s ↔ ∃ t, s = p ++ t := by
  refine ⟨?_, ?_⟩
  · intro h
    unfold trimPrefix at h
    split at h
    · next rest hrest =>
      rw [List.dropPrefix?_eq_some_iff] at hrest
      obtain ⟨pre, hs, hpre⟩ := hrest
      refine ⟨String.ofList rest, String.toList_inj.mp ?_⟩
      rw [String.toList_append, String.toList_ofList, hs, (beq_iff_eq.mp hpre).symm]
    · exact absurd rfl h
  · rintro ⟨t, rfl⟩ h
    rw [trimPrefix_append] at h
    have hlen := congrArg String.length h
    rw [String.length_append] at hlen
    have hpos : p.length ≠ 0 := fun h0 => hp (String.length_eq_zero_iff.mp h0)
    omega

/-- The first authorization value is `"Bearer "` followed by `token`. -/
def Bearer (ctx : Context) (token : String) : Prop :=
  ∃ md vals, ctx.incoming = some md ∧ md.get "authorization" = ("Bearer " ++ token) :: vals

theorem Bearer.unique {ctx : Context} {s t : String} (hs : Bearer ctx s) (ht : Bearer ctx t) :
    s = t := by
  obtain ⟨md, vals, hmd, hget⟩ := hs
  obtain ⟨md', vals', hmd', hget'⟩ := ht
  obtain rfl := Option.some.inj (hmd.symm.trans hmd')
  have h := (List.cons.inj (hget.symm.trans hget')).1
  rw [← trimPrefix_append "Bearer " s, h, trimPrefix_append]

/-- The request carries a token that validates to `claims`. -/
def Authenticated (J : GolangJwt) (env : Environ) (now : Time) (ctx : Context)
    (claims : Claims) : Prop :=
  ∃ token, Bearer ctx token ∧ validateJWT J now token env.jwtSecret = .ok claims

theorem Authenticated.unique {J : GolangJwt} {env : Environ} {now : Time} {ctx : Context}
    {c c' : Claims} (h : Authenticated J env now ctx c) (h' : Authenticated J env now ctx c') :
    c = c' := by
  obtain ⟨token, hb, hv⟩ := h
  obtain ⟨token', hb', hv'⟩ := h'
  obtain rfl := hb.unique hb'
  exact Except.ok.inj (hv.symm.trans hv')

theorem extractClaims_ok_iff {J : GolangJwt} {env : Environ} {now : Time} {ctx : Context}
    {claims : Claims} :
    extractClaims J env now ctx = .ok claims ↔ Authenticated J env now ctx claims := by
  refine ⟨?_, ?_⟩
  · intro h
    unfold extractClaims at h
    split at h
    · cases h
    · next md hmd =>
      split at h
      · cases h
      · next val vals hval =>
        by_cases htrim : trimPrefix val "Bearer " = val
        · simp [htrim] at h
        · obtain ⟨token, rfl⟩ := (trimPrefix_ne_iff (by decide)).mp htrim
          rw [if_neg htrim, trimPrefix_append] at h
          split at h
          · cases h
          · next c hc => exact ⟨token, ⟨md, vals, hmd, hval⟩, Except.ok.inj h ▸ hc⟩
  · intro h
    obtain ⟨token, ⟨md, vals, hmd, hval⟩, hv⟩ := h
    have htrim : trimPrefix ("Bearer " ++ token) "Bearer " ≠ "Bearer " ++ token :=
      (trimPrefix_ne_iff (by decide)).mpr ⟨token, rfl⟩
    simp only [extractClaims, hmd, hval]
    rw [if_neg htrim, trimPrefix_append, hv]

theorem extractClaims_error {J : GolangJwt} {env : Environ} {now : Time} {ctx : Context}
    {st : Status} (h : extractClaims J env now ctx = .error st) : st.code = .unauthenticated := by
  unfold extractClaims at h
  split at h
  · cases h; rfl
  · split at h
    · cases h; rfl
    · dsimp only at h
      split at h
      · cases h; rfl
      · split at h
        · cases h; rfl
        · cases h

/-! ## What the interceptor does -/

/-- **The four outcomes of the interceptor.** -/
theorem unaryAuthInterceptor_cases {m : Type → Type} [Monad m] {Req Resp : Type} (J : GolangJwt)
    (env : Environ) (now : Time) (ctx : Context) (req : Req) (info : UnaryServerInfo)
    (handler : Context → Req → m (Except Status Resp)) :
    (info.fullMethod ∈ publicRPCs ∧
      unaryAuthInterceptor J env now ctx req info handler = handler ctx req) ∨
    (info.fullMethod ∉ publicRPCs ∧ (∀ c, ¬ Authenticated J env now ctx c) ∧
      ∃ st : Status, st.code = .unauthenticated ∧
        unaryAuthInterceptor J env now ctx req info handler = pure (.error st)) ∨
    (info.fullMethod ∉ publicRPCs ∧ ∃ c, Authenticated J env now ctx c ∧
      info.fullMethod ∈ adminRPCs ∧ c.isAdmin = false ∧
        unaryAuthInterceptor J env now ctx req info handler =
          pure (.error ⟨.permissionDenied, "admin access required"⟩)) ∨
    (info.fullMethod ∉ publicRPCs ∧ ∃ c, Authenticated J env now ctx c ∧
      (info.fullMethod ∉ adminRPCs ∨ c.isAdmin = true) ∧
        unaryAuthInterceptor J env now ctx req info handler =
          handler (withClaims ctx c) req) := by
  by_cases hpub : info.fullMethod ∈ publicRPCs
  · exact .inl ⟨hpub, by rw [unaryAuthInterceptor, if_pos hpub]⟩
  · right
    cases hex : extractClaims J env now ctx with
    | error st =>
      refine .inl ⟨hpub, fun c hc => ?_, st, extractClaims_error hex, ?_⟩
      · rw [extractClaims_ok_iff.mpr hc] at hex
        cases hex
      · rw [unaryAuthInterceptor, if_neg hpub, hex]
    | ok c =>
      have hc := extractClaims_ok_iff.mp hex
      by_cases hdenied : info.fullMethod ∈ adminRPCs ∧ ¬ c.isAdmin
      · refine .inr (.inl ⟨hpub, c, hc, hdenied.1, by simpa using hdenied.2, ?_⟩)
        rw [unaryAuthInterceptor, if_neg hpub, hex]
        exact if_pos hdenied
      · refine .inr (.inr ⟨hpub, c, hc, ?_, ?_⟩)
        · by_cases hadmin : info.fullMethod ∈ adminRPCs
          · exact .inr (by simpa [hadmin] using hdenied)
          · exact .inl hadmin
        · rw [unaryAuthInterceptor, if_neg hpub, hex]
          exact if_neg hdenied

/-- An admin method is not public: the gate of `adminRPCs` is never bypassed. -/
theorem adminRPCs_not_public : ∀ method ∈ adminRPCs, method ∉ publicRPCs := by decide

end SampleGrpc
