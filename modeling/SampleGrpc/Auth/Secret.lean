import SampleGrpc.Auth.System

/-!
# The signing secret

`main` serves whenever `DATABASE_URL` is set; nothing checks `JWT_SECRET`. With a secret that the
client does not know, every token that the interceptor accepts was returned by a sign-in, up to
the spelling of its signature: the decoder takes some texts that the encoder never writes. With no
secret, the key is the empty one, which everybody knows.

* `accepted_tokens_issued` — under a secret, an accepted token in canonical spelling was issued.
* `no_secret_opens_listUsers` — without one, a client that never signed in lists the users.
-/

namespace SampleGrpc

open Prog

variable {J : GolangJwt} {env : Environ} {known : Bytes → Prop} {c₀ c : System}
variable {hist : List (Entry System Event)}

/-- The signature segment is spelled as the encoder spells it. -/
def CanonicalSignature (J : GolangJwt) (token : String) : Prop :=
  ∀ t, J.parseUnverified token = .ok t → Base64Url.Canonical t.signatureSegment

/-- The server has a secret, and the request, if the step is one, carries its token in canonical
spelling. -/
def Guarded (J : GolangJwt) (env : Environ) (x : Entry System Event) : Prop :=
  env.JWT_SECRET.getD [] ≠ [] ∧ ∀ ctx req res, x.event = .rpc ctx req res →
    ∀ token, Bearer ctx token → CanonicalSignature J token

/-- A sign-in that returned the token. -/
def Returned (token : String) (x : Entry System Event) : Prop :=
  ∃ ctx idToken res, x.event = .rpc ctx (.loginWithGoogle idToken) res ∧ token ∈ sessionTokens res

/-- A token in canonical spelling that verifies, and is not forged, was returned by a sign-in. -/
theorem returned_of_signed (hknown : ¬ known env.jwtSecret)
    (hrun : Run (Step J env known) c₀ hist c) (hinit : c₀.issued = []) {token : String} {t : Token}
    (hsigned : Signed J env.jwtSecret token t) (hcanonical : CanonicalSignature J token)
    (hunforged : Unforged J env.jwtSecret known c.issued token) :
    ∃ x ∈ hist, Returned token x := by
  obtain ⟨s, -, x, hx, u, hsign, hs, htext⟩ :=
    signIn_of_signed hknown hrun hinit hsigned hunforged
  have htoken : token = s := by
    obtain ⟨hparse, h, hmethod, hdecode⟩ := hsigned
    obtain ⟨hsha, -⟩ := claims_of_sessionText hparse htext
    obtain rfl : h = .sha256 := SigningMethod.hmac.inj (hmethod.symm.trans hsha)
    rw [J.parseUnverified_raw hparse, hs, hcanonical t hparse _ hdecode]
  exact ⟨x, hx, htoken ▸ hsign.isLogin⟩

/-- **Every accepted token was returned by a sign-in**, in every run whose steps are guarded. The
client may know any keys, the empty one too, but not a secret that is configured. -/
theorem accepted_tokens_issued (hknown : ∀ k, known k → k ≠ [] → k ≠ env.jwtSecret)
    (hinit : c₀.issued = []) (hrun : Run (Step J env known) c₀ hist c)
    (hguarded : ∀ x ∈ hist, Guarded J env x) :
    ∀ pre x post, hist = pre ++ x :: post → ∀ ctx req res, x.event = .rpc ctx req res →
      ∀ claims, extractClaims J env x.before.now ctx = .ok claims →
        ∃ token, Bearer ctx token ∧ ∃ y ∈ pre, Returned token y := by
  intro pre x post hhist ctx req res hevent claims hclaims
  have hx : x ∈ hist := hhist ▸ List.mem_append_right _ List.mem_cons_self
  obtain ⟨hsecret, hcanonical⟩ := hguarded x hx
  obtain ⟨token, hbearer, hvalid⟩ := extractClaims_ok_iff.mp hclaims
  obtain ⟨-, t, hsigned, -⟩ := validateJWT_ok_iff.mp hvalid
  have hstep := Run.step_of_mem hrun hx
  rw [hevent] at hstep
  exact ⟨token, hbearer, returned_of_signed (fun hk => hknown _ hk hsecret rfl)
    (hrun.split hhist) hinit hsigned (hcanonical ctx req res hevent token hbearer)
    (hstep.of_rpc.1 token hbearer)⟩

/-- Ada's session token is one that the server returned to her. -/
theorem accepted_tokens_issued_ada : ∃ (x y : Entry System Event) (c : System) (token : String),
    Run (Step Sample.jwt Sample.environ onlyEmptyKey) ⟨Sample.users, [], Sample.env.now⟩ [x, y] c ∧
      extractClaims Sample.jwt Sample.environ y.before.now (bearerContext token) =
        .ok ⟨"3f2b8c1e-9d4a-4e6f-8a7b-0c1d2e3f4a5b", true⟩ ∧
      Returned token x := by
  obtain ⟨token, x, y, c, res, res', hrun, hx, hy, hnow, htoken, hauth⟩ := ada_lists
  have hclaims := extractClaims_ok_iff.mpr hauth
  rw [← hnow] at hclaims
  have hcanonical : CanonicalSignature Sample.jwt token := by
    intro t ht bs hbs
    rw [issueJWT_eq, Except.ok.injEq] at htoken
    obtain ⟨t', ht', -, hseg⟩ := ada_readsBack _ (Base64Url.dot_notMem_encode
      (Sample.jwt.mac .sha256 Sample.environ.jwtSecret _))
    obtain rfl : t' = t := Except.ok.inj (ht'.symm.trans (htoken ▸ ht))
    rw [hseg, Base64Url.decode_encode] at hbs
    rw [hseg, Option.some.inj hbs]
  have hguarded : ∀ z ∈ [x, y], Guarded Sample.jwt Sample.environ z := by
    intro z hz
    refine ⟨by decide +kernel, fun ctx req res hevent token' hb => ?_⟩
    obtain rfl | rfl : z = x ∨ z = y := by simpa using hz
    · rw [hx] at hevent
      obtain ⟨rfl, -⟩ := Event.rpc.inj hevent
      obtain ⟨md, vals, hmd, -⟩ := hb
      cases hmd
    · rw [hy] at hevent
      obtain ⟨rfl, -⟩ := Event.rpc.inj hevent
      rwa [hb.unique (bearer_bearerContext token)]
  obtain ⟨token', hb, z, hz, hreturned⟩ := accepted_tokens_issued
    (fun k hk hne => absurd hk hne) rfl hrun hguarded [x] y [] rfl _ _ _ hy _ hclaims
  rw [List.mem_singleton.mp hz, hb.unique (bearer_bearerContext token)] at hreturned
  exact ⟨x, y, c, token, hrun, hclaims, hreturned⟩

/-! ## No secret -/

/-- Without a secret, a client makes its own session token for any user and opens the admin
method with it. -/
theorem forge_without_secret (hsecret : env.jwtSecret = []) (hempty : known []) {userID : String}
    (hread : J.ReadsBack (.hmac .sha256) (sessionClaims userID true c.now)) :
    ∃ token, extractClaims J env c.now (bearerContext token) = .ok ⟨userID, true⟩ ∧
      ∃ users, Step J env known c (.rpc (bearerContext token) .listUsers (.ok (.users users)))
        { users := c.users, issued := c.issued ++ [], now := c.now } := by
  obtain ⟨token, htoken⟩ : ∃ token, issueJWT J c.now userID true [] = .ok token :=
    ⟨_, issueJWT_eq ..⟩
  have hlife : c.now < (Time.unix c.now + 86400) * Time.second := c.now.lt_unix_add (by decide)
  have hauth : Authenticated J env c.now (bearerContext token) ⟨userID, true⟩ := by
    refine ⟨token, bearer_bearerContext token, ?_⟩
    rw [hsecret]
    exact (validateJWT_issueJWT hread htoken _ _).mpr ⟨hlife, rfl⟩
  refine ⟨token, extractClaims_ok_iff.mpr hauth, step_listUsers hauth rfl fun _ _ _ _ => ?_⟩
  exact .inl (hsecret ▸ hempty)

/-- The sample configuration without `JWT_SECRET`. -/
def Sample.openEnviron : Environ := { Sample.environ with JWT_SECRET := none }

/-- **Without a secret, a client that never signed in lists the users.** The server has started,
its first request carries a token that it has not returned, and the answer is the list. -/
theorem no_secret_opens_listUsers :
    ∃ (x : Entry System Event) (c : System) (token : String) (users : List PbUser),
      startServer Sample.openEnviron = .ok (newServer Sample.openEnviron) ∧
      Run (Step Sample.jwt Sample.openEnviron onlyEmptyKey)
        ⟨Sample.users, [], Sample.env.now⟩ [x] c ∧
      x.event = .rpc (bearerContext token) .listUsers (.ok (.users users)) ∧
      extractClaims Sample.jwt Sample.openEnviron x.before.now (bearerContext token) =
        .ok ⟨"admin", true⟩ ∧
      x.before.issued = [] := by
  have hread : Sample.jwt.ReadsBack (.hmac .sha256) (sessionClaims "admin" true Sample.env.now) :=
    TokenTable.readsBack (e := Sample.emptyKeySession) (by simp [Sample.table])
  have hsecret : Sample.openEnviron.jwtSecret = [] := rfl
  have hempty : onlyEmptyKey [] := rfl
  obtain ⟨token, hclaims, users, hstep⟩ :=
    forge_without_secret (c := ⟨Sample.users, [], Sample.env.now⟩) hsecret hempty hread
  exact ⟨_, _, token, users, if_neg (by decide), .snoc .nil hstep, rfl, hclaims, rfl⟩

end SampleGrpc
