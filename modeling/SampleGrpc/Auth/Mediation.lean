import SampleGrpc.Auth.Service
import SampleGrpc.Auth.TokenTable

/-!
# Mediation and the session round trip

What the interceptor and the two token functions guarantee together. The handler is observed: it
answers as it likes and every context it is called in is recorded (`observe`).

* `unaryAuthInterceptor_mediates` — when the handler runs, with which claims, and which error is
  returned when it does not.
* `session_roundTrip` — an issued token is accepted exactly until 24 hours after the second of
  its issue, and gives back what it was issued for.
-/

namespace SampleGrpc

/-- A handler that answers with `respond` and records the context of each call. -/
def recorded {Req Resp : Type} (respond : Context → Req → Except Status Resp) (ctx : Context)
    (req : Req) : StateM (List Context) (Except Status Resp) := do
  modify (· ++ [ctx])
  return respond ctx req

/-- The interceptor's answer, and the contexts in which it called the handler. -/
def observe {Req Resp : Type} (J : GolangJwt) (env : Environ) (now : Time) (ctx : Context)
    (req : Req) (method : String) (respond : Context → Req → Except Status Resp) :
    Except Status Resp × List Context :=
  (unaryAuthInterceptor J env now ctx req ⟨method⟩ (recorded respond)).run []

/-- The claims that `ValidateJWT` reads from a token. -/
structure ReadFrom (J : GolangJwt) (now : Time) (secret : Bytes) (token : String)
    (c : Claims) (t : Token) : Prop where
  signed : Signed J secret token t
  unexpired : t.claims.expOk J.seconds now = true
  isAdmin : c.isAdmin = true ↔ t.claims.get "is_admin" = some (.bool true)
  userID_string : ∀ s, t.claims.get "user_id" = some (.str s) → c.userID = s
  userID_other : (∀ s, t.claims.get "user_id" ≠ some (.str s)) → c.userID = ""

theorem getString_of_ne {m : MapClaims} {key : String} (h : ∀ s, m.get key ≠ some (.str s)) :
    m.getString key = "" := by
  unfold MapClaims.getString
  split
  · next s hs => exact absurd hs (h s)
  · rfl

theorem validateJWT_readFrom {J : GolangJwt} {now : Time} {secret : Bytes} {token : String}
    {c : Claims} (h : validateJWT J now token secret = .ok c) :
    ∃ t, ReadFrom J now secret token c t := by
  obtain ⟨-, t, hsigned, hexp, -, rfl⟩ := validateJWT_ok_iff.mp h
  exact ⟨t, {
    signed := hsigned
    unexpired := hexp
    isAdmin := MapClaims.getBool_eq_true_iff
    userID_string := fun s hs => by simp [MapClaims.getString, hs]
    userID_other := fun hne => getString_of_ne hne }⟩

section Observe

variable {Req Resp : Type} {J : GolangJwt} {env : Environ} {now : Time} {ctx : Context} {req : Req}
variable {method : String} {respond : Context → Req → Except Status Resp}

/-- The three observable outcomes. -/
theorem observe_cases (J : GolangJwt) (env : Environ) (now : Time) (ctx : Context) (req : Req)
    (method : String) (respond : Context → Req → Except Status Resp) :
    (method ∈ publicRPCs ∧ observe J env now ctx req method respond = (respond ctx req, [ctx])) ∨
    (method ∉ publicRPCs ∧ ∃ c, Authenticated J env now ctx c ∧
      (method ∉ adminRPCs ∨ c.isAdmin = true) ∧
      observe J env now ctx req method respond =
        (respond (withClaims ctx c) req, [withClaims ctx c])) ∨
    (method ∉ publicRPCs ∧
      (∀ c, Authenticated J env now ctx c → method ∈ adminRPCs ∧ c.isAdmin = false) ∧
      ∃ st : Status, observe J env now ctx req method respond = (.error st, []) ∧
        (st.code = .permissionDenied ∧ (∃ c, Authenticated J env now ctx c) ∨
          st.code = .unauthenticated ∧ ∀ c, ¬ Authenticated J env now ctx c)) := by
  rcases unaryAuthInterceptor_cases J env now ctx req ⟨method⟩ (recorded respond) with
    ⟨hpub, hrun⟩ | ⟨hpub, hnone, st, hst, hrun⟩ | ⟨hpub, c, hc, hadmin, hflag, hrun⟩ |
    ⟨hpub, c, hc, hpass, hrun⟩
  · exact .inl ⟨hpub, by rw [observe, hrun]; rfl⟩
  · refine .inr (.inr ⟨hpub, fun c hc => absurd hc (hnone c), st, ?_, .inr ⟨hst, hnone⟩⟩)
    rw [observe, hrun]
    rfl
  · refine .inr (.inr ⟨hpub, fun c' hc' => ?_, ⟨.permissionDenied, "admin access required"⟩, ?_,
      .inl ⟨rfl, c, hc⟩⟩)
    · exact ⟨hadmin, hc'.unique hc ▸ hflag⟩
    · rw [observe, hrun]
      rfl
  · exact .inr (.inl ⟨hpub, c, hc, hpass, by rw [observe, hrun]; rfl⟩)

/-- **When the handler runs.** -/
theorem observe_runs_iff :
    (observe J env now ctx req method respond).2 ≠ [] ↔
      method ∈ publicRPCs ∨
        ∃ c, Authenticated J env now ctx c ∧ (method ∉ adminRPCs ∨ c.isAdmin = true) := by
  rcases observe_cases J env now ctx req method respond with
    ⟨hpub, hobs⟩ | ⟨hpub, c, hc, hpass, hobs⟩ | ⟨hpub, hdenied, st, hobs, -⟩
  · simp [hobs, hpub]
  · simp only [hobs, ne_eq, List.cons_ne_self, not_false_eq_true, true_iff]
    exact .inr ⟨c, hc, hpass⟩
  · simp only [hobs, ne_eq, not_true_eq_false, hpub, false_or, false_iff]
    intro h
    obtain ⟨c, hc, hpass⟩ := h
    obtain ⟨hadmin, hflag⟩ := hdenied c hc
    rcases hpass with hpass | hpass
    · exact hpass hadmin
    · rw [hflag] at hpass
      cases hpass

/-- On a method that is not public, the context of a call carries the validated claims. -/
theorem observe_claims (hpub : method ∉ publicRPCs) {ctx' : Context}
    (h : ctx' ∈ (observe J env now ctx req method respond).2) :
    ∃ c, Authenticated J env now ctx c ∧ claimsFromContext ctx' = some c ∧
      observe J env now ctx req method respond = (respond ctx' req, [ctx']) := by
  rcases observe_cases J env now ctx req method respond with
    ⟨hpub', -⟩ | ⟨-, c, hc, -, hobs⟩ | ⟨-, -, st, hobs, -⟩
  · exact absurd hpub' hpub
  · rw [hobs, List.mem_singleton] at h
    subst h
    exact ⟨c, hc, rfl, hobs⟩
  · simp [hobs] at h

end Observe

/-- **Complete mediation.** The handler runs exactly when the method is public or the first
authorization value is `"Bearer "` followed by a token that validates, and on an admin method the
token carries the admin flag. It runs once. On a method that is not public it sees exactly the
validated claims, read from a payload signed under the secret. Otherwise the answer is an error:
`PermissionDenied` when the token is valid, `Unauthenticated` when it is not. -/
theorem unaryAuthInterceptor_mediates {Req Resp : Type} (J : GolangJwt) (env : Environ)
    (now : Time) (ctx : Context) (req : Req) (method : String)
    (respond : Context → Req → Except Status Resp) :
    let out := observe J env now ctx req method respond
    (out.2 ≠ [] ↔ method ∈ publicRPCs ∨
      ∃ token c, Bearer ctx token ∧ validateJWT J now token env.jwtSecret = .ok c ∧
        (method ∉ adminRPCs ∨ c.isAdmin = true)) ∧
    (∀ ctx' ∈ out.2, out = (respond ctx' req, [ctx']) ∧
      (method ∈ publicRPCs → ctx' = ctx) ∧
      (method ∉ publicRPCs → ∃ token c t, Bearer ctx token ∧
        validateJWT J now token env.jwtSecret = .ok c ∧ claimsFromContext ctx' = some c ∧
        ReadFrom J now env.jwtSecret token c t)) ∧
    (out.2 = [] → ∃ st : Status, out.1 = .error st ∧
      (st.code = .permissionDenied ↔ method ∈ adminRPCs ∧
        ∃ token c, Bearer ctx token ∧ validateJWT J now token env.jwtSecret = .ok c ∧
          c.isAdmin = false) ∧
      (st.code = .permissionDenied ∨ st.code = .unauthenticated)) := by
  intro out
  refine ⟨?_, fun ctx' hmem => ?_, fun hempty => ?_⟩
  · rw [observe_runs_iff]
    refine or_congr_right ⟨?_, ?_⟩
    · intro h
      obtain ⟨c, ⟨token, hb, hv⟩, hpass⟩ := h
      exact ⟨token, c, hb, hv, hpass⟩
    · intro h
      obtain ⟨token, c, hb, hv, hpass⟩ := h
      exact ⟨c, ⟨token, hb, hv⟩, hpass⟩
  · by_cases hpub : method ∈ publicRPCs
    · rcases observe_cases J env now ctx req method respond with
        ⟨-, hobs⟩ | ⟨hpub', -⟩ | ⟨hpub', -⟩
      · obtain rfl : ctx' = ctx := by simpa [out, hobs] using hmem
        exact ⟨hobs, fun _ => rfl, fun h => absurd hpub h⟩
      · exact absurd hpub hpub'
      · exact absurd hpub hpub'
    · obtain ⟨c, ⟨token, hb, hv⟩, hclaims, hobs⟩ := observe_claims hpub hmem
      obtain ⟨t, ht⟩ := validateJWT_readFrom hv
      exact ⟨hobs, fun h => absurd h hpub, fun _ => ⟨token, c, t, hb, hv, hclaims, ht⟩⟩
  · rcases observe_cases J env now ctx req method respond with
      ⟨-, hobs⟩ | ⟨-, c, -, -, hobs⟩ | ⟨-, hdenied, st, hobs, hcode⟩
    · simp [out, hobs] at hempty
    · simp [out, hobs] at hempty
    · refine ⟨st, by rw [show out = _ from hobs], ⟨fun hst => ?_, ?_⟩, ?_⟩
      · rcases hcode with ⟨-, c, hc⟩ | ⟨hst', -⟩
        · obtain ⟨hadmin, hflag⟩ := hdenied c hc
          obtain ⟨token, hb, hv⟩ := hc
          exact ⟨hadmin, token, c, hb, hv, hflag⟩
        · rw [hst'] at hst
          cases hst
      · intro h
        obtain ⟨-, token, c, hb, hv, -⟩ := h
        rcases hcode with ⟨hst, -⟩ | ⟨-, hnone⟩
        · exact hst
        · exact absurd ⟨token, hb, hv⟩ (hnone c)
      · exact hcode.imp And.left And.left

/-! ## The session round trip -/

/-- An issued token validates exactly until its expiry, to the claims it was issued for. -/
theorem validateJWT_issueJWT {J : GolangJwt} {userID : String} {isAdmin : Bool} {t₀ : Time}
    {secret : Bytes} {token : String}
    (hread : J.ReadsBack (.hmac .sha256) (sessionClaims userID isAdmin t₀))
    (htoken : issueJWT J t₀ userID isAdmin secret = .ok token) (t : Time) (c : Claims) :
    validateJWT J t token secret = .ok c ↔
      t < (Time.unix t₀ + 86400) * Time.second ∧ c = ⟨userID, isAdmin⟩ := by
  rw [issueJWT_eq, Except.ok.injEq] at htoken
  obtain ⟨tok, hparse, htext, hseg⟩ :=
    hread (Base64Url.encode (J.mac .sha256 secret (sessionText J userID isAdmin t₀)))
      (Base64Url.dot_notMem_encode _)
  have htok : J.parseUnverified token = .ok tok := htoken ▸ hparse
  obtain ⟨hmethod, hid, hadmin, -, hnbf⟩ := claims_of_sessionText htok htext
  have hsigned : Signed J secret token tok := by
    refine ⟨htok, .sha256, hmethod, ?_⟩
    rw [hseg, Base64Url.decode_encode, htext]
    rfl
  have hne : token ≠ "" := by
    rw [← htoken]
    intro hempty
    have := congrArg (fun s : String => '.' ∈ s.toList) hempty
    simp at this
  rw [validateJWT_ok_iff]
  refine ⟨?_, ?_⟩
  · intro h
    obtain ⟨-, tok', hsigned', hexp, -, rfl⟩ := h
    obtain rfl : tok = tok' := Except.ok.inj (htok.symm.trans hsigned'.1)
    exact ⟨(expOk_sessionText htok htext t).mp hexp, by rw [hid, hadmin]⟩
  · intro h
    obtain ⟨ht, rfl⟩ := h
    exact ⟨hne, tok, hsigned, (expOk_sessionText htok htext t).mpr ht,
      MapClaims.nbfOk_of_absent hnbf t, by rw [hid, hadmin]⟩

/-- **Session round trip.** The token issued at `t₀` under the secret the server took at start-up,
sent as a bearer token at `t` to the interceptor that reads the secret again, opens the methods
that are neither public nor admin exactly while `t` is before the second of `t₀` plus 86400
seconds, the admin methods if also the flag is set, and the handler sees what was issued. -/
theorem session_roundTrip {Req Resp : Type} (J : GolangJwt) (env : Environ) (userID : String)
    (isAdmin : Bool) (t₀ : Time)
    (hread : J.ReadsBack (.hmac .sha256) (sessionClaims userID isAdmin t₀)) :
    ∃ token, issueJWT J t₀ userID isAdmin (newServer env).jwtSecret = .ok token ∧
      ∀ (t : Time) (ctx : Context) (req : Req) (method : String)
        (respond : Context → Req → Except Status Resp),
        Bearer ctx token → method ∉ publicRPCs →
        let calls := (observe J env t ctx req method respond).2
        (method ∉ adminRPCs → (calls ≠ [] ↔ t < (Time.unix t₀ + 86400) * Time.second)) ∧
        (method ∈ adminRPCs →
          (calls ≠ [] ↔ t < (Time.unix t₀ + 86400) * Time.second ∧ isAdmin = true)) ∧
        ∀ ctx' ∈ calls, claimsFromContext ctx' = some ⟨userID, isAdmin⟩ := by
  refine ⟨_, issueJWT_eq J t₀ userID isAdmin _, ?_⟩
  intro t ctx req method respond hb hpub calls
  have hvalid := validateJWT_issueJWT hread (issueJWT_eq J t₀ userID isAdmin env.jwtSecret) t
  have hauth (c : Claims) : Authenticated J env t ctx c ↔
      t < (Time.unix t₀ + 86400) * Time.second ∧ c = ⟨userID, isAdmin⟩ := by
    rw [← hvalid]
    refine ⟨?_, ?_⟩
    · intro h
      obtain ⟨token', hb', hv⟩ := h
      exact hb'.unique hb ▸ hv
    · exact fun hv => ⟨_, hb, hv⟩
  have hruns : calls ≠ [] ↔ t < (Time.unix t₀ + 86400) * Time.second ∧
      (method ∉ adminRPCs ∨ isAdmin = true) := by
    rw [observe_runs_iff]
    simp only [hpub, hauth, false_or]
    refine ⟨?_, ?_⟩
    · intro h
      obtain ⟨c, ⟨ht, rfl⟩, hpass⟩ := h
      exact ⟨ht, hpass⟩
    · intro h
      obtain ⟨ht, hpass⟩ := h
      exact ⟨_, ⟨ht, rfl⟩, hpass⟩
  refine ⟨fun hadmin => ?_, fun hadmin => ?_, fun ctx' hmem => ?_⟩
  · simp [hruns, hadmin]
  · simp [hruns, hadmin]
  · obtain ⟨c, hc, hclaims, -⟩ := observe_claims hpub hmem
    rw [hclaims, ((hauth c).mp hc).2]

/-- An admin's token of 1700000000 opens `ListUsers` until 1700086400. -/
theorem session_roundTrip_sample :
    ∃ token, issueJWT Sample.jwt (1700000000 * Time.second)
        "3f2b8c1e-9d4a-4e6f-8a7b-0c1d2e3f4a5b" true Sample.secret = .ok token ∧
      ∀ (t : Time) (ctx : Context) (respond : Context → Unit → Except Status Unit),
        Bearer ctx token →
        ((observe Sample.jwt { JWT_SECRET := some Sample.secret } t ctx ()
            "/greeter.AuthService/ListUsers" respond).2 ≠ [] ↔ t < 1700086400 * Time.second) := by
  have hread : Sample.jwt.ReadsBack (.hmac .sha256)
      (sessionClaims "3f2b8c1e-9d4a-4e6f-8a7b-0c1d2e3f4a5b" true (1700000000 * Time.second)) :=
    TokenTable.readsBack (e := Sample.adminSession) (by simp [Sample.table])
  obtain ⟨token, htoken, h⟩ := @session_roundTrip Unit Unit Sample.jwt
    { JWT_SECRET := some Sample.secret } _ _ _ hread
  refine ⟨token, htoken, fun t ctx respond hb => ?_⟩
  have hruns := (h t ctx () "/greeter.AuthService/ListUsers" respond hb (by decide)).2.1 (by decide)
  simpa [Time.unix, Time.second] using hruns

end SampleGrpc
