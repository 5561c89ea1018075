import SampleGrpc.Auth.Mediation
import SampleGrpc.Auth.Requests
import SampleGrpc.Auth.SignIn
import SampleGrpc.Interaction.History

/-!
# The server over time

The state of the running server, as far as access depends on it: the users table, the session
tokens returned so far, and the clock. It moves by requests, each served as a whole, with whatever
metadata and arguments the client chooses; by an operator who changes `is_admin` in the database;
and by the passing of time.

A client computes signatures under the keys it knows. Under any other key it has only those it was
given: a token that verifies is over a text that the server has signed (`Unforged`).

* `Run.issued` — every token in circulation comes from a sign-in of the run.
* `no_privilege_escalation` — an admin method is opened only by a sign-in, less than 24 hours ago,
  of a user who was then an admin.
-/

namespace SampleGrpc

open Prog

structure System where
  users : UsersTable
  issued : List String
  now : Time

inductive Event where
  | rpc (ctx : Context) (req : Request) (res : Except Status Response)
  | setAdmin (id : Uuid) (isAdmin : Bool)
  | tick (d : Nat)

/-- The session tokens in an answer. -/
def sessionTokens : Except Status Response → List String
  | .ok (.session r) => [r.jwt]
  | _ => []

/-- `UPDATE users SET is_admin = b WHERE id = i`, by hand. -/
def UsersTable.setAdmin (t : UsersTable) (i : Uuid) (b : Bool) : UsersTable where
  rows := t.rows.map fun r => if r.id = i then { r with isAdmin := b } else r
  id_nodup := by
    have hid (r : User) : (if r.id = i then { r with isAdmin := b } else r).id = r.id := by
      split <;> rfl
    simpa [List.map_map, Function.comp_def, hid] using t.id_nodup
  googleSub_nodup := by
    have hsub (r : User) :
        (if r.id = i then { r with isAdmin := b } else r).googleSub = r.googleSub := by
      split <;> rfl
    simpa [List.map_map, Function.comp_def, hsub] using t.googleSub_nodup
  username_nodup := by
    have hname (r : User) :
        (if r.id = i then { r with isAdmin := b } else r).username = r.username := by
      split <;> rfl
    simpa [List.filterMap_map, Function.comp_def, hname] using t.username_nodup

/-- The text that a token signs under `secret` has been signed by the server, unless the client
knows the secret. -/
def Unforged (J : GolangJwt) (secret : Bytes) (known : Bytes → Prop) (issued : List String)
    (token : String) : Prop :=
  ∀ t, Signed J secret token t → known secret ∨
    t.signingString ++ "." ++ Base64Url.encode (J.mac .sha256 secret t.signingString) ∈ issued

/-- The clock stands at `now`; all else is free. -/
def atTime (now : Time) (e : Env) (_ : Effect) (_ : UsersTable) : Prop := e.now = now

/-- One step of the system. A request is served at one instant; faults, random draws and the
answer of the JWKS URL are free. -/
inductive Step (J : GolangJwt) (env : Environ) (known : Bytes → Prop) :
    System → Event → System → Prop where
  | rpc {c : System} {ctx : Context} {req : Request} {res : Except Status Response}
      {users : UsersTable}
      (hclient : ∀ token, Bearer ctx token → Unforged J env.jwtSecret known c.issued token)
      (hserve : Runs exec (atTime c.now) (serve J env (newServer env) c.now ctx req) c.users res
        users) :
      Step J env known c (.rpc ctx req res)
        { users, issued := c.issued ++ sessionTokens res, now := c.now }
  | setAdmin (c : System) (id : Uuid) (isAdmin : Bool) :
      Step J env known c (.setAdmin id isAdmin) { c with users := c.users.setAdmin id isAdmin }
  | tick (c : System) (d : Nat) : Step J env known c (.tick d) { c with now := c.now + d }

/-- What a request does to the system. -/
theorem Step.of_rpc {J : GolangJwt} {env : Environ} {known : Bytes → Prop} {c c' : System}
    {ctx : Context} {req : Request} {res : Except Status Response}
    (h : Step J env known c (.rpc ctx req res) c') :
    (∀ token, Bearer ctx token → Unforged J env.jwtSecret known c.issued token) ∧
      Runs exec (atTime c.now) (serve J env (newServer env) c.now ctx req) c.users res c'.users ∧
      c'.issued = c.issued ++ sessionTokens res := by
  cases h with
  | rpc hclient hserve => exact ⟨hclient, hserve, rfl⟩

/-- The contexts in which the interceptor calls the handler of a request. -/
def handlerContexts (J : GolangJwt) (env : Environ) (now : Time) (ctx : Context)
    (req : Request) : List Context :=
  (observe J env now ctx req req.fullMethod fun _ _ => (.ok () : Except Status Unit)).2

variable {J : GolangJwt} {env : Environ} {known : Bytes → Prop} {c₀ c c' : System}
variable {hist : List (Entry System Event)}

/-! ## Where tokens come from -/

/-- The step is a sign-in that returned the session token `s` for the user `u`, after reading the
admin flag of `u` from the table. -/
structure SignInStep (J : GolangJwt) (env : Environ) (s : String) (u : User)
    (x : Entry System Event) : Prop where
  isLogin : ∃ ctx idToken res, x.event = .rpc ctx (.loginWithGoogle idToken) res ∧
    s ∈ sessionTokens res
  issued : issueJWT J x.before.now u.id.text u.isAdmin env.jwtSecret = .ok s
  admin : u.isAdmin = true → ∃ r ∈ x.before.users.rows, r.id = u.id ∧ r.isAdmin = true

/-- An admin's sign-in read the flag of an admin's row. -/
theorem SignedIn.admin_row {sub : String} {t t' : UsersTable} {u : User} (h : SignedIn sub t t' u)
    (hadmin : u.isAdmin = true) : ∃ r ∈ t.rows, r.id = u.id ∧ r.isAdmin = true := by
  cases hfirst : t.first (subjectConds sub) with
  | none =>
    rw [(h.created hfirst).2.2] at hadmin
    cases hadmin
  | some r =>
    have hr := (UsersTable.first_eq_some hfirst).1
    have hid := (h.found r hfirst).symm
    exact ⟨r, hr, hid, (h.edit hr hid).isAdmin ▸ hadmin⟩

theorem handler_sessionTokens {ok : Env → Effect → UsersTable → Prop} {s : Server}
    {ctx : Context} {req : Request} {res : Except Status Response} {t t' : UsersTable}
    (h : Runs exec ok (handler J s ctx req) t res t') {token : String}
    (htoken : token ∈ sessionTokens res) :
    ∃ idToken resp, req = .loginWithGoogle idToken ∧ token = resp.jwt ∧
      Runs exec ok (loginWithGoogle J s idToken) t (.ok resp) t' := by
  -- The answer of any other method has no session in it.
  have hno {β : Type} {f : β → Response} {p : Srv (Except Status β)}
      (hf : ∀ b, sessionTokens (.ok (f b)) = [])
      (h : Runs exec ok (p >>= fun r => .ret (r.map f)) t res t') : False := by
    obtain ⟨r, t₁, -, hret⟩ := runs_bind_iff.mp h
    obtain ⟨rfl, -⟩ := runs_ret_iff.mp hret
    cases r with
    | error st => simp [Except.map, sessionTokens] at htoken
    | ok b => simp [Except.map, hf] at htoken
  cases req with
  | loginWithGoogle idToken =>
    obtain ⟨r, t₁, hrun, hret⟩ := runs_bind_iff.mp h
    obtain ⟨rfl, rfl⟩ := runs_ret_iff.mp hret
    cases r with
    | error st => simp [Except.map, sessionTokens] at htoken
    | ok resp => exact ⟨idToken, resp, rfl, by simpa [Except.map, sessionTokens] using htoken, hrun⟩
  | updateProfile username => exact (hno (fun _ => rfl) h).elim
  | getCurrentUser => exact (hno (fun _ => rfl) h).elim
  | listUsers => exact (hno (fun _ => rfl) h).elim

/-- Only a sign-in returns session tokens. -/
theorem serve_sessionTokens {ok : Env → Effect → UsersTable → Prop} {s : Server} {now : Time}
    {ctx : Context} {req : Request} {res : Except Status Response} {t t' : UsersTable}
    (h : Runs exec ok (serve J env s now ctx req) t res t') {token : String}
    (htoken : token ∈ sessionTokens res) :
    ∃ idToken resp, req = .loginWithGoogle idToken ∧ token = resp.jwt ∧
      Runs exec ok (loginWithGoogle J s idToken) t (.ok resp) t' := by
  rcases serve_cases J env s now ctx req with ⟨st, hserve⟩ | ⟨-, hserve⟩ | ⟨-, claims, -, -, hserve⟩
  · rw [hserve] at h
    obtain ⟨rfl, -⟩ := runs_ret_iff.mp h
    simp [sessionTokens] at htoken
  · rw [hserve] at h
    exact handler_sessionTokens h htoken
  · rw [hserve] at h
    exact handler_sessionTokens h htoken

/-- **Every token in circulation comes from a sign-in of the run.** -/
theorem Run.issued (hrun : Run (Step J env known) c₀ hist c) (hinit : c₀.issued = []) :
    ∀ s ∈ c.issued, ∃ x ∈ hist, ∃ u, SignInStep J env s u x := by
  refine Run.invariant (fun hist c => ∀ s ∈ c.issued, ∃ x ∈ hist, ∃ u, SignInStep J env s u x)
    (by simp [hinit]) ?_ hrun
  intro hist c e c' hinv hstep s hs
  have hold (hs : s ∈ c.issued) :
      ∃ x ∈ hist ++ [⟨c, e, c'⟩], ∃ u, SignInStep J env s u x := by
    obtain ⟨x, hx, hsign⟩ := hinv s hs
    exact ⟨x, List.mem_append_left _ hx, hsign⟩
  cases e with
  | setAdmin id isAdmin => cases hstep; exact hold hs
  | tick d => cases hstep; exact hold hs
  | rpc ctx req res =>
    obtain ⟨-, hserve, hissued⟩ := hstep.of_rpc
    rcases List.mem_append.mp (hissued ▸ hs) with hs | hs
    · exact hold hs
    · obtain ⟨idToken, resp, rfl, rfl, hlogin⟩ := serve_sessionTokens hserve hs
      obtain ⟨tok, reply, now, -, -, u, e, hin, he, -, hjwt⟩ := runs_loginWithGoogle hlogin
      refine ⟨_, List.mem_append_right _ (List.mem_singleton.mpr rfl), u, ?_⟩
      exact {
        isLogin := ⟨ctx, idToken, res, rfl, hs⟩
        issued := he ▸ hjwt
        admin := hin.admin_row }

/-! ## What opens an admin method -/

/-- The text of a token that verifies, and is not forged, is that of a token a sign-in returned. -/
theorem signIn_of_signed (hknown : ¬ known env.jwtSecret)
    (hrun : Run (Step J env known) c₀ hist c) (hinit : c₀.issued = []) {token : String} {t : Token}
    (hsigned : Signed J env.jwtSecret token t)
    (hunforged : Unforged J env.jwtSecret known c.issued token) :
    ∃ s ∈ c.issued, ∃ x ∈ hist, ∃ u, SignInStep J env s u x ∧
      s = t.signingString ++ "." ++
        Base64Url.encode (J.mac .sha256 env.jwtSecret t.signingString) ∧
      t.signingString = sessionText J u.id.text u.isAdmin x.before.now := by
  obtain hk | hmem := hunforged t hsigned
  · exact absurd hk hknown
  · obtain ⟨x, hx, u, hsign⟩ := Run.issued hrun hinit _ hmem
    have htext := (issueJWT_eq J x.before.now u.id.text u.isAdmin env.jwtSecret).symm.trans
      hsign.issued
    obtain ⟨htext, -⟩ := append_dot_inj (Base64Url.dot_notMem_encode _)
      (Base64Url.dot_notMem_encode _) (Except.ok.inj htext)
    exact ⟨_, hmem, x, hx, u, hsign, rfl, htext.symm⟩

/-- A validated token that is not forged is for the user of a sign-in, less than 24 hours ago, and
carries the flag which that sign-in read. -/
theorem signIn_of_validateJWT (hknown : ¬ known env.jwtSecret)
    (hrun : Run (Step J env known) c₀ hist c) (hinit : c₀.issued = []) {token : String}
    {claims : Claims} (hvalid : validateJWT J c.now token env.jwtSecret = .ok claims)
    (hunforged : Unforged J env.jwtSecret known c.issued token) :
    ∃ x ∈ hist, ∃ s u, SignInStep J env s u x ∧ claims.userID = u.id.text ∧
      claims.isAdmin = u.isAdmin ∧ c.now < x.before.now + Time.hours 24 := by
  obtain ⟨-, t, hsigned, hexp, -, rfl⟩ := validateJWT_ok_iff.mp hvalid
  obtain ⟨s, -, x, hx, u, hsign, -, htext⟩ :=
    signIn_of_signed hknown hrun hinit hsigned hunforged
  obtain ⟨-, hid, hadmin, -, -⟩ := claims_of_sessionText hsigned.1 htext
  have hlife := (expOk_sessionText hsigned.1 htext c.now).mp hexp
  refine ⟨x, hx, s, u, hsign, hid, hadmin, lt_of_lt_of_le hlife ?_⟩
  have hsecond : Time.unix x.before.now * Time.second ≤ x.before.now := Nat.div_mul_le_self _ _
  calc (Time.unix x.before.now + 86400) * Time.second
      = Time.unix x.before.now * Time.second + Time.hours 24 := Nat.add_mul ..
    _ ≤ x.before.now + Time.hours 24 := Nat.add_le_add_right hsecond _

/-- A request leaves the admin flag of every row as it was and creates only rows without it. -/
structure AdminKept (t t' : UsersTable) : Prop where
  kept : ∀ r ∈ t.rows, ∃ r' ∈ t'.rows, r'.id = r.id ∧ r'.isAdmin = r.isAdmin
  created : ∀ r' ∈ t'.rows, (∀ r ∈ t.rows, r.id ≠ r'.id) → r'.isAdmin = false

theorem adminKept_of_evolves {t t' : UsersTable} (h : Evolves RowEdit RowCreated t.rows t'.rows) :
    AdminKept t t' where
  kept := by
    intro r hr
    obtain ⟨r', hr', hedit⟩ := h.exists_of_mem hr
    exact ⟨r', hr', hedit.id, hedit.isAdmin⟩
  created := by
    intro r' hr' hnew
    obtain ⟨r, hr, hedit⟩ | hcreated := h.of_mem hr'
    · exact absurd hedit.id.symm (hnew r hr)
    · exact hcreated.isAdmin

/-- The step is a sign-in of the user with this id: it returned a session that carries the id and
the admin flag, after reading the flag, set, from the user's row. -/
def AdminSignIn (J : GolangJwt) (env : Environ) (userID : String) (x : Entry System Event) : Prop :=
  ∃ s u, SignInStep J env s u x ∧ u.id.text = userID ∧ u.isAdmin = true ∧
    ∃ r ∈ x.before.users.rows, r.id = u.id ∧ r.isAdmin = true

/-- **No privilege escalation.** In every run from a state in which no token has been issued, with
a secret the client does not know:
no request changes the admin flag of a row or creates a row with it; and whenever the handler of
`ListUsers` runs, there was an earlier sign-in of the user whose id the token carries, less than 24
hours before, that read the flag, set, from this user's row. -/
theorem no_privilege_escalation (hknown : ¬ known env.jwtSecret) (hinit : c₀.issued = [])
    (hrun : Run (Step J env known) c₀ hist c) :
    (∀ x ∈ hist, ∀ ctx req res, x.event = .rpc ctx req res →
      AdminKept x.before.users x.after.users) ∧
    ∀ pre x post, hist = pre ++ x :: post → ∀ ctx res, x.event = .rpc ctx .listUsers res →
      ∀ ctx' ∈ handlerContexts J env x.before.now ctx .listUsers,
        ∃ claims, claimsFromContext ctx' = some claims ∧
          ∃ y ∈ pre, AdminSignIn J env claims.userID y ∧
            x.before.now < y.before.now + Time.hours 24 := by
  refine ⟨?_, ?_⟩
  · intro x hx ctx req res hevent
    have hstep := Run.step_of_mem hrun hx
    rw [hevent] at hstep
    exact adminKept_of_evolves (runs_evolves hstep.of_rpc.2.1 (serve_uses ..))
  · intro pre x post hhist ctx res hevent ctx' hctx'
    have hpub : Request.listUsers.fullMethod ∉ publicRPCs := by decide
    have hadmin : Request.listUsers.fullMethod ∈ adminRPCs := by decide
    obtain ⟨claims, ⟨token, hbearer, hvalid⟩, hclaims, -⟩ := observe_claims hpub hctx'
    have hflag : claims.isAdmin = true := by
      obtain hpub' | ⟨claims', hauth, hpass⟩ := observe_runs_iff.mp (List.ne_nil_of_mem hctx')
      · exact absurd hpub' hpub
      · rw [hauth.unique ⟨token, hbearer, hvalid⟩] at hpass
        simpa [hadmin] using hpass
    have hunforged : Unforged J env.jwtSecret known x.before.issued token := by
      have hstep := Run.step_of_mem hrun (hhist ▸ List.mem_append_right _ List.mem_cons_self)
      rw [hevent] at hstep
      exact hstep.of_rpc.1 token hbearer
    obtain ⟨y, hy, s, u, hsign, hid, hadmin', hlife⟩ :=
      signIn_of_validateJWT hknown (hrun.split hhist) hinit hvalid hunforged
    have hread : u.isAdmin = true := hadmin' ▸ hflag
    exact ⟨claims, hclaims, y, hy, ⟨s, u, hsign, hid.symm, hread, hsign.admin hread⟩, hlife⟩

/-! ## An admin's day -/

/-- A client that knows no secret. -/
abbrev onlyEmptyKey (k : Bytes) : Prop := k = []

/-- The context of a request that carries this token. -/
def bearerContext (token : String) : Context := ⟨some fun _ => ["Bearer " ++ token], none⟩

theorem bearer_bearerContext (token : String) : Bearer (bearerContext token) token :=
  ⟨_, [], rfl, rfl⟩

/-- An admin can list the users. -/
theorem step_listUsers {ctx : Context} {claims : Claims}
    (hauth : Authenticated J env c.now ctx claims) (hadmin : claims.isAdmin = true)
    (hclient : ∀ token, Bearer ctx token → Unforged J env.jwtSecret known c.issued token) :
    ∃ users, Step J env known c (.rpc ctx .listUsers (.ok (.users users)))
      { users := c.users, issued := c.issued ++ [], now := c.now } := by
  let e : Env :=
    { now := c.now, newID := 0, fault := none, http := fun _ => .fetchError "", rand := 0 }
  have hquery : c.users.query e.now e.newID .selectAll =
      .ok (c.users.rows.insertionSort (·.createdAt ≤ ·.createdAt), c.users) := rfl
  refine ⟨(c.users.rows.insertionSort (·.createdAt ≤ ·.createdAt)).map userToProto,
    .rpc hclient ?_⟩
  rw [serve_of_authenticated (newServer env) (by decide) hauth hadmin]
  refine runs_bind_iff.mpr ⟨.ok _, c.users, ?_, .ret _ _⟩
  refine runs_bind_iff.mpr ⟨.ok _, c.users, ?_, .ret _ _⟩
  exact runs_sql_of_query (e := e) (fun _ _ => rfl) rfl hquery (.ret _ _)

/-- A sign-in that runs is a step. -/
theorem step_loginWithGoogle {idToken : String} {resp : SessionResponse} {users : UsersTable}
    (hrun : Runs exec (atTime c.now) (loginWithGoogle J (newServer env) idToken) c.users
      (.ok resp) users) :
    Step J env known c (.rpc ⟨none, none⟩ (.loginWithGoogle idToken) (.ok (.session resp)))
      { users, issued := c.issued ++ [resp.jwt], now := c.now } := by
  refine .rpc (fun token hbearer => ?_) ?_
  · obtain ⟨md, vals, hmd, -⟩ := hbearer
    cases hmd
  · exact runs_bind_iff.mpr ⟨.ok resp, users, hrun, .ret _ _⟩

/-- A token that the server returned is not forged. -/
theorem unforged_of_issued {secret : Bytes} {issued : List String} {userID token : String}
    {isAdmin : Bool} {t₀ : Time}
    (hread : J.ReadsBack (.hmac .sha256) (sessionClaims userID isAdmin t₀))
    (htoken : issueJWT J t₀ userID isAdmin secret = .ok token) (hmem : token ∈ issued) :
    Unforged J secret known issued token := by
  intro t hsigned
  have htext := Except.ok.inj ((issueJWT_eq J t₀ userID isAdmin secret).symm.trans htoken)
  obtain ⟨t', hparse, hsigning, -⟩ := hread _ (Base64Url.dot_notMem_encode
    (J.mac .sha256 secret (sessionText J userID isAdmin t₀)))
  obtain rfl : t' = t := Except.ok.inj (hparse.symm.trans (htext ▸ hsigned.1))
  refine .inr ?_
  rw [hsigning]
  exact htext ▸ hmem

/-- Ada's sign-in, and what its token says. -/
theorem ada_signs_in : ∃ resp users,
    Runs exec (atTime Sample.env.now)
      (loginWithGoogle Sample.jwt (newServer Sample.environ) Sample.adaIDToken.text) Sample.users
      (.ok resp) users ∧
    issueJWT Sample.jwt Sample.env.now "3f2b8c1e-9d4a-4e6f-8a7b-0c1d2e3f4a5b" true
      Sample.environ.jwtSecret = .ok resp.jwt := by
  have hfirst : Sample.users.first (subjectConds "108176814619778123456") = some Sample.ada := by
    decide +kernel
  have hok (q : Effect) (t : UsersTable) : atTime Sample.env.now Sample.env q t := rfl
  have haud (_ : Sample.server.googleClientID ≠ "") :
      audMatch (readClaims Sample.adaIDToken.claims) Sample.server.googleClientID = true :=
    Sample.sample_audience (.inl rfl)
  obtain ⟨resp, users, hlogin⟩ := loginWithGoogle_runs (t := Sample.users) hok rfl
    (Sample.adaIDToken_signed Sample.server.jwksURL) haud (Sample.adaIDToken_sub ▸ hfirst)
    (by decide)
  obtain ⟨tok, reply, now, hsigned, -, u, e, hin, he, -, hjwt⟩ := runs_loginWithGoogle hlogin
  obtain rfl : tok = _ :=
    Except.ok.inj (hsigned.parsed.symm.trans (Sample.adaIDToken_signed "").parsed)
  have hid : u.id = Sample.ada.id := hin.found _ (Sample.adaIDToken_sub ▸ hfirst)
  have hadmin : u.isAdmin = true := (hin.edit (List.mem_singleton.mpr rfl) hid.symm).isAdmin
  have htext : Sample.ada.id.text = "3f2b8c1e-9d4a-4e6f-8a7b-0c1d2e3f4a5b" := by decide +kernel
  rw [he, hid, hadmin, htext] at hjwt
  exact ⟨resp, users, hlogin, hjwt⟩

theorem ada_readsBack : Sample.jwt.ReadsBack (.hmac .sha256)
    (sessionClaims "3f2b8c1e-9d4a-4e6f-8a7b-0c1d2e3f4a5b" true Sample.env.now) :=
  TokenTable.readsBack (e := Sample.adminSession) (by simp [Sample.table])

/-- Ada signs in and lists the users with the token she got. -/
theorem ada_lists : ∃ (token : String) (x y : Entry System Event) (c : System)
    (res res' : Except Status Response),
    Run (Step Sample.jwt Sample.environ onlyEmptyKey) ⟨Sample.users, [], Sample.env.now⟩ [x, y] c ∧
      x.event = .rpc ⟨none, none⟩ (.loginWithGoogle Sample.adaIDToken.text) res ∧
      y.event = .rpc (bearerContext token) .listUsers res' ∧ y.before.now = Sample.env.now ∧
      issueJWT Sample.jwt Sample.env.now "3f2b8c1e-9d4a-4e6f-8a7b-0c1d2e3f4a5b" true
        Sample.environ.jwtSecret = .ok token ∧
      Authenticated Sample.jwt Sample.environ Sample.env.now (bearerContext token)
        ⟨"3f2b8c1e-9d4a-4e6f-8a7b-0c1d2e3f4a5b", true⟩ := by
  obtain ⟨resp, users, hlogin, hjwt⟩ := ada_signs_in
  have hauth : Authenticated Sample.jwt Sample.environ Sample.env.now (bearerContext resp.jwt)
      ⟨"3f2b8c1e-9d4a-4e6f-8a7b-0c1d2e3f4a5b", true⟩ :=
    ⟨_, bearer_bearerContext _, (validateJWT_issueJWT ada_readsBack hjwt _ _).mpr ⟨by decide, rfl⟩⟩
  let c₀ : System := ⟨Sample.users, [], Sample.env.now⟩
  let c₁ : System := { users, issued := c₀.issued ++ [resp.jwt], now := c₀.now }
  have hlogin' : Step Sample.jwt Sample.environ onlyEmptyKey c₀ _ c₁ := step_loginWithGoogle hlogin
  have hclient (token : String) (hb : Bearer (bearerContext resp.jwt) token) :
      Unforged Sample.jwt Sample.environ.jwtSecret onlyEmptyKey c₁.issued token := by
    rw [hb.unique (bearer_bearerContext _)]
    exact unforged_of_issued ada_readsBack hjwt (List.mem_singleton.mpr rfl)
  obtain ⟨us, hlist⟩ := step_listUsers (c := c₁) hauth rfl hclient
  exact ⟨resp.jwt, _, _, _, _, _, .snoc (.snoc .nil hlogin') hlist, rfl, rfl, rfl, hjwt, hauth⟩

/-- Ada's sign-in is what opens the list of users to her. -/
theorem no_privilege_escalation_ada : ∃ (x y : Entry System Event) (c : System) (ctx : Context)
    (res : Except Status Response) (userID : String),
    Run (Step Sample.jwt Sample.environ onlyEmptyKey) ⟨Sample.users, [], Sample.env.now⟩ [x, y] c ∧
      y.event = .rpc ctx .listUsers res ∧
      handlerContexts Sample.jwt Sample.environ y.before.now ctx .listUsers ≠ [] ∧
      AdminKept x.before.users x.after.users ∧ AdminSignIn Sample.jwt Sample.environ userID x ∧
      y.before.now < x.before.now + Time.hours 24 := by
  obtain ⟨token, x, y, c, res, res', hrun, hx, hy, hnow, -, hauth⟩ := ada_lists
  have hhandler : handlerContexts Sample.jwt Sample.environ y.before.now (bearerContext token)
      .listUsers ≠ [] := by
    rw [hnow]
    exact observe_runs_iff.mpr (.inr ⟨_, hauth, .inr rfl⟩)
  obtain ⟨hkept, hadmin⟩ := no_privilege_escalation (by decide +kernel) rfl hrun
  obtain ⟨ctx', hctx'⟩ := List.exists_mem_of_ne_nil _ hhandler
  obtain ⟨claims, -, z, hz, hsign, hlife⟩ := hadmin [x] y [] rfl _ _ hy ctx' hctx'
  rw [List.mem_singleton.mp hz] at hsign hlife
  exact ⟨x, y, c, _, res', _, hrun, hy, hhandler, hkept x List.mem_cons_self _ _ _ hx, hsign, hlife⟩

end SampleGrpc
