import SampleGrpc.Auth.Accounts

/-!
# One's own account

What the directory gives to a run of requests: a request writes at most one account, its own
user's, so what an answer shows stands until the next request that concerns that user. A sign-in
whose token has no subject concerns everyone: it may take any account for its user's.

* `Accounts.Serves.account_kept` — a request of another user leaves an account alone.
* `answer_stands` — over a run, `GetCurrentUser` repeats the last answer its user was given.
-/

namespace SampleGrpc

open Prog

/-- The request may change the account of `k`, whose identifier is `i`: it is a sign-in for `k`, or
one without a subject, or an `UpdateProfile` of `i`. -/
def Concerns (J : GolangJwt) (env : Environ) (k : String) (i : Uuid) (x : Served) : Prop :=
  (∃ idToken g, x.req = .loginWithGoogle idToken ∧ Vouched J (newServer env) idToken g ∧
    (g.sub = k ∨ g.sub = "")) ∨
  ∃ username, x.req = .updateProfile username ∧ MadeBy J env x.now x.ctx i

/-- The user that an answer shows. -/
def Response.shown : Response → Option PbUser
  | .session r => some r.user
  | .user u => some u
  | .users _ => none

variable {J : GolangJwt} {env : Environ} {d d' : Accounts} {x : Served} {k : String}
  {a : UserAccount} {i : Uuid}

/-! ## One request -/

theorem MadeBy.unique {now : Time} {ctx : Context} {i' : Uuid} (h : MadeBy J env now ctx i)
    (h' : MadeBy J env now ctx i') : i = i' := by
  obtain ⟨claims, hauth, hid⟩ := h
  obtain ⟨claims', hauth', hid'⟩ := h'
  obtain rfl := hauth.unique hauth'
  exact Option.some.inj (hid.symm.trans hid')

theorem Selects.subject_or_empty {sub : String} (h : Selects d sub k) : sub = k ∨ sub = "" := by
  cases h with
  | subject hsub => exact .inl rfl
  | least ha hleast => exact .inr rfl
  | empty hnone => exact .inr rfl

/-- **A request writes at most one account**, one that it concerns, and keeps its identifier. -/
theorem Affects.writes (h : Affects J env x d d') : ∃ k a, d.Writes k a d' ∧
    Concerns J env k a.id x ∧ ∀ a₀, d.account k = some a₀ → a.id = a₀.id := by
  cases h with
  | @signsIn idToken a hreq h =>
    cases h with
    | @returns g k a₀ hg hk ha₀ hid hprofile hname hd =>
      refine ⟨k, a, hd, .inl ⟨idToken, g, hreq, hg, hk.subject_or_empty⟩, fun a₁ ha₁ => ?_⟩
      obtain rfl := Option.some.inj (ha₀.symm.trans ha₁)
      exact hid
    | @opens g k now hg hk hnone hprofile hname hd =>
      refine ⟨k, a, hd, .inl ⟨idToken, g, hreq, hg, hk.subject_or_empty⟩, fun a₁ ha₁ => ?_⟩
      rw [hnone] at ha₁
      cases ha₁
  | @setsName username a hreq h =>
    obtain ⟨k, a₀, hcaller, -, ha₀, rfl, hd⟩ := h
    refine ⟨k, _, hd, .inr ⟨username, hreq, hcaller⟩, fun a₁ ha₁ => ?_⟩
    obtain rfl := Option.some.inj (ha₀.symm.trans ha₁)
    rfl

namespace Accounts.Serves

theorem affects (h : d.Serves J env x d') : d' = d ∨ Affects J env x d d' := by
  cases h with
  | signedIn h => exact .inr (.signsIn rfl h)
  | renamed h => exact .inr (.setsName rfl h)
  | found => exact .inl rfl
  | listed => exact .inl rfl
  | failed hres h => exact h

/-- **A request of another user leaves an account alone.** -/
theorem account_kept (h : d.Serves J env x d') (ha : d.account k = some a)
    (hnot : ¬ Concerns J env k a.id x) : d'.account k = some a := by
  obtain rfl | haffects := h.affects
  · exact ha
  · obtain ⟨k', a', hwrites, hconcerns, hid⟩ := haffects.writes
    by_cases hk : k = k'
    · subst hk
      rw [hid a ha] at hconcerns
      exact absurd hconcerns hnot
    · exact (hwrites.of_ne hk).trans ha

/-- The user that an answer shows is an account as it is now. -/
theorem shown {resp : Response} {pb : PbUser} (h : d.Serves J env x d') (hres : x.res = .ok resp)
    (hpb : resp.shown = some pb) : ∃ k a, d'.account k = some a ∧ a.toProto = pb := by
  cases h with
  | signedIn h =>
    obtain rfl := Except.ok.inj hres
    cases h with
    | returns _ _ _ _ _ _ hd => exact ⟨_, _, hd.self, Option.some.inj hpb⟩
    | opens _ _ _ _ _ hd => exact ⟨_, _, hd.self, Option.some.inj hpb⟩
  | renamed h =>
    obtain rfl := Except.ok.inj hres
    obtain ⟨k, a₀, -, -, -, -, hd⟩ := h
    exact ⟨_, _, hd.self, Option.some.inj hpb⟩
  | found hcaller ha =>
    obtain rfl := Except.ok.inj hres
    exact ⟨_, _, ha, Option.some.inj hpb⟩
  | listed =>
    obtain rfl := Except.ok.inj hres
    cases hpb
  | failed herr =>
    rw [herr] at hres
    cases hres

/-- `GetCurrentUser` answers with the caller's account. -/
theorem getCurrentUser {resp : Response} (h : d.Serves J env x d') (hreq : x.req = .getCurrentUser)
    (hcaller : MadeBy J env x.now x.ctx a.id) (ha : d.account k = some a)
    (hres : x.res = .ok resp) : resp = .user a.toProto := by
  cases h with
  | found hcaller' ha' =>
    obtain ⟨-, rfl⟩ := Directory.account_unique ha ha' (hcaller.unique hcaller')
    exact (Except.ok.inj hres).symm
  | failed herr =>
    rw [herr] at hres
    cases hres
  | signedIn | renamed | listed => cases hreq

end Accounts.Serves

/-! ## A run -/

/-- Requests of other users leave an account alone. -/
theorem account_kept_of_run {hist : List (Entry Accounts Served)}
    (h : Run (Accounts.Serves J env) d hist d') (ha : d.account k = some a)
    (hnot : ∀ x ∈ hist, ¬ Concerns J env k a.id x.event) : d'.account k = some a := by
  induction h with
  | nil => exact ha
  | snoc _ hs ih =>
    have hprev := ih fun x hx => hnot x (List.mem_append_left _ hx)
    exact hs.account_kept hprev (hnot _ (List.mem_append_right _ List.mem_cons_self))

/-- One request, with no fault of the database. -/
def quietStep (J : GolangJwt) (env : Environ) (t : UsersTable) (x : Served) (t' : UsersTable) :
    Prop :=
  Runs exec (fun e _ _ => e.fault = none) (serve J env (newServer env) x.now x.ctx x.req) t x.res t'

theorem quietStep.serveStep {t t' : UsersTable} (h : quietStep J env t x t') :
    serveStep J env t x t' := h.mono fun _ _ _ _ => trivial

/-- A request whose token is good enough for its method reaches the handler. -/
theorem serve_of_caller {now : Time} {ctx : Context} {req : Request} {claims : Claims}
    (hpub : req.fullMethod ∉ publicRPCs) (hauth : Authenticated J env now ctx claims)
    (hadmin : req.fullMethod ∉ adminRPCs ∨ claims.isAdmin = true) (s : Server) :
    serve J env s now ctx req = handler J s (withClaims ctx claims) req := by
  rw [serve, unaryAuthInterceptor, if_neg hpub, extractClaims_ok_iff.mpr hauth]
  exact if_neg fun hdenied => hadmin.elim (· hdenied.1) hdenied.2

/-- Without faults, `GetCurrentUser` finds the caller. -/
theorem getCurrentUser_quiet {t t' : UsersTable} {r : User} (hr : r ∈ t.rows)
    (hreq : x.req = .getCurrentUser) (hcaller : MadeBy J env x.now x.ctx r.id)
    (h : quietStep J env t x t') : x.res = .ok (.user (userToProto r)) ∧ t' = t := by
  obtain ⟨claims, hauth, hid⟩ := hcaller
  rw [quietStep, hreq, serve_of_caller (by decide) hauth (.inl (by decide))] at h
  obtain ⟨res, hget, hres⟩ := runs_map_iff.mp h
  obtain ⟨found, t₁, hsql, hreply⟩ := runs_bind_iff.mp hget
  rw [getUserByID_eq] at hsql
  obtain ⟨e, he, hsql⟩ := runs_act_iff.mp hsql
  obtain ⟨hfound, htable⟩ := runs_ret_iff.mp hsql
  have hselect : getReply claims.userID (exec e (.sql (.selectFirst [.id claims.userID])) t).1 =
      .ok r := congrArg (getReply claims.userID) (select_idText he hr hid)
  obtain rfl := hfound.trans hselect
  obtain ⟨rfl, rfl⟩ := runs_ret_iff.mp hreply
  exact ⟨hres, htable.trans (exec_readsOnly (q := .sql (.selectFirst [.id claims.userID])) trivial
    e t)⟩

/-- Without faults, `GetCurrentUser` answers with the caller's account. -/
theorem getCurrentUser_account {t t' : UsersTable} (ha : (accounts t).account k = some a)
    (hreq : x.req = .getCurrentUser) (hcaller : MadeBy J env x.now x.ctx a.id)
    (h : quietStep J env t x t') : x.res = .ok (.user a.toProto) := by
  obtain ⟨r, hr, -, rfl⟩ := account_eq_some.mp ha
  exact (getCurrentUser_quiet hr hreq hcaller h).1

/-- **An answer stands until the next request that concerns its user**: a sign-in of his, a sign-in
without a subject, or his `UpdateProfile`. In every run of requests one after the other, whichever
statements fail, what an answer shows of a user is stored; and as long as only other requests
follow, successful or not, the user's row shows the same, and his `GetCurrentUser` answers so or
fails because of a fault. -/
theorem answer_stands {t₀ t : UsersTable} {hist pre post : List (Entry UsersTable Served)}
    {x : Entry UsersTable Served} (hrun : Run (serveStep J env) t₀ hist t)
    (hx : hist = pre ++ x :: post) {resp : Response} {pb : PbUser} (hres : x.event.res = .ok resp)
    (hpb : resp.shown = some pb) :
    ∃ r ∈ x.after.rows, userToProto r = pb ∧
      ((∀ y ∈ post, ¬ Concerns J env r.googleSub r.id y.event) →
        (∃ r' ∈ t.rows, r'.id = r.id ∧ userToProto r' = pb) ∧
        ∀ z t', z.req = .getCurrentUser → MadeBy J env z.now z.ctx r.id →
          (serveStep J env t z t' → ∀ resp', z.res = .ok resp' → resp' = .user pb) ∧
          (quietStep J env t z t' → z.res = .ok (.user pb))) := by
  have hserved : (accounts x.before).Serves J env x.event (accounts x.after) :=
    serves_of_serveStep (hrun.step_of_mem (hx ▸ List.mem_append_right _ List.mem_cons_self))
  obtain ⟨k, a, ha, rfl⟩ := hserved.shown hres hpb
  obtain ⟨r, hr, rfl, rfl⟩ := account_eq_some.mp ha
  refine ⟨r, hr, rfl, fun hothers => ?_⟩
  have hafter := (hrun.after hx).simulate (f := accounts) fun _ _ _ hs => serves_of_serveStep hs
  have hkept : (accounts t).account r.googleSub = some r.account := by
    refine account_kept_of_run hafter ha fun y hy => ?_
    obtain ⟨y', hy', rfl⟩ := List.mem_map.mp hy
    exact hothers y' hy'
  obtain ⟨r', hr', -, haccount⟩ := account_eq_some.mp hkept
  have hid : r'.account.id = r.account.id := by rw [haccount]
  have hproto : userToProto r' = userToProto r := by
    rw [← toProto_account, ← toProto_account, haccount]
  refine ⟨⟨r', hr', hid, hproto⟩, fun z t' hreq hcaller => ?_⟩
  exact ⟨fun hz resp' hres' => (serves_of_serveStep hz).getCurrentUser hreq hcaller hkept hres',
    getCurrentUser_account hkept hreq hcaller⟩

/-! ## Ada and Grace -/

/-- A session of a user, with the flag it was issued with. -/
theorem authenticated_issued {now : Time} {isAdmin : Bool}
    (hread : J.ReadsBack (.hmac .sha256) (sessionClaims i.text isAdmin now)) :
    ∃ token, Authenticated J env now (bearerContext token) ⟨i.text, isAdmin⟩ := by
  have hissued := issueJWT_eq J now i.text isAdmin env.jwtSecret
  exact ⟨_, _, bearer_bearerContext _,
    (validateJWT_issueJWT hread hissued now _).mpr ⟨now.lt_unix_add (by decide), rfl⟩⟩

theorem Authenticated.madeBy {now : Time} {ctx : Context} {isAdmin : Bool}
    (h : Authenticated J env now ctx ⟨i.text, isAdmin⟩) : MadeBy J env now ctx i :=
  ⟨_, h, Uuid.parse_text i⟩

/-- Every request can be served without faults. -/
theorem exists_quietStep (J : GolangJwt) (env : Environ) (t : UsersTable) (now : Time)
    (ctx : Context) (req : Request) {e : Env} (he : e.fault = none) :
    ∃ res, quietStep J env t ⟨now, ctx, req, res⟩
      (play exec (serve J env (newServer env) now ctx req) (fun _ => e) t).2.1 :=
  ⟨(play exec (serve J env (newServer env) now ctx req) (fun _ => e) t).1,
    runs_play (fun _ _ _ => he) _ t⟩

namespace Sample

/-- Grace's session token under `secret`. -/
def graceSession : TableEntry :=
  { method := .hmac .sha256
    header := [("alg", .str "HS256"), ("typ", .str "JWT")]
    claims := sessionClaims "00000000-0000-0000-0000-000000000008" false (1700000000 * Time.second)
    signingString :=
      "eyJhbGciOiJIUzI1NiIsInR5cCI6IkpXVCJ9.eyJleHAiOjE3MDAwODY0MDAsImlhdCI6MTcwMDAwMDAwMCw" ++
      "iaXNfYWRtaW4iOmZhbHNlLCJ1c2VyX2lkIjoiMDAwMDAwMDAtMDAwMC0wMDAwLTAwMDAtMDAwMDAwMDAwMDA" ++
      "4In0"
    key := .bytes secret
    signature :=
      [76, 68, 188, 244, 54, 115, 28, 233, 246, 23, 236, 105, 183, 246, 225, 167, 57, 70, 21,
       83, 140, 140, 85, 255, 15, 166, 42, 243, 108, 0, 37, 158] }

def sessions : TokenTable :=
  { entries := [adminSession, graceSession]
    distinct := by decide +kernel
    nonempty := by decide +kernel }

theorem grace_text : Uuid.text 8 = "00000000-0000-0000-0000-000000000008" := by decide +kernel

/-- Grace changes her name. -/
theorem grace_renamed {ctx : Context}
    (hauth : Authenticated sessions.toGolangJwt environ Sample.env.now ctx ⟨Uuid.text 8, false⟩) :
    (play exec (serve sessions.toGolangJwt environ server Sample.env.now ctx
        (.updateProfile "grace_hopper")) (fun _ => Sample.env) twoUsers).2.1.rows.map
          (·.username) = [some "ada_l", some "grace_hopper"] := by
  -- The handler looks only at the claims.
  have hctx : handler sessions.toGolangJwt server (withClaims ctx ⟨Uuid.text 8, false⟩)
      (.updateProfile "grace_hopper") = handler sessions.toGolangJwt server
        (withClaims ⟨none, none⟩ ⟨Uuid.text 8, false⟩) (.updateProfile "grace_hopper") := rfl
  rw [serve_of_caller (by decide) hauth (.inl (by decide)), hctx]
  decide +kernel

end Sample

/-- Ada is told who she is, Grace changes her name, and Ada is told the same again. -/
theorem answer_stands_ada : ∃ ctx ctx' res users,
    serveStep Sample.sessions.toGolangJwt Sample.environ Sample.twoUsers
      ⟨Sample.env.now, ctx, .getCurrentUser, .ok (.user (userToProto Sample.ada))⟩
      Sample.twoUsers ∧
    serveStep Sample.sessions.toGolangJwt Sample.environ Sample.twoUsers
      ⟨Sample.env.now, ctx', .updateProfile "grace_hopper", res⟩ users ∧
    users.rows.map (·.username) = [some "ada_l", some "grace_hopper"] ∧
    (∃ r ∈ users.rows, r.id = Sample.ada.id ∧ userToProto r = userToProto Sample.ada) ∧
    ∀ res' t', quietStep Sample.sessions.toGolangJwt Sample.environ users
        ⟨Sample.env.now, ctx, .getCurrentUser, res'⟩ t' →
      res' = .ok (.user (userToProto Sample.ada)) := by
  have hada : Sample.ada.id.text = "3f2b8c1e-9d4a-4e6f-8a7b-0c1d2e3f4a5b" := by decide +kernel
  obtain ⟨adaToken, hasAda⟩ : ∃ token, Authenticated Sample.sessions.toGolangJwt Sample.environ
      Sample.env.now (bearerContext token) ⟨Sample.ada.id.text, true⟩ :=
    authenticated_issued
      (hada ▸ TokenTable.readsBack (e := Sample.adminSession) (by simp [Sample.sessions]))
  obtain ⟨graceToken, hasGrace⟩ : ∃ token, Authenticated Sample.sessions.toGolangJwt Sample.environ
      Sample.env.now (bearerContext token) ⟨Uuid.text 8, false⟩ :=
    authenticated_issued (Sample.grace_text ▸
      TokenTable.readsBack (e := Sample.graceSession) (by simp [Sample.sessions]))
  have hfault : Sample.env.fault = none := rfl
  obtain ⟨res, hasks⟩ := exists_quietStep Sample.sessions.toGolangJwt Sample.environ
    Sample.twoUsers Sample.env.now (bearerContext adaToken) .getCurrentUser hfault
  obtain ⟨rfl, htable⟩ := getCurrentUser_quiet List.mem_cons_self rfl hasAda.madeBy hasks
  rw [htable] at hasks
  obtain ⟨res', hrenames⟩ := exists_quietStep Sample.sessions.toGolangJwt Sample.environ
    Sample.twoUsers Sample.env.now (bearerContext graceToken) (.updateProfile "grace_hopper") hfault
  obtain ⟨r, -, hshown, hstands⟩ :=
    answer_stands ((Run.nil.snoc hasks.serveStep).snoc hrenames.serveStep)
      (show _ = [] ++ _ :: [_] from rfl) rfl rfl
  have hid : r.id = Sample.ada.id := Uuid.text_injective (congrArg PbUser.id hshown)
  rw [hid] at hstands
  obtain ⟨hrow, hanswer⟩ := hstands (by
    intro y hy hconcerns
    obtain rfl := List.mem_singleton.mp hy
    rcases hconcerns with ⟨idToken, g, hreq, -⟩ | ⟨username, hreq, hcaller⟩
    · cases hreq
    · exact absurd (hcaller.unique hasGrace.madeBy) (by decide +kernel))
  exact ⟨_, _, _, _, hasks.serveStep, hrenames.serveStep, Sample.grace_renamed hasGrace, hrow,
    fun res'' t' hquiet => (hanswer _ t' rfl hasAda.madeBy).2 hquiet⟩

end SampleGrpc
