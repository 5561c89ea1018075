import SampleGrpc.Auth.Identities
import SampleGrpc.Interaction.Joint
import SampleGrpc.Web.AuthContext

/-!
# The web client against the server

The tabs of a browser and the server they talk to, as one system. The server interleaves any
requests, from the tabs or from others, statement by statement and with any faults; a tab is handed
an answer at any time after the server has returned it, or an error of any kind at any time.

* `SessionOf` — the token was issued for a user whose row is stored.
* `Relayed` — which answers a tab is handed.
* `shown_user_is_session` — whom a tab shows is whom its token is for.
-/

namespace SampleGrpc

/-! ## What the server answers -/

section Answers

variable {J : GolangJwt} {env : Environ} {t t' : UsersTable} {u : User} {token : String}

/-- The token was issued for the user, whose row is stored. -/
def SessionOf (J : GolangJwt) (env : Environ) (token : String) (u : User) (t : UsersTable) : Prop :=
  KnownAs u t ∧ ∃ t₀, issueJWT J t₀ u.id.text u.isAdmin env.jwtSecret = .ok token

theorem SessionOf.evolve (h : SessionOf J env token u t) (h' : TableEvolves t t') :
    SessionOf J env token u t' := ⟨h.1.evolve h', h.2⟩

/-- A record read with the token of a session is the session's. -/
theorem SessionOf.of_validated {now : Time} {c : Claims} {v : User}
    (h : SessionOf J env token u t) (hvalid : validateJWT J now token env.jwtSecret = .ok c)
    (hid : Uuid.parse c.userID = some v.id) (hv : KnownAs v t) : SessionOf J env token v t := by
  obtain ⟨t₀, hissued⟩ := h.2
  obtain rfl := claims_of_issueJWT hissued hvalid
  have hsame : u.id = v.id := Option.some.inj ((Uuid.parse_text u.id).symm.trans hid)
  refine ⟨hv, t₀, ?_⟩
  rw [← hsame, ← (h.1.unique hv hsame).2]
  exact hissued

/-- The answer shows a user who was read by the identifier in the request's token. -/
def ReadByToken (J : GolangJwt) (env : Environ) (ctx : Context) (pb : PbUser) (t : UsersTable) :
    Prop :=
  ∃ now c v, Authenticated J env now ctx c ∧ Uuid.parse c.userID = some v.id ∧
    pb = userToProto v ∧ KnownAs v t

theorem ReadByToken.evolve {ctx : Context} {pb : PbUser} (h : ReadByToken J env ctx pb t)
    (h' : TableEvolves t t') : ReadByToken J env ctx pb t' := by
  obtain ⟨now, c, v, hauth, hid, hpb, hv⟩ := h
  exact ⟨now, c, v, hauth, hid, hpb, hv.evolve h'⟩

theorem serve_getCurrentUser_safeSrv (s : Server) (now : Time) (ctx : Context) (t : UsersTable) :
    SafeSrv (fun res t => ∀ pb, res = .ok (.user pb) → ReadByToken J env ctx pb t)
      (serve J env s now ctx .getCurrentUser) t := by
  rcases serve_cases J env s now ctx .getCurrentUser with ⟨st, h⟩ | ⟨hpub, -⟩ | ⟨-, c, hauth, -, h⟩
  · rw [h]
    exact safeSrv_ret fun t' ht' pb hpb => by cases hpb
  · exact absurd hpub (by decide)
  have hclaims : claimsFromContext (withClaims ctx c) = some c := rfl
  have hread : SafeSrv (fun res t => ∀ pb, res = .ok pb → ReadByToken J env ctx pb t)
      (getCurrentUser (withClaims ctx c)) t := by
    rw [getCurrentUser, hclaims]
    refine Prog.Safe.bind TableEvolves.refl (getUserByID_safeSrv c.userID t) fun res t₁ hpost => ?_
    cases res with
    | error err => exact safeSrv_ret fun t' ht' pb hpb => by cases hpb
    | ok v =>
      refine safeSrv_ret fun t' ht' pb hpb => ?_
      obtain ⟨hknown, hid⟩ := hpost v rfl
      exact ⟨now, c, v, hauth, hid, (Except.ok.inj hpb).symm, hknown.evolve ht'⟩
  rw [h]
  refine Prog.Safe.bind TableEvolves.refl hread fun res t₁ hpost => ?_
  refine safeSrv_ret fun t' ht' pb hpb => ?_
  cases res with
  | error st => cases hpb
  | ok pb' =>
    obtain rfl := Response.user.inj (Except.ok.inj hpb)
    exact (hpost _ rfl).evolve ht'

/-- What answers say of sessions. -/
def AnswersFor (J : GolangJwt) (env : Environ) (ctx : Context) (req : Request)
    (res : Except Status Response) (t : UsersTable) : Prop :=
  (∀ pb, req = .getCurrentUser → res = .ok (.user pb) → ReadByToken J env ctx pb t) ∧
  ∀ idToken r, req = .loginWithGoogle idToken → res = .ok (.session r) →
    ∃ v, r.user = userToProto v ∧ SessionOf J env r.jwt v t

theorem serve_answersFor (now : Time) (ctx : Context) (req : Request) (t : UsersTable) :
    SafeSrv (AnswersFor J env ctx req) (serve J env (newServer env) now ctx req) t := by
  cases req with
  | getCurrentUser =>
    refine (serve_getCurrentUser_safeSrv (J := J) (newServer env) now ctx t).weaken ?_
    exact fun res t h => ⟨fun pb _ hres => h pb hres, fun _ _ hreq _ => by cases hreq⟩
  | loginWithGoogle idToken =>
    refine (serve_safeSrv J env (newServer env) now ctx (.loginWithGoogle idToken) t).weaken ?_
    refine fun res t h => ⟨fun _ hreq _ => (by cases hreq), fun idToken' r hreq hres => ?_⟩
    obtain ⟨r', hr', g, v, -, hv, huser, t₀, hissued⟩ := (h _ hres).session idToken rfl
    obtain rfl := Response.session.inj hr'
    exact ⟨v, huser, hv.1, t₀, hissued⟩
  | updateProfile username =>
    refine (serve_safeSrv J env (newServer env) now ctx (.updateProfile username) t).weaken ?_
    exact fun res t h => ⟨fun _ hreq _ => (by cases hreq), fun _ _ hreq _ => by cases hreq⟩
  | listUsers =>
    refine (serve_safeSrv J env (newServer env) now ctx .listUsers t).weaken ?_
    exact fun res t h => ⟨fun _ hreq _ => (by cases hreq), fun _ _ hreq _ => by cases hreq⟩

end Answers

namespace Web

open Browser

/-! ## The system -/

/-- The requests that the server may get: when each arrives, and what it carries. -/
structure Traffic (ι : Type) where
  now : ι → Time
  ctx : ι → Context
  req : ι → Request

abbrev ServerPool (ι : Type) := Pool ι Effect Effect.Reply (Except Status Response) UsersTable

/-- What the gateway hands to a tab: a user for `getCurrentUser` is what the server answered to a
request with the token of the call, a session for `loginWithGoogle` is one that the server answered.
It may turn any answer into an error. -/
def Relayed {Tab ι : Type} (T : Traffic ι) (c : ServerPool ι) : Event Tab PbUser → Prop
  | .settled _ cached answer => ∀ pb, readResponse answer = .ok pb →
      ∃ i, T.req i = .getCurrentUser ∧ Bearer (T.ctx i) cached ∧ c.Returned i (.ok (.user pb))
  | .signIn _ newJwt newUser => ∃ i idToken, T.req i = .loginWithGoogle idToken ∧
      c.Returned i (.ok (.session ⟨newJwt, newUser⟩))
  | .mount _ => True
  | .signOut _ => True

/-- The tabs of a browser, and the requests at the server over the users table. -/
abbrev Site (Tab ι : Type) :=
  Joint (Browser Tab PbUser) ι Effect Effect.Reply (Except Status Response) UsersTable

/-- One event of a tab, or one action of a request. -/
def SiteStep {Tab ι : Type} [DecidableEq Tab] [DecidableEq ι] (T : Traffic ι) :
    Site Tab ι → Joint.Event (Event Tab PbUser) ι Env → Site Tab ι → Prop :=
  Joint.Step exec fun c b e b' => Relayed T c e ∧ b.Steps e b'

/-- The page has not been opened, and the server has not been asked. -/
def openedSite {Tab ι : Type} (J : GolangJwt) (env : Environ) (T : Traffic ι)
    (storage : LocalStorage) (t : UsersTable) : Site Tab ι where
  client := opened storage
  pool := servedRequests J env (newServer env) T.now T.ctx T.req t

/-! ## Whose sessions the tabs hold -/

section Holds

variable {Tab : Type}

/-- The tokens and users of a browser are those of sessions, by what `session` says of a token and
a user's identifier and admin flag. -/
structure Holds (session : String → String → Bool → Prop) (b : Browser Tab PbUser) : Prop where
  cached : ∀ jwt, b.cachedJwt = some jwt → ∃ id isAdmin, session jwt id isAdmin
  pending : ∀ tab, ∀ jwt ∈ b.pending tab, ∃ id isAdmin, session jwt id isAdmin
  shown : ∀ tab pb, (b.provider tab).user = some pb →
    ∃ jwt, (b.provider tab).jwt = some jwt ∧ session jwt pb.id pb.isAdmin

variable {session : String → String → Bool → Prop} {b b' : Browser Tab PbUser}

theorem Holds.mono {session' : String → String → Bool → Prop} (h : Holds session b)
    (hmono : ∀ jwt id isAdmin, session jwt id isAdmin → session' jwt id isAdmin) :
    Holds session' b where
  cached jwt hjwt := by
    obtain ⟨id, isAdmin, hs⟩ := h.cached jwt hjwt
    exact ⟨id, isAdmin, hmono _ _ _ hs⟩
  pending tab jwt hjwt := by
    obtain ⟨id, isAdmin, hs⟩ := h.pending tab jwt hjwt
    exact ⟨id, isAdmin, hmono _ _ _ hs⟩
  shown tab pb hpb := by
    obtain ⟨jwt, hjwt, hs⟩ := h.shown tab pb hpb
    exact ⟨jwt, hjwt, hmono _ _ _ hs⟩

theorem holds_opened {storage : LocalStorage} (h : storage.getItem STORAGE_KEY = none) :
    Holds session (opened storage : Browser Tab PbUser) where
  cached jwt hjwt := by
    rw [cachedJwt_opened, h] at hjwt
    cases hjwt
  pending tab jwt hjwt := by cases hjwt
  shown tab pb hpb := by cases hpb

theorem Holds.setStorage (h : Holds session b) {storage : LocalStorage}
    (hstorage : ∀ jwt, storage.getItem STORAGE_KEY = some jwt →
      ∃ id isAdmin, session jwt id isAdmin) : Holds session { b with storage := storage } :=
  ⟨hstorage, h.pending, h.shown⟩

variable [DecidableEq Tab]

theorem Holds.setProvider (h : Holds session b) {i : Tab} {p : Provider PbUser}
    (hp : ∀ pb, p.user = some pb → ∃ jwt, p.jwt = some jwt ∧ session jwt pb.id pb.isAdmin) :
    Holds session (b.setProvider i p) where
  cached := h.cached
  pending := h.pending
  shown tab pb hpb := by
    by_cases htab : tab = i
    · subst htab
      simp only [Browser.setProvider, Function.update_self] at hpb ⊢
      exact hp pb hpb
    · simp only [Browser.setProvider, Function.update_of_ne htab] at hpb ⊢
      exact h.shown tab pb hpb

theorem Holds.setPending (h : Holds session b) {i : Tab} {jwts : List String}
    (hjwts : ∀ jwt ∈ jwts, ∃ id isAdmin, session jwt id isAdmin) :
    Holds session (b.setPending i jwts) where
  cached := h.cached
  pending tab jwt hjwt := by
    by_cases htab : tab = i
    · subst htab
      simp only [Browser.setPending, Function.update_self] at hjwt
      exact hjwts jwt hjwt
    · simp only [Browser.setPending, Function.update_of_ne htab] at hjwt
      exact h.pending tab jwt hjwt
  shown := h.shown

theorem Holds.mount (h : Holds session b) (i : Tab) : Holds session (b.mount i) := by
  rcases mount_cases b i with ⟨-, hmount⟩ | ⟨cached, -, hcached, hmount⟩
  · rw [hmount]
    exact h.setProvider (h.shown i)
  · rw [hmount]
    refine h.setPending fun jwt hjwt => ?_
    rcases List.mem_cons.mp hjwt with rfl | hjwt
    · exact h.cached _ hcached
    · exact h.pending i jwt hjwt

theorem Holds.signIn (h : Holds session b) (i : Tab) {jwt : String} {pb : PbUser}
    (hs : session jwt pb.id pb.isAdmin) : Holds session (b.signIn i jwt pb) := by
  refine (h.setProvider (i := i) (p := (b.provider i).signIn jwt pb) ?_).setStorage ?_
  · intro pb' hpb'
    obtain rfl := Option.some.inj hpb'
    exact ⟨jwt, rfl, hs⟩
  · intro jwt' hjwt'
    rw [LocalStorage.getItem_setItem] at hjwt'
    obtain rfl := Option.some.inj hjwt'
    exact ⟨_, _, hs⟩

theorem Holds.signOut (h : Holds session b) (i : Tab) : Holds session (b.signOut i) := by
  refine (h.setProvider (i := i) (p := (b.provider i).signOut) ?_).setStorage ?_
  · intro pb hpb
    cases hpb
  · intro jwt hjwt
    rw [LocalStorage.getItem_removeItem] at hjwt
    cases hjwt

theorem Holds.settle (h : Holds session b) (i : Tab) {cached : String}
    {result : Except ApiError PbUser}
    (hs : ∀ pb, result = .ok pb → session cached pb.id pb.isAdmin) :
    Holds session (b.settle i cached result) := by
  have hpending : Holds session (b.setPending i ((b.pending i).erase cached)) :=
    h.setPending fun jwt hjwt => h.pending i jwt (List.mem_of_mem_erase hjwt)
  cases result with
  | ok pb =>
    refine hpending.setProvider (i := i) (p := (b.provider i).restored cached (.ok pb)) ?_
    intro pb' hpb'
    obtain rfl := Option.some.inj hpb'
    exact ⟨cached, rfl, hs pb rfl⟩
  | error err =>
    refine (hpending.setProvider (i := i) (p := (b.provider i).restored cached (.error err))
      (h.shown i)).setStorage fun jwt hjwt => ?_
    rw [LocalStorage.getItem_removeItem] at hjwt
    cases hjwt

end Holds

/-! ## The invariant -/

section Runs

variable {Tab ι : Type} {J : GolangJwt} {env : Environ} {T : Traffic ι} {t : UsersTable}

/-- The token was issued for the stored user with this identifier and admin flag. -/
def SessionNamed (J : GolangJwt) (env : Environ) (t : UsersTable) (token id : String)
    (isAdmin : Bool) : Prop :=
  ∃ u, SessionOf J env token u t ∧ u.id.text = id ∧ u.isAdmin = isAdmin

theorem SessionNamed.evolve {t' : UsersTable} {token id : String} {isAdmin : Bool}
    (h : SessionNamed J env t token id isAdmin) (h' : TableEvolves t t') :
    SessionNamed J env t' token id isAdmin := by
  obtain ⟨u, hu, hid, hadmin⟩ := h
  exact ⟨u, hu.evolve h', hid, hadmin⟩

/-- What holds of the tabs and the server in every run. -/
structure Truthful (J : GolangJwt) (env : Environ) (T : Traffic ι) (b : Browser Tab PbUser)
    (c : ServerPool ι) : Prop where
  safe : ∀ i, SafeSrv (AnswersFor J env (T.ctx i) (T.req i)) (c.thread i) c.state
  holds : Holds (SessionNamed J env c.state) b

variable {b b' : Browser Tab PbUser} {c : ServerPool ι}

theorem Truthful.answer (h : Truthful J env T b c) {i : ι} {res : Except Status Response}
    (hres : c.Returned i res) : AnswersFor J env (T.ctx i) (T.req i) res c.state := by
  have hsafe := h.safe i
  rw [hres] at hsafe
  exact hsafe _ (TableEvolves.refl _)

/-- A user that a restore is handed is the one its token is for. -/
theorem Truthful.restored (h : Truthful J env T b c) {tab : Tab} {cached : String}
    {answer : Fetched PbUser} (hrelayed : Relayed T c (.settled tab cached answer))
    (hcached : cached ∈ b.pending tab) {pb : PbUser} (hpb : readResponse answer = .ok pb) :
    SessionNamed J env c.state cached pb.id pb.isAdmin := by
  obtain ⟨i, hreq, hbearer, hreturned⟩ := hrelayed pb hpb
  obtain ⟨now, claims, v, ⟨token, hbearer', hvalid⟩, hid, rfl, hv⟩ :=
    (h.answer hreturned).1 pb hreq rfl
  obtain rfl := hbearer.unique hbearer'
  obtain ⟨id, isAdmin, u, hsession, -⟩ := h.holds.pending tab cached hcached
  exact ⟨v, hsession.of_validated hvalid hid hv, rfl, rfl⟩

theorem Truthful.signedIn (h : Truthful J env T b c) {tab : Tab} {jwt : String} {pb : PbUser}
    (hrelayed : Relayed T c (.signIn tab jwt pb)) :
    SessionNamed J env c.state jwt pb.id pb.isAdmin := by
  obtain ⟨i, idToken, hreq, hreturned⟩ := hrelayed
  obtain ⟨v, hv, hsession⟩ := (h.answer hreturned).2 idToken _ hreq rfl
  replace hv : pb = userToProto v := hv
  subst hv
  exact ⟨v, hsession, rfl, rfl⟩

theorem Truthful.server [DecidableEq ι] (h : Truthful J env T b c) (i : ι) (e : Env) :
    Truthful J env T b (c.step exec i e) := by
  have halong : Pool.Along exec (fun c i e => c.Admits (fun _ => anyEnv) i e) c [(i, e)] :=
    Pool.along_admits_true _ _
  have hevolves := Pool.step_guar (fun _ => TableEvolves.refl) (fun _ => TableEvolves.refl) halong.1
    (h.safe i)
  refine ⟨?_, h.holds.mono fun _ _ _ hsession => hsession.evolve hevolves⟩
  exact Pool.step_safe (fun _ => TableEvolves.refl) (fun _ => TableEvolves.trans)
    (fun _ _ _ _ _ h => h) halong.1 h.safe

variable [DecidableEq Tab]

theorem Truthful.client (h : Truthful J env T b c) {e : Event Tab PbUser}
    (hrelayed : Relayed T c e) (hs : b.Steps e b') : Truthful J env T b' c := by
  refine ⟨h.safe, ?_⟩
  cases e with
  | mount i =>
    rw [steps_mount.mp hs]
    exact h.holds.mount i
  | settled i cached answer =>
    obtain ⟨hcached, hb⟩ := steps_settled.mp hs
    rw [hb]
    exact h.holds.settle i fun pb hpb => h.restored hrelayed hcached hpb
  | signIn i jwt pb =>
    rw [steps_signIn.mp hs]
    exact h.holds.signIn i (h.signedIn hrelayed)
  | signOut i =>
    rw [steps_signOut.mp hs]
    exact h.holds.signOut i

variable [DecidableEq ι] {site : Site Tab ι} {storage : LocalStorage}
  {hist : List (Entry (Site Tab ι) (Joint.Event (Event Tab PbUser) ι Env))}

theorem truthful_run (hempty : storage.getItem STORAGE_KEY = none)
    (hrun : Run (SiteStep T) (openedSite J env T storage t) hist site) :
    Truthful J env T site.client site.pool := by
  refine Joint.invariant (Truthful J env T) ?_ (fun _ _ _ _ h hmove => h.client hmove.1 hmove.2)
    (fun _ _ i e h => h.server i e) hrun
  exact ⟨fun i => serve_answersFor (T.now i) (T.ctx i) (T.req i) t, holds_opened hempty⟩

/-- **Whom a tab shows is whom its token is for.** In every run of the tabs and the server, from a
browser without a session, a tab that shows a user holds a token; the user has a row with the
identifier and the admin flag shown, and whatever request the server accepts the token for, it takes
for this user's, an admin's exactly when the tab shows an admin. -/
theorem shown_user_is_session (hempty : storage.getItem STORAGE_KEY = none)
    (hrun : Run (SiteStep T) (openedSite J env T storage t) hist site) {tab : Tab} {pb : PbUser}
    (hpb : (site.client.provider tab).user = some pb) :
    ∃ jwt, (site.client.provider tab).jwt = some jwt ∧
      (∃ r ∈ site.pool.state.rows, r.id.text = pb.id ∧ r.isAdmin = pb.isAdmin) ∧
      ∀ now ctx c, Bearer ctx jwt → Authenticated J env now ctx c → c = ⟨pb.id, pb.isAdmin⟩ := by
  obtain ⟨jwt, hjwt, u, ⟨hknown, t₀, hissued⟩, hid, hadmin⟩ :=
    (truthful_run hempty hrun).holds.shown tab pb hpb
  refine ⟨jwt, hjwt, ?_, fun now ctx c hbearer hauth => ?_⟩
  · obtain ⟨r, hr, hrid, -, hradmin⟩ := hknown
    exact ⟨r, hr, (congrArg Uuid.text hrid).trans hid, hradmin.trans hadmin⟩
  · obtain ⟨token, hbearer', hvalid⟩ := hauth
    obtain rfl := hbearer.unique hbearer'
    rw [claims_of_issueJWT hissued hvalid, hid, hadmin]

end Runs

/-! Ada signs in in a tab. -/

namespace Sample

/-- One request at the server: Ada's sign-in. -/
def adaTraffic : Traffic Unit where
  now := fun _ => SampleGrpc.Sample.env.now
  ctx := fun _ => ⟨none, none⟩
  req := fun _ => .loginWithGoogle SampleGrpc.Sample.adaIDToken.text

def adaSite : Site Unit Unit :=
  openedSite SampleGrpc.Sample.jwt SampleGrpc.Sample.environ adaTraffic (fun _ => none)
    SampleGrpc.Sample.users

end Sample

theorem shown_user_is_session_ada : ∃ (site : Site Unit Unit) (pb : PbUser) (jwt : String),
    (site.client.provider ()).user = some pb ∧ (site.client.provider ()).jwt = some jwt ∧
      (∃ r ∈ site.pool.state.rows, r.id.text = pb.id ∧ r.isAdmin = pb.isAdmin) ∧
      ∀ now ctx c, Bearer ctx jwt →
        Authenticated SampleGrpc.Sample.jwt SampleGrpc.Sample.environ now ctx c →
          c = ⟨pb.id, pb.isAdmin⟩ := by
  obtain ⟨resp, users, hlogin, -⟩ := ada_signs_in
  have hpub : (Request.loginWithGoogle SampleGrpc.Sample.adaIDToken.text).fullMethod ∈
      publicRPCs := fullMethod_public_iff.mpr ⟨_, rfl⟩
  have hthread : Sample.adaSite.pool.thread () =
      loginWithGoogle SampleGrpc.Sample.jwt (newServer SampleGrpc.Sample.environ)
        SampleGrpc.Sample.adaIDToken.text >>= fun r => .ret (r.map .session) := by
    show serve SampleGrpc.Sample.jwt SampleGrpc.Sample.environ
      (newServer SampleGrpc.Sample.environ) SampleGrpc.Sample.env.now ⟨none, none⟩
      (.loginWithGoogle SampleGrpc.Sample.adaIDToken.text) = _
    rw [serve, unaryAuthInterceptor, if_pos hpub]
    rfl
  obtain ⟨sched, -, -, hexec⟩ := Pool.exists_exec_of_runs hlogin rfl hthread
  have hstart : Run (SiteStep Sample.adaTraffic) Sample.adaSite [] Sample.adaSite := .nil
  obtain ⟨hist, hserved⟩ := Joint.run_exec hstart sched
  have hreturned : (Sample.adaSite.pool.exec exec sched).Returned ()
      (.ok (.session ⟨resp.jwt, resp.user⟩)) := by
    simp [Pool.Returned, hexec, Except.map]
  have hrelayed : Relayed Sample.adaTraffic (Sample.adaSite.pool.exec exec sched)
      (.signIn () resp.jwt resp.user : Event Unit PbUser) := ⟨(), _, rfl, hreturned⟩
  have hrun := hserved.snoc (.client ⟨hrelayed, rfl⟩)
  have hshown : ((Sample.adaSite.client.signIn () resp.jwt resp.user).provider ()).user =
      some resp.user := by
    simp [Provider.signIn]
  obtain ⟨jwt, hjwt⟩ := shown_user_is_session rfl hrun hshown
  exact ⟨_, resp.user, jwt, hshown, hjwt⟩

end Web

end SampleGrpc
