import SampleGrpc.Auth.Binding
import SampleGrpc.Auth.ClearedName
import SampleGrpc.Auth.System
import SampleGrpc.Interaction.Directory

/-!
# What the server is for

The server keeps a directory of accounts: the key is the Google subject, the identifier the UUID
that sessions carry, the name the username. Requests are served one after the other, each with
whatever metadata, clock, random draws and faults; a request that fails may still have had its
effect, since no transaction spans its statements.

* `Upserted` — the table after an `UpsertUser`, whatever it returned.
* `Accounts.Serves` — what each answer says about the directory before and after.
* `serve_refines` — the server, over the table, is the directory.
-/

namespace SampleGrpc

open Prog

/-! ## The table after an upsert -/

/-- The columns that a sign-in refreshes are refreshed, and the name is another if there was
none. -/
structure Renewed (email displayName pictureURL : String) (row u : User) : Prop where
  refreshed : ∃ now, OnlyRenamed (refreshed email displayName pictureURL now row) u
  username : u.username = row.username ∨ row.username = none ∧ ValidUsername u.username

/-- The row that a first sign-in inserts. -/
def openedRow (sub email displayName pictureURL : String) (newID : Uuid) (now : Time) : User :=
  { profile email displayName pictureURL with googleSub := sub }.row newID now

/-- The row that a first sign-in inserts, perhaps with a name since. -/
structure Opened (sub email displayName pictureURL : String) (u : User) : Prop where
  row : ∃ newID now, OnlyRenamed (openedRow sub email displayName pictureURL newID now) u
  username : ValidUsername u.username

/-- The table after an upsert: the row found is renewed, or one is opened. -/
inductive Upserted (sub email displayName pictureURL : String) (t : UsersTable) (u : User)
    (t' : UsersTable) : Prop where
  | renewed {row : User} (hfirst : t.first (subjectConds sub) = some row)
      (hu : Renewed email displayName pictureURL row u)
      (hrows : t'.rows = t.rows.map (replaceUser u))
  | opened (hfirst : t.first (subjectConds sub) = none)
      (hu : Opened sub email displayName pictureURL u) (hrows : t'.rows = t.rows ++ [u])

variable {ok : Env → Effect → UsersTable → Prop} {t t' : UsersTable}
  {sub email displayName pictureURL : String}

/-- The attempts at a handle replace the row by one with another name, whatever they return. -/
theorem runs_assignHandle_replaces {r : User} {n : ℕ} {res : Except DbLayerError User}
    (h : Runs exec ok (assignHandle generateUsername r.id.text n) t res t') (hr : r ∈ t.rows)
    (hnull : r.username = none) :
    ∃ r', OnlyRenamed r r' ∧ ValidUsername r'.username ∧
      t'.rows = t.rows.map (replaceUser r') ∧ ∀ u, res = .ok u → u = r' := by
  obtain ⟨es, rest, -, hplay⟩ := Runs.exists_play (P := fun _ : Env => True)
    ⟨Sample.env, trivial⟩ (fun _ _ _ _ => trivial) h
  obtain ⟨r', honly, hrows, hu⟩ := assignHandle_replaces generateUsername_uses n hr es
  rw [hplay] at hrows hu
  refine ⟨r', honly, ?_, hrows, hu⟩
  -- The new name is NULL still, or was drawn.
  obtain ⟨r'', hr'', hedit⟩ := (runs_evolves h (assignHandle_uses _ _)).exists_of_mem hr
  have hmem : r' ∈ t'.rows := hrows ▸ mem_map_replaceKey hr honly.id.symm
  obtain rfl : r'' = r' := UsersTable.eq_of_id hr'' hmem (hedit.id.trans honly.id.symm)
  exact hedit.validUsername fun s hs => by rw [hnull] at hs; cases hs

/-- `FirstOrCreate` fails and changes nothing, or renews the row it finds, or opens one. -/
theorem runs_firstOrCreateUser {res : Except DbError User}
    (h : Runs exec ok (firstOrCreateUser sub email displayName pictureURL) t res t') :
    (t' = t ∧ ∃ err, res = .error err) ∨
    (∃ row now, t.first (subjectConds sub) = some row ∧
      res = .ok (refreshed email displayName pictureURL now row) ∧
      t'.rows = t.rows.map (replaceUser (refreshed email displayName pictureURL now row))) ∨
    ∃ newID now, t.first (subjectConds sub) = none ∧
      res = .ok (openedRow sub email displayName pictureURL newID now) ∧
      t'.rows = t.rows ++ [openedRow sub email displayName pictureURL newID now] := by
  rw [firstOrCreateUser, firstOrCreate_eq] at h
  obtain ⟨err, h⟩ | ⟨now, newID, found, t₁, hquery, h⟩ := runs_sql h
  · obtain ⟨rfl, rfl⟩ := runs_ret_iff.mp h
    exact .inl ⟨rfl, err, rfl⟩
  obtain ⟨hfound, rfl⟩ := UsersTable.query_selectFirst hquery
  cases found with
  | none =>
    have hdest := setFields_profile sub email displayName
      (if pictureURL ≠ "" then some pictureURL else none)
    replace h : Runs exec ok (insertUser (setFields _ _)) t₁ res t' := h
    rw [profile, hdest] at h
    obtain ⟨err, h⟩ | ⟨now, newID, u, t₂, hquery, h⟩ := runs_sql (k := .ret) h
    · obtain ⟨rfl, rfl⟩ := runs_ret_iff.mp h
      exact .inl ⟨rfl, err, rfl⟩
    · obtain ⟨rfl, rfl⟩ := runs_ret_iff.mp h
      obtain ⟨rfl, hrows⟩ := UsersTable.query_insert hquery
      exact .inr (.inr ⟨newID, now, hfound.symm, rfl, hrows⟩)
  | some row =>
    obtain ⟨err, h⟩ | ⟨now, newID, stamp, t₂, hquery, h⟩ :=
      runs_sql (q := .update (subjectConds sub ++ [.id row.id.text]) _)
        (k := fun res => .ret (writeBack (profile email displayName pictureURL) row res)) h
    · obtain ⟨rfl, rfl⟩ := runs_ret_iff.mp h
      exact .inl ⟨rfl, err, rfl⟩
    · obtain ⟨rfl, rfl⟩ := runs_ret_iff.mp h
      refine .inr (.inl ⟨row, stamp, hfound.symm, ?_, rows_of_refresh hfound.symm hquery⟩)
      exact congrArg Except.ok (assignAll_refreshed email displayName pictureURL stamp row)

/-- Replacing the last row of a table by another of its identifier. -/
theorem map_replaceUser_append {r u : User} (hnew : ∀ r' ∈ t.rows, r'.id ≠ r.id)
    (hid : u.id = r.id) : (t.rows ++ [r]).map (replaceUser u) = t.rows ++ [u] := by
  have hold : t.rows.map (replaceUser u) = t.rows.map id :=
    List.map_congr_left fun r' hr' => replaceKey_of_ne (hid.symm ▸ hnew r' hr')
  rw [List.map_append, hold, List.map_id, List.map_singleton, replaceUser,
    replaceKey_of_eq hid.symm]

/-- **The table after an upsert**, whatever it returned. -/
theorem runs_upserted {res : Except DbLayerError User}
    (h : Runs exec ok (upsertUser sub email displayName pictureURL generateUsername) t res t') :
    (t' = t ∧ ∃ err, res = .error err) ∨
      ∃ u, Upserted sub email displayName pictureURL t u t' ∧ ∀ u', res = .ok u' → u' = u := by
  rw [upsertUser_eq] at h
  obtain ⟨res₁, t₁, hfirst, h⟩ := runs_bind_iff.mp h
  obtain ⟨rfl, err, rfl⟩ | ⟨row, now, hrow, rfl, hrows⟩ | ⟨newID, now, hnone, rfl, hrows⟩ :=
    runs_firstOrCreateUser hfirst
  · obtain ⟨rfl, rfl⟩ := runs_ret_iff.mp h
    exact .inl ⟨rfl, _, rfl⟩
  · obtain ⟨hmem, -⟩ := UsersTable.first_eq_some hrow
    have hr : refreshed email displayName pictureURL now row ∈ t₁.rows :=
      hrows ▸ mem_map_replaceKey hmem rfl
    rw [handleReply] at h
    split at h
    · next hnull =>
      obtain ⟨u, honly, hvalid, hrows', hu⟩ := runs_assignHandle_replaces h hr hnull
      refine .inr ⟨u, .renewed hrow ⟨⟨now, honly⟩, .inr ⟨hnull, hvalid⟩⟩ ?_, hu⟩
      rw [hrows', hrows, map_replaceKey_replaceKey honly.id]
    · obtain ⟨rfl, rfl⟩ := runs_ret_iff.mp h
      exact .inr ⟨_, .renewed hrow ⟨⟨now, .refl _⟩, .inl rfl⟩ hrows,
        fun u' hu' => (Except.ok.inj hu').symm⟩
  · have hr : openedRow sub email displayName pictureURL newID now ∈ t₁.rows := by simp [hrows]
    have hnull : (openedRow sub email displayName pictureURL newID now).username = none := rfl
    rw [handleReply, if_pos hnull] at h
    obtain ⟨u, honly, hvalid, hrows', hu⟩ := runs_assignHandle_replaces h hr hnull
    refine .inr ⟨u, .opened hnone ⟨⟨newID, now, honly⟩, hvalid⟩ ?_, hu⟩
    rw [hrows', hrows, map_replaceUser_append (notMem_id_of_append hrows) honly.id]

/-- A sign-in has no effect, or is that of the subject of an ID token of Google's. -/
theorem runs_loginWithGoogle_upserted {J : GolangJwt} {s : Server} {idToken : String}
    {res : Except Status SessionResponse}
    (h : Runs exec ok (loginWithGoogle J s idToken) t res t') :
    (t' = t ∧ ∃ st, res = .error st) ∨
    ∃ tok reply now u, GoogleSigned J reply now idToken tok ∧
      (s.googleClientID ≠ "" → audMatch tok.claims s.googleClientID = true) ∧
      Upserted (tok.claims.getString "sub") (tok.claims.getString "email")
        (tok.claims.getString "name") (tok.claims.getString "picture") t u t' ∧
      ∀ resp, res = .ok resp → resp.user = userToProto u ∧
        ∃ at', issueJWT J at' u.id.text u.isAdmin s.jwtSecret = .ok resp.jwt := by
  by_cases hne : idToken = ""
  · subst hne
    obtain ⟨rfl, rfl⟩ := runs_ret_iff.mp h
    exact .inl ⟨rfl, _, rfl⟩
  rw [loginWithGoogle_eq hne] at h
  obtain ⟨res₁, t₁, hverify, h⟩ := runs_bind_iff.mp h
  cases res₁ with
  | error err =>
    obtain ⟨e, -, h⟩ := runs_act_iff.mp h
    obtain ⟨rfl, rfl⟩ := runs_ret_iff.mp h
    exact .inl ⟨runs_readsOnly hverify (verifyGoogleIDToken_uses _ _ _ _), _, rfl⟩
  | ok g =>
    obtain ⟨rfl, tok, reply, now, hsigned, haud, rfl⟩ := runs_verifyGoogleIDToken hverify
    obtain ⟨res₂, t₂, hupsert, h⟩ := runs_bind_iff.mp h
    have hsession := runs_readsOnly h (issueSession_uses J s res₂)
    subst hsession
    obtain ⟨rfl, err, rfl⟩ | ⟨u, hu, hok⟩ := runs_upserted hupsert
    · obtain ⟨rfl, -⟩ := runs_ret_iff.mp h
      exact .inl ⟨rfl, _, rfl⟩
    · refine .inr ⟨tok, reply, now, u, hsigned, haud, hu, fun resp hresp => ?_⟩
      subst hresp
      cases res₂ with
      | error err => cases (runs_ret_iff.mp h).1
      | ok u' =>
        obtain rfl := hok u' rfl
        obtain ⟨session, hsession, hissue⟩ := issueSession_ok J s u'
        rw [hsession] at h
        obtain ⟨e, -, h⟩ := runs_act_iff.mp h
        obtain rfl := Except.ok.inj (runs_ret_iff.mp h).1
        exact ⟨(hissue e.now).1, e.now, (hissue e.now).2⟩

/-- An `UpdateProfile` has no effect, or the name asked for is the caller's. -/
theorem runs_updateProfile_renamed {ctx : Context} {claims : Claims} {username : String}
    {res : Except Status PbUser} (hclaims : claimsFromContext ctx = some claims)
    (h : Runs exec ok (updateProfile ctx username) t res t') :
    (t' = t ∧ ∃ st, res = .error st) ∨
      ∃ u, ProfileChanged claims.userID username t t' u ∧
        ∀ pb, res = .ok pb → pb = userToProto u := by
  obtain ⟨es, rest, -, hplay⟩ := Runs.exists_play (P := fun _ : Env => True)
    ⟨Sample.env, trivial⟩ (fun _ _ _ _ => trivial) h
  obtain ⟨hok, herr⟩ := updateProfile_atomic hclaims username es t
  rw [hplay] at hok herr
  cases res with
  | ok pb =>
    obtain ⟨u, rfl, hchanged⟩ := hok pb rfl
    exact .inr ⟨u, hchanged, fun pb' hpb => (Except.ok.inj hpb).symm⟩
  | error st =>
    obtain hsame | ⟨-, u, hchanged⟩ := herr st rfl
    · exact .inl ⟨hsame, st, rfl⟩
    · exact .inr ⟨u, hchanged, fun pb hpb => by cases hpb⟩

/-! ## The directory -/

structure Profile where
  email : String
  displayName : String
  pictureURL : Option String
  isAdmin : Bool
  createdAt : Time

/-- Accounts by Google subject. -/
abbrev Accounts := Directory String Uuid String Profile

abbrev UserAccount := Account Uuid String Profile

/-- An account as the API shows it. -/
def Account.toProto (a : UserAccount) : PbUser where
  id := a.id.text
  email := a.profile.email
  displayName := a.profile.displayName
  username := a.name.getD ""
  pictureUrl := a.profile.pictureURL.getD ""
  isAdmin := a.profile.isAdmin

/-- What a sign-in brings replaces what is there, unless it is empty. -/
def Profile.refresh (g : GoogleClaims) (p : Profile) : Profile :=
  { p with
    email := if g.email ≠ "" then g.email else p.email
    displayName := if g.displayName ≠ "" then g.displayName else p.displayName
    pictureURL := if g.picture ≠ "" then some g.picture else p.pictureURL }

/-- The profile of an account that a sign-in opens. -/
def Profile.opened (g : GoogleClaims) (now : Time) : Profile where
  email := g.email
  displayName := g.displayName
  pictureURL := if g.picture ≠ "" then some g.picture else none
  isAdmin := false
  createdAt := now

/-- The account that a sign-in is about. Without a subject it is the one with the least
identifier. -/
inductive Selects (d : Accounts) : String → String → Prop where
  | subject {sub : String} (hsub : sub ≠ "") : Selects d sub sub
  | least {k : String} {a : UserAccount} (ha : d.account k = some a)
      (hleast : ∀ k' a', d.account k' = some a' → a.id ≤ a'.id) : Selects d "" k
  | empty (hnone : ∀ k, d.account k = none) : Selects d "" ""

/-- `g` is what an ID token of Google's says, and is meant for this server. -/
def Vouched (J : GolangJwt) (s : Server) (idToken : String) (g : GoogleClaims) : Prop :=
  ∃ tok reply now, GoogleSigned J reply now idToken tok ∧
    (s.googleClientID ≠ "" → audMatch tok.claims s.googleClientID = true) ∧
    g = googleClaims tok.claims

/-- The effect of a sign-in on the directory, and the account it is about. -/
inductive SignsIn (J : GolangJwt) (s : Server) (idToken : String) (d : Accounts) (a : UserAccount)
    (d' : Accounts) : Prop where
  | returns {g : GoogleClaims} {k : String} {a₀ : UserAccount} (hg : Vouched J s idToken g)
      (hk : Selects d g.sub k) (ha₀ : d.account k = some a₀) (hid : a.id = a₀.id)
      (hprofile : a.profile = a₀.profile.refresh g)
      (hname : a.name = a₀.name ∨ a₀.name = none ∧ ValidUsername a.name) (hd : d.Writes k a d')
  | opens {g : GoogleClaims} {k : String} {now : Time} (hg : Vouched J s idToken g)
      (hk : Selects d g.sub k) (hnone : d.account k = none)
      (hprofile : a.profile = .opened g now) (hname : ValidUsername a.name) (hd : d.Writes k a d')

/-- The request is made by the user `i`. -/
def MadeBy (J : GolangJwt) (env : Environ) (now : Time) (ctx : Context) (i : Uuid) : Prop :=
  ∃ claims, Authenticated J env now ctx claims ∧ Uuid.parse claims.userID = some i

/-- The effect of an `UpdateProfile` on the directory, and the account it is about. -/
def SetsName (J : GolangJwt) (env : Environ) (now : Time) (ctx : Context) (username : String)
    (d : Accounts) (a : UserAccount) (d' : Accounts) : Prop :=
  ∃ k a₀, MadeBy J env now ctx a₀.id ∧ (username ≠ "" → usernameRE username = true) ∧
    d.account k = some a₀ ∧ a = { a₀ with name := requestedName username } ∧ d.Writes k a d'

/-- A request that has been served. -/
structure Served where
  now : Time
  ctx : Context
  req : Request
  res : Except Status Response

/-- The effect of a request, if it has one. -/
inductive Affects (J : GolangJwt) (env : Environ) (x : Served) (d d' : Accounts) : Prop where
  | signsIn {idToken : String} {a : UserAccount} (hreq : x.req = .loginWithGoogle idToken)
      (h : SignsIn J (newServer env) idToken d a d')
  | setsName {username : String} {a : UserAccount} (hreq : x.req = .updateProfile username)
      (h : SetsName J env x.now x.ctx username d a d')

/-- **What the server is for**: an answer shows the account it is about as it is, with a session
for it if it is a sign-in; a request that fails has had its effect or none. -/
inductive Accounts.Serves (J : GolangJwt) (env : Environ) :
    Accounts → Served → Accounts → Prop where
  | signedIn {d d' : Accounts} {now at' : Time} {ctx : Context} {idToken jwt : String}
      {a : UserAccount} (h : SignsIn J (newServer env) idToken d a d')
      (hjwt : issueJWT J at' a.id.text a.profile.isAdmin env.jwtSecret = .ok jwt) :
      Serves J env d ⟨now, ctx, .loginWithGoogle idToken, .ok (.session ⟨jwt, a.toProto⟩)⟩ d'
  | renamed {d d' : Accounts} {now : Time} {ctx : Context} {username : String} {a : UserAccount}
      (h : SetsName J env now ctx username d a d') :
      Serves J env d ⟨now, ctx, .updateProfile username, .ok (.user a.toProto)⟩ d'
  | found {d : Accounts} {now : Time} {ctx : Context} {k : String} {a : UserAccount}
      (hcaller : MadeBy J env now ctx a.id) (ha : d.account k = some a) :
      Serves J env d ⟨now, ctx, .getCurrentUser, .ok (.user a.toProto)⟩ d
  | listed {d : Accounts} {now : Time} {ctx : Context} {claims : Claims} {l : List UserAccount}
      (hcaller : Authenticated J env now ctx claims) (hadmin : claims.isAdmin = true)
      (hl : d.Lists l) (hsorted : l.Pairwise (·.profile.createdAt ≤ ·.profile.createdAt)) :
      Serves J env d ⟨now, ctx, .listUsers, .ok (.users (l.map Account.toProto))⟩ d
  | failed {d d' : Accounts} {x : Served} {st : Status} (hres : x.res = .error st)
      (h : d' = d ∨ Affects J env x d d') : Serves J env d x d'

/-! ## The table as a directory -/

def User.account (r : User) : UserAccount where
  id := r.id
  name := r.username
  profile := ⟨r.email, r.displayName, r.pictureURL, r.isAdmin, r.createdAt⟩

@[simp] theorem toProto_account (r : User) : r.account.toProto = userToProto r := rfl

def lookup (t : UsersTable) (sub : String) : Option UserAccount :=
  (t.rows.find? fun r => r.googleSub = sub).map User.account

theorem lookup_eq_some {k : String} {a : UserAccount} :
    lookup t k = some a ↔ ∃ r ∈ t.rows, r.googleSub = k ∧ r.account = a := by
  unfold lookup
  rw [Option.map_eq_some_iff]
  refine ⟨fun h => ?_, fun h => ?_⟩
  · obtain ⟨r, hfind, ha⟩ := h
    have hsub : r.googleSub = k := by simpa using List.find?_some hfind
    exact ⟨r, List.mem_of_find?_eq_some hfind, hsub, ha⟩
  · obtain ⟨r, hr, hsub, ha⟩ := h
    refine ⟨r, ?_, ha⟩
    cases hfind : t.rows.find? fun r => r.googleSub = k with
    | none =>
      rw [List.find?_eq_none] at hfind
      exact absurd (decide_eq_true hsub) (hfind r hr)
    | some r' =>
      have hsub' : r'.googleSub = k := by simpa using List.find?_some hfind
      rw [UsersTable.eq_of_googleSub hr (List.mem_of_find?_eq_some hfind) (hsub.trans hsub'.symm)]

/-- The directory that the table stores. -/
def accounts (t : UsersTable) : Accounts where
  account := lookup t
  id_unique := by
    intro k k' a a' h h' hid
    obtain ⟨r, hr, rfl, rfl⟩ := lookup_eq_some.mp h
    obtain ⟨r', hr', rfl, rfl⟩ := lookup_eq_some.mp h'
    rw [UsersTable.eq_of_id hr hr' hid]
  name_unique := by
    intro k k' a a' n h h' hn hn'
    obtain ⟨r, hr, rfl, rfl⟩ := lookup_eq_some.mp h
    obtain ⟨r', hr', rfl, rfl⟩ := lookup_eq_some.mp h'
    rw [UsersTable.eq_of_username hr hr' hn hn']

theorem account_eq_some {k : String} {a : UserAccount} :
    (accounts t).account k = some a ↔ ∃ r ∈ t.rows, r.googleSub = k ∧ r.account = a :=
  lookup_eq_some

theorem account_of_mem {r : User} (hr : r ∈ t.rows) :
    (accounts t).account r.googleSub = some r.account := account_eq_some.mpr ⟨r, hr, rfl, rfl⟩

/-! ## Changes of the table -/

/-- Replacing a row writes its account. -/
theorem writes_replaceUser {r u : User} (hr : r ∈ t.rows) (hid : u.id = r.id)
    (hsub : u.googleSub = r.googleSub) (hrows : t'.rows = t.rows.map (replaceUser u)) :
    (accounts t).Writes r.googleSub u.account (accounts t') := by
  have hu : u ∈ t'.rows := hrows ▸ mem_map_replaceKey hr hid.symm
  funext k
  by_cases hk : k = r.googleSub
  · subst hk
    rw [Function.update_self]
    exact account_eq_some.mpr ⟨u, hu, hsub, rfl⟩
  · rw [Function.update_of_ne hk]
    ext a
    rw [account_eq_some, account_eq_some]
    -- A row of another subject is another row, before and after.
    refine exists_congr fun r' => ⟨fun h => ?_, fun h => ?_⟩
    · obtain ⟨hr', rfl, ha⟩ := h
      have hne : r'.id ≠ u.id := fun heq =>
        hk ((congrArg User.googleSub (UsersTable.eq_of_id hr' hu heq)).trans hsub)
      exact ⟨(mem_map_replaceKey_iff_of_ne hne).mp (hrows ▸ hr'), rfl, ha⟩
    · obtain ⟨hr', rfl, ha⟩ := h
      have hne : r'.id ≠ u.id := fun heq =>
        hk (congrArg User.googleSub (UsersTable.eq_of_id hr' hr (heq.trans hid)))
      exact ⟨hrows ▸ (mem_map_replaceKey_iff_of_ne hne).mpr hr', rfl, ha⟩

/-- Appending a row opens its account. -/
theorem writes_append {u : User} (hrows : t'.rows = t.rows ++ [u]) :
    (accounts t).Writes u.googleSub u.account (accounts t') := by
  have hu : u ∈ t'.rows := by simp [hrows]
  funext k
  by_cases hk : k = u.googleSub
  · subst hk
    rw [Function.update_self]
    exact account_of_mem hu
  · rw [Function.update_of_ne hk]
    ext a
    rw [account_eq_some, account_eq_some]
    refine exists_congr fun r' => and_congr_left fun h => ?_
    have hne : r' ≠ u := fun heq => hk (h.1.symm.trans (congrArg User.googleSub heq))
    simp [hrows, hne]

/-- The row that a sign-in finds is the account it selects. -/
theorem selects_of_first {sub : String} {row : User}
    (hfirst : t.first (subjectConds sub) = some row) :
    Selects (accounts t) sub row.googleSub := by
  obtain ⟨hrow, hsat⟩ := UsersTable.first_eq_some hfirst
  by_cases hsub : sub = ""
  · subst hsub
    refine .least (account_of_mem hrow) fun k' a' ha' => ?_
    obtain ⟨r', hr', -, rfl⟩ := account_eq_some.mp ha'
    have hmem : r' ∈ t.rows.filter (satisfies (subjectConds "")) :=
      List.mem_filter.mpr ⟨hr', satisfies_subjectConds.mpr (.inl rfl)⟩
    exact List.le_of_mem_argmin (f := User.id) hmem hfirst
  · obtain rfl := (satisfies_subjectConds.mp hsat).resolve_left hsub
    exact .subject hsub

/-- A sign-in that finds no row opens the account of its subject. -/
theorem selects_of_first_none {sub : String} (hfirst : t.first (subjectConds sub) = none) :
    Selects (accounts t) sub sub ∧ (accounts t).account sub = none := by
  have hnot (r : User) (hr : r ∈ t.rows) : ¬ (sub = "" ∨ r.googleSub = sub) := by
    rw [← satisfies_subjectConds, UsersTable.first_eq_none hfirst hr]
    exact Bool.false_ne_true
  refine ⟨?_, Option.eq_none_iff_forall_ne_some.mpr fun a ha => ?_⟩
  · by_cases hsub : sub = ""
    · subst hsub
      refine .empty fun k => Option.eq_none_iff_forall_ne_some.mpr fun a ha => ?_
      obtain ⟨r, hr, -⟩ := account_eq_some.mp ha
      exact hnot r hr (.inl rfl)
    · exact .subject hsub
  · obtain ⟨r, hr, hr', -⟩ := account_eq_some.mp ha
    exact hnot r hr (.inr hr')

theorem signsIn_of_upserted {J : GolangJwt} {s : Server} {idToken : String} {g : GoogleClaims}
    {u : User} (hg : Vouched J s idToken g)
    (h : Upserted g.sub g.email g.displayName g.picture t u t') :
    SignsIn J s idToken (accounts t) u.account (accounts t') := by
  cases h with
  | @renewed row hfirst hu hrows =>
    obtain ⟨hrow, -⟩ := UsersTable.first_eq_some hfirst
    obtain ⟨⟨now, name, stamp, rfl⟩, hname⟩ := hu
    exact .returns hg (selects_of_first hfirst) (account_of_mem hrow) rfl rfl hname
      (writes_replaceUser hrow rfl rfl hrows)
  | opened hfirst hu hrows =>
    obtain ⟨hk, hnone⟩ := selects_of_first_none hfirst
    obtain ⟨⟨newID, now, name, stamp, hrow⟩, hvalid⟩ := hu
    have hprofile : u.account.profile = Profile.opened g now := by rw [hrow]; rfl
    have hsub : u.googleSub = g.sub := by rw [hrow]; rfl
    exact .opens hg hk hnone hprofile hvalid (hsub ▸ writes_append hrows)

theorem setsName_of_changed {J : GolangJwt} {env : Environ} {now : Time} {ctx : Context}
    {claims : Claims} {username : String} {u : User} (hauth : Authenticated J env now ctx claims)
    (hvalid : username ≠ "" → usernameRE username = true)
    (h : ProfileChanged claims.userID username t t' u) :
    SetsName J env now ctx username (accounts t) u.account (accounts t') := by
  obtain ⟨stamp, hrows⟩ := h.rows
  obtain ⟨r, hr, hru⟩ := List.mem_map.mp (hrows ▸ h.stored)
  have hid : r.id = u.id := by rw [← hru, User.rename_id]
  rw [User.rename_self hid] at hru
  subst hru
  refine ⟨r.googleSub, r.account, ⟨claims, hauth, h.caller⟩, hvalid, account_of_mem hr, rfl, ?_⟩
  have hreplace := map_eq_replaceKey (f := User.rename r.id (requestedName username) stamp)
    t.id_nodup hr (User.rename_id _ _ _ r) fun _ => User.rename_of_ne
  rw [User.rename_self rfl] at hreplace
  exact writes_replaceUser hr rfl rfl (hrows.trans hreplace)

/-- A list of all rows lists all accounts. -/
theorem lists_accounts {rows : List User} (hperm : rows.Perm t.rows) :
    (accounts t).Lists (rows.map User.account) where
  mem a := by
    rw [List.mem_map]
    refine ⟨fun h => ?_, fun h => ?_⟩
    · obtain ⟨r, hr, rfl⟩ := h
      exact ⟨r.googleSub, account_of_mem (hperm.mem_iff.mp hr)⟩
    · obtain ⟨k, hk⟩ := h
      obtain ⟨r, hr, -, rfl⟩ := account_eq_some.mp hk
      exact ⟨r, hperm.mem_iff.mpr hr, rfl⟩
  nodup := by
    rw [List.map_map]
    exact (hperm.map User.id).nodup_iff.mpr t.id_nodup

/-! ## The server over the table -/

variable {J : GolangJwt} {env : Environ} {now : Time} {ctx : Context}

/-- A method that answers with a user. -/
theorem runs_map_iff {β : Type} {p : Srv (Except Status β)} {f : β → Response}
    {res : Except Status Response} :
    Runs exec ok (p >>= fun r => .ret (r.map f)) t res t' ↔
      ∃ r, Runs exec ok p t r t' ∧ res = r.map f := by
  rw [runs_bind_iff]
  refine ⟨fun h => ?_, fun h => ?_⟩
  · obtain ⟨r, t₁, hr, h⟩ := h
    obtain ⟨rfl, rfl⟩ := runs_ret_iff.mp h
    exact ⟨r, hr, rfl⟩
  · obtain ⟨r, hr, rfl⟩ := h
    exact ⟨r, t', hr, .ret _ _⟩

theorem serves_loginWithGoogle {idToken : String} {res : Except Status Response}
    (h : Runs exec ok (handler J (newServer env) ctx (.loginWithGoogle idToken)) t res t') :
    (accounts t).Serves J env ⟨now, ctx, .loginWithGoogle idToken, res⟩ (accounts t') := by
  obtain ⟨r, hrun, rfl⟩ := runs_map_iff.mp h
  obtain ⟨rfl, st, rfl⟩ | ⟨tok, reply, at', u, hsigned, haud, hu, hok⟩ :=
    runs_loginWithGoogle_upserted hrun
  · exact .failed rfl (.inl rfl)
  · have hg : Vouched J (newServer env) idToken (googleClaims tok.claims) :=
      ⟨tok, reply, at', hsigned, haud, rfl⟩
    have hsigns := signsIn_of_upserted hg hu
    cases r with
    | error st => exact .failed rfl (.inr (.signsIn rfl hsigns))
    | ok resp =>
      obtain ⟨jwt, user⟩ := resp
      obtain ⟨hshown, at'', hjwt⟩ := hok _ rfl
      rw [show user = u.account.toProto from hshown]
      exact .signedIn (a := u.account) hsigns hjwt

theorem serves_updateProfile {claims : Claims} {username : String} {res : Except Status Response}
    (hauth : Authenticated J env now ctx claims)
    (h : Runs exec ok (handler J (newServer env) (withClaims ctx claims) (.updateProfile username))
      t res t') :
    (accounts t).Serves J env ⟨now, ctx, .updateProfile username, res⟩ (accounts t') := by
  obtain ⟨r, hrun, rfl⟩ := runs_map_iff.mp h
  have hclaims : claimsFromContext (withClaims ctx claims) = some claims := rfl
  by_cases hvalid : username ≠ "" → usernameRE username = true
  · obtain ⟨rfl, st, rfl⟩ | ⟨u, hchanged, hok⟩ := runs_updateProfile_renamed hclaims hrun
    · exact .failed rfl (.inl rfl)
    · have hset := setsName_of_changed hauth hvalid hchanged
      cases r with
      | error st => exact .failed rfl (.inr (.setsName rfl hset))
      | ok pb =>
        rw [hok pb rfl]
        exact .renamed (a := u.account) hset
  · obtain ⟨st, hinvalid⟩ := updateProfile_invalid hclaims hvalid
    rw [hinvalid] at hrun
    obtain ⟨rfl, rfl⟩ := runs_ret_iff.mp hrun
    exact .failed rfl (.inl rfl)

theorem serves_getCurrentUser {claims : Claims} {res : Except Status Response}
    (hauth : Authenticated J env now ctx claims)
    (h : Runs exec ok (handler J (newServer env) (withClaims ctx claims) .getCurrentUser)
      t res t') :
    (accounts t).Serves J env ⟨now, ctx, .getCurrentUser, res⟩ (accounts t') := by
  obtain ⟨r, hrun, rfl⟩ := runs_map_iff.mp h
  obtain rfl := runs_readsOnly hrun (getCurrentUser_uses _)
  cases r with
  | error st => exact .failed rfl (.inl rfl)
  | ok pb =>
    obtain ⟨found, t₁, hget, hrun⟩ := runs_bind_iff.mp hrun
    cases found with
    | error err => cases (runs_ret_iff.mp hrun).1
    | ok u =>
      obtain ⟨hpb, rfl⟩ := runs_ret_iff.mp hrun
      obtain rfl := Except.ok.inj hpb
      rw [getUserByID_eq] at hget
      obtain ⟨e, -, hget⟩ := runs_act_iff.mp hget
      obtain ⟨hu, -⟩ := runs_ret_iff.mp hget
      obtain ⟨hmem, hid⟩ := of_getReply hu.symm
      exact .found (a := u.account) ⟨claims, hauth, hid⟩ (account_of_mem hmem)

theorem serves_listUsers {claims : Claims} {res : Except Status Response}
    (hauth : Authenticated J env now ctx claims) (hadmin : claims.isAdmin = true)
    (h : Runs exec ok (handler J (newServer env) (withClaims ctx claims) .listUsers) t res t') :
    (accounts t).Serves J env ⟨now, ctx, .listUsers, res⟩ (accounts t') := by
  obtain ⟨r, hrun, rfl⟩ := runs_map_iff.mp h
  obtain rfl := runs_readsOnly hrun listUsers_uses
  cases r with
  | error st => exact .failed rfl (.inl rfl)
  | ok pbs =>
    obtain ⟨found, t₁, hall, hrun⟩ := runs_bind_iff.mp hrun
    cases found with
    | error err => cases (runs_ret_iff.mp hrun).1
    | ok users =>
      obtain ⟨hpbs, rfl⟩ := runs_ret_iff.mp hrun
      obtain rfl := Except.ok.inj hpbs
      obtain ⟨err, hall⟩ | ⟨at', newID, rows, t₂, hquery, hall⟩ := runs_sql hall
      · cases (runs_ret_iff.mp hall).1
      · obtain ⟨rfl, rfl⟩ := UsersTable.query_selectAll hquery
        obtain rfl := Except.ok.inj (runs_ret_iff.mp hall).1
        have hsorted := List.pairwise_insertionSort
          (fun r r' : User => r.createdAt ≤ r'.createdAt) t₂.rows
        have hlisted : (accounts t₂).Serves J env ⟨now, ctx, .listUsers, _⟩ (accounts t₂) :=
          .listed hauth hadmin (lists_accounts (List.perm_insertionSort _ _))
            (List.pairwise_map.mpr hsorted)
        rwa [List.map_map] at hlisted

/-- One request at the server, with whatever faults and answers of the JWKS URL. -/
def serveStep (J : GolangJwt) (env : Environ) (t : UsersTable) (x : Served) (t' : UsersTable) :
    Prop :=
  Runs exec anyEnv (serve J env (newServer env) x.now x.ctx x.req) t x.res t'

/-- Only signing in needs no session. -/
theorem fullMethod_public_iff {req : Request} :
    req.fullMethod ∈ publicRPCs ↔ ∃ idToken, req = .loginWithGoogle idToken := by
  cases req <;> simp [Request.fullMethod, publicRPCs]

/-- One request. -/
theorem serves_of_serveStep {x : Served} (h : serveStep J env t x t') :
    (accounts t).Serves J env x (accounts t') := by
  obtain ⟨now, ctx, req, res⟩ := x
  rcases serve_cases J env (newServer env) now ctx req with
    ⟨st, hserve⟩ | ⟨hpub, hserve⟩ | ⟨hpub, claims, hauth, hadmin, hserve⟩
  all_goals rw [serveStep, hserve] at h
  · obtain ⟨rfl, rfl⟩ := runs_ret_iff.mp h
    exact .failed rfl (.inl rfl)
  · obtain ⟨idToken, rfl⟩ := fullMethod_public_iff.mp hpub
    exact serves_loginWithGoogle h
  · cases req with
    | loginWithGoogle idToken => exact absurd (fullMethod_public_iff.mpr ⟨idToken, rfl⟩) hpub
    | updateProfile username => exact serves_updateProfile hauth h
    | getCurrentUser => exact serves_getCurrentUser hauth h
    | listUsers =>
      exact serves_listUsers hauth (hadmin.resolve_left (not_not_intro (by decide))) h

/-- **The server, over the table, is the directory.** In every run of requests one after the other,
whatever metadata they carry and whichever statements fail, the directories that the table stores
make a run of `Accounts.Serves` with the same requests and answers. -/
theorem serve_refines {t₀ : UsersTable} {hist : List (Entry UsersTable Served)}
    (h : Run (serveStep J env) t₀ hist t) :
    Run (Accounts.Serves J env) (accounts t₀) (hist.map (Entry.map accounts)) (accounts t) :=
  h.simulate fun _ _ _ => serves_of_serveStep

/-- A sign-in that runs is a request served. -/
theorem serveStep_loginWithGoogle {idToken : String} {resp : SessionResponse}
    (h : Runs exec ok (loginWithGoogle J (newServer env) idToken) t (.ok resp) t') (now : Time)
    (ctx : Context) :
    serveStep J env t ⟨now, ctx, .loginWithGoogle idToken, .ok (.session resp)⟩ t' := by
  have hpub : (Request.loginWithGoogle idToken).fullMethod ∈ publicRPCs :=
    fullMethod_public_iff.mpr ⟨idToken, rfl⟩
  have hserve : serve J env (newServer env) now ctx (.loginWithGoogle idToken) =
      handler J (newServer env) ctx (.loginWithGoogle idToken) := by
    rw [serve, unaryAuthInterceptor, if_pos hpub]
  rw [serveStep, hserve]
  exact runs_map_iff.mpr ⟨.ok resp, h.mono fun _ _ _ _ => trivial, rfl⟩

/-- Ada signs in. -/
theorem serve_refines_ada : ∃ resp users,
    Run (Accounts.Serves Sample.jwt Sample.environ) (accounts Sample.users)
      [⟨accounts Sample.users, ⟨Sample.env.now, ⟨none, none⟩,
        .loginWithGoogle Sample.adaIDToken.text, .ok (.session resp)⟩, accounts users⟩]
      (accounts users) := by
  obtain ⟨resp, users, hlogin, -⟩ := ada_signs_in
  have hstep := serveStep_loginWithGoogle hlogin Sample.env.now ⟨none, none⟩
  exact ⟨resp, users, serve_refines (Run.nil.snoc hstep)⟩

end SampleGrpc
