import SampleGrpc.Auth.Footprint
import SampleGrpc.Auth.TokenTable
import SampleGrpc.Interaction.Pool

/-!
# One sign-in

What a `LoginWithGoogle` that succeeds has done, run alone, whatever the environment chose along
the way.

* `runs_loginWithGoogle` — which row the session is for, and that no other row changed.
* `loginWithGoogle_runs` — a user with a name can sign in again.
-/

namespace SampleGrpc

open Prog

variable {ok : Env → Effect → UsersTable → Prop} {α : Type} {t t' : UsersTable}

/-- A statement fails and changes nothing, or the program continues with its result. -/
theorem runs_sql {q : Stmt} {k : Except DbError q.Result → Srv α} {a : α}
    (h : Runs exec ok (.act (.sql q) k) t a t') :
    (∃ err, Runs exec ok (k (.error err)) t a t') ∨
      ∃ now newID x t₁, t.query now newID q = .ok (x, t₁) ∧ Runs exec ok (k (.ok x)) t₁ a t' := by
  obtain ⟨e, -, h⟩ := runs_act_iff.mp h
  rcases execSql_cases e q t with ⟨err, hexec⟩ | ⟨x, t₁, -, hquery, hexec⟩
  · rw [show exec e (.sql q) t = _ from hexec] at h
    exact .inl ⟨err, h⟩
  · rw [show exec e (.sql q) t = _ from hexec] at h
    exact .inr ⟨_, _, x, t₁, hquery, h⟩

/-! ## Changes confined to one row -/

/-- The tables agree on every row but the one with this id. -/
def OnlyRow (i : Uuid) (t t' : UsersTable) : Prop := ∀ r, r.id ≠ i → (r ∈ t.rows ↔ r ∈ t'.rows)

theorem OnlyRow.refl (i : Uuid) (t : UsersTable) : OnlyRow i t t := fun _ _ => Iff.rfl

theorem OnlyRow.trans {i : Uuid} {t₁ t₂ t₃ : UsersTable} (h : OnlyRow i t₁ t₂)
    (h' : OnlyRow i t₂ t₃) : OnlyRow i t₁ t₃ := fun r hr => (h r hr).trans (h' r hr)

@[simp] theorem assignAll_id (set : List Column) (r : User) : (assignAll set r).id = r.id := by
  induction set generalizing r with
  | nil => rfl
  | cons c set ih =>
    rw [assignAll, List.foldl_cons, ← assignAll, ih]
    cases c <;> rfl

theorem onlyRow_update {i : Uuid} {conds : List Condition} {set : List Column} {now : Time}
    (hconds : ∀ r, satisfies conds r = true → r.id = i)
    (hrows : t'.rows = t.rows.map (updateRow conds set now)) : OnlyRow i t t' := by
  intro r hr
  have hsame (r₀ : User) (h : r₀.id ≠ i) : updateRow conds set now r₀ = r₀ :=
    if_neg fun hsat => h (hconds r₀ hsat)
  rw [hrows, List.mem_map]
  refine ⟨?_, ?_⟩
  · exact fun hmem => ⟨r, hmem, hsame r hr⟩
  · intro h
    obtain ⟨r₀, hmem, rfl⟩ := h
    by_cases hsat : satisfies conds r₀ = true
    · refine absurd ?_ hr
      simpa [updateRow, hsat] using hconds r₀ hsat
    · rwa [updateRow, if_neg hsat]

theorem onlyRow_insert {r : User} (hrows : t'.rows = t.rows ++ [r]) : OnlyRow r.id t t' := by
  intro r' hr'
  have hne : r' ≠ r := fun h => hr' (h ▸ rfl)
  simp [hrows, hne]

/-! ## The database layer -/

theorem runs_getUserByID {i : Uuid} {u : User}
    (h : Runs exec ok (getUserByID i.text) t (.ok u) t') : t' = t ∧ u ∈ t.rows ∧ u.id = i := by
  rcases runs_sql h with ⟨err, h⟩ | ⟨now, newID, x, t₁, hquery, h⟩
  · obtain ⟨herr, -⟩ := runs_ret_iff.mp h
    cases herr
  · obtain ⟨rfl, rfl⟩ := UsersTable.query_selectFirst hquery
    cases hfirst : t₁.first [.id i.text] with
    | none =>
      rw [hfirst] at h
      obtain ⟨herr, -⟩ := runs_ret_iff.mp h
      cases herr
    | some r =>
      rw [hfirst] at h
      obtain ⟨hr, rfl⟩ := runs_ret_iff.mp h
      obtain rfl := Except.ok.inj hr
      obtain ⟨hmem, hsat⟩ := UsersTable.first_eq_some hfirst
      exact ⟨rfl, hmem, by simpa using hsat⟩

theorem runs_updateUsername {i : Uuid} {name : String} {res : Except DbLayerError User}
    (h : Runs exec ok (updateUsername i.text name) t res t') :
    OnlyRow i t t' ∧ ∀ u, res = .ok u → u ∈ t'.rows ∧ u.id = i := by
  rcases runs_sql h with ⟨err, h⟩ | ⟨now, newID, x, t₁, hquery, h⟩
  · replace h : Runs exec ok (if isUniqueViolation err then .ret _ else .ret _) t res t' := h
    split at h
    all_goals
      obtain ⟨rfl, rfl⟩ := runs_ret_iff.mp h
      exact ⟨.refl i _, fun u hu => by cases hu⟩
  · obtain ⟨-, set', -, hrows⟩ := UsersTable.query_update hquery
    have hfind : t' = t₁ := runs_readsOnly h (getUserByID_uses _)
    refine ⟨hfind ▸ onlyRow_update (fun r hr => by simpa using hr) hrows, ?_⟩
    rintro u rfl
    obtain ⟨rfl, hu⟩ := runs_getUserByID h
    exact hu

theorem runs_assignHandle {i : Uuid} {n : Nat} {res : Except DbLayerError User}
    (h : Runs exec ok (assignHandle generateUsername i.text n) t res t') :
    OnlyRow i t t' ∧ ∀ u, res = .ok u → u ∈ t'.rows ∧ u.id = i := by
  induction n generalizing t with
  | zero =>
    have hfind : t' = t := runs_readsOnly h (getUserByID_uses _)
    refine ⟨hfind ▸ .refl i t, ?_⟩
    rintro u rfl
    obtain ⟨rfl, hu⟩ := runs_getUserByID h
    exact hu
  | succ n ih =>
    rw [assignHandle] at h
    obtain ⟨candidate, t₁, hgen, hrest⟩ := runs_bind_iff.mp h
    obtain rfl : t₁ = t := runs_readsOnly hgen generateUsername_uses
    obtain ⟨res', t₂, hupdate, h⟩ := runs_bind_iff.mp hrest
    obtain ⟨honly, hok⟩ := runs_updateUsername hupdate
    cases res' with
    | ok u =>
      obtain ⟨rfl, rfl⟩ := runs_ret_iff.mp h
      exact ⟨honly, fun u' hu' => Except.ok.inj hu' ▸ hok u rfl⟩
    | error err =>
      obtain ⟨honly', hok'⟩ := ih h
      exact ⟨honly.trans honly', hok'⟩

/-- The WHERE clause of `FirstOrCreate` for a subject. -/
def subjectConds (sub : String) : List Condition :=
  (UserFields.nonZero { googleSub := sub }).map .column

/-- An empty subject is no condition at all. -/
theorem satisfies_subjectConds {sub : String} {r : User} :
    satisfies (subjectConds sub) r = true ↔ sub = "" ∨ r.googleSub = sub := by
  by_cases hsub : sub = ""
  · simp [subjectConds, UserFields.nonZero, satisfies, hsub]
  · simp [subjectConds, UserFields.nonZero, satisfies, Condition.holds, Column.holds, hsub]

/-- What a sign-in has done when it ends with the record `u`: the record is stored, no other row
changed, and it is the row selected at the start or, if there was none, a new row. -/
structure SignedIn (sub : String) (t t' : UsersTable) (u : User) : Prop where
  stored : u ∈ t'.rows
  others : OnlyRow u.id t t'
  evolves : Evolves RowEdit RowCreated t.rows t'.rows
  found : ∀ r, t.first (subjectConds sub) = some r → u.id = r.id
  created : t.first (subjectConds sub) = none →
    (∀ r ∈ t.rows, r.id ≠ u.id) ∧ u.googleSub = sub ∧ u.isAdmin = false

/-- The record a sign-in ends with is the row it found, edited. -/
theorem SignedIn.edit {sub : String} {u : User} (h : SignedIn sub t t' u) {r : User}
    (hr : r ∈ t.rows) (hid : r.id = u.id) : RowEdit r u := by
  obtain ⟨r', hr', hedit⟩ := h.evolves.exists_of_mem hr
  rwa [UsersTable.eq_of_id h.stored hr' (hid.symm.trans hedit.id.symm)]

theorem notMem_id_of_append {r : User} (hrows : t'.rows = t.rows ++ [r]) :
    ∀ r' ∈ t.rows, r'.id ≠ r.id := by
  have hnodup := t'.id_nodup
  rw [hrows, List.map_append, List.nodup_append] at hnodup
  exact fun r' hr' => hnodup.2.2 _ (List.mem_map_of_mem hr') _ (by simp)

/-- The INSERT of a new subject. -/
theorem signedIn_of_insert {sub email displayName : String} {pic : Option String} {now : Time}
    {newID : Uuid} {u : User} (hnone : t.first (subjectConds sub) = none)
    (hevolves : Evolves RowEdit RowCreated t.rows t'.rows)
    (hquery : t.query now newID (.insert
      { googleSub := sub, email, displayName, pictureURL := pic }) = .ok (u, t')) :
    SignedIn sub t t' u := by
  obtain ⟨hrow, hrows⟩ := UsersTable.query_insert hquery
  exact {
    stored := by simp [hrows]
    others := onlyRow_insert hrows
    evolves := hevolves
    found := fun r hr => by rw [hnone] at hr; cases hr
    created := fun _ => ⟨notMem_id_of_append hrows, by rw [hrow]; rfl, by rw [hrow]; rfl⟩ }

/-- The refresh of the row found. -/
theorem signedIn_of_refresh {sub : String} {assign : UserFields} {now : Time} {newID : Uuid}
    {row : User} {stamp : Time} (hfirst : t.first (subjectConds sub) = some row)
    (hevolves : Evolves RowEdit RowCreated t.rows t'.rows) (hname : assign.username = none)
    (hquery : t.query now newID (.update (subjectConds sub ++ [.id row.id.text]) assign.nonZero) =
      .ok (stamp, t')) :
    SignedIn sub t t' { assignAll assign.nonZero row with updatedAt := stamp } := by
  obtain ⟨hmem, hsat⟩ := UsersTable.first_eq_some hfirst
  obtain ⟨rfl, set', hset, hrows⟩ := UsersTable.query_update hquery
  rw [mapM_coerce_of_noUsername (nonZero_noUsername hname)] at hset
  obtain rfl := Except.ok.inj hset
  refine {
    stored := ?_
    others := onlyRow_update (fun r hr => ?_) hrows
    evolves := hevolves
    found := fun r hr => ?_
    created := fun hnone => by rw [hfirst] at hnone; cases hnone }
  · rw [hrows, List.mem_map]
    refine ⟨row, hmem, if_pos ?_⟩
    rw [satisfies_append, hsat, satisfies_id]
    simp
  · rw [satisfies_append, Bool.and_eq_true, satisfies_id, decide_eq_true_eq] at hr
    simpa using hr.2
  · obtain rfl : row = r := Option.some.inj (hfirst.symm.trans hr)
    simp

theorem runs_firstOrCreate {sub email displayName : String} {pic : Option String}
    (hpic : pic ≠ some "") {u : User}
    (h : Runs exec ok (firstOrCreate { googleSub := sub }
      { email, displayName, pictureURL := pic }
      { googleSub := sub, email, displayName, pictureURL := pic }) t (.ok u) t') :
    SignedIn sub t t' u := by
  have hevolves := runs_evolves h (firstOrCreate_uses sub email displayName hpic)
  rcases runs_sql h with ⟨err, h⟩ | ⟨now, newID, x, t₁, hquery, h⟩
  · obtain ⟨herr, -⟩ := runs_ret_iff.mp h
    cases herr
  · obtain ⟨hx, rfl⟩ := UsersTable.query_selectFirst hquery
    replace hx : x = t₁.first (subjectConds sub) := hx
    rcases x with _ | row
    · -- The INSERT of the record the caller filled in.
      change Runs exec ok (.act _ .ret) t₁ _ t' at h
      rw [setFields_profile] at h
      rcases runs_sql h with ⟨err, h⟩ | ⟨now, newID, x, t₂, hquery, h⟩
      · obtain ⟨herr, -⟩ := runs_ret_iff.mp h
        cases herr
      · obtain ⟨hu, rfl⟩ := runs_ret_iff.mp h
        obtain rfl := Except.ok.inj hu
        exact signedIn_of_insert hx.symm hevolves hquery
    · -- The UPDATE of the row found.
      rcases runs_sql h with ⟨err, h⟩ | ⟨now, newID, x, t₂, hquery, h⟩
      · obtain ⟨herr, -⟩ := runs_ret_iff.mp h
        cases herr
      · obtain ⟨hu, rfl⟩ := runs_ret_iff.mp h
        obtain rfl := Except.ok.inj hu
        exact signedIn_of_refresh hx.symm hevolves rfl hquery

theorem runs_upsertUser {sub email displayName picture : String} {u : User}
    (h : Runs exec ok (upsertUser sub email displayName picture generateUsername) t (.ok u) t') :
    SignedIn sub t t' u := by
  obtain ⟨res, t₁, hfirst, hrest⟩ := runs_bind_iff.mp h
  rcases res with err | u₁
  · obtain ⟨herr, -⟩ := runs_ret_iff.mp hrest
    cases herr
  · have hsigned := runs_firstOrCreate (pic_ne_empty picture) hfirst
    change Runs exec ok (if u₁.username = none then _ else _) t₁ _ t' at hrest
    split at hrest
    · obtain ⟨honly, hok⟩ := runs_assignHandle hrest
      obtain ⟨hmem, hid⟩ := hok u rfl
      have hevolves := runs_evolves hrest (assignHandle_uses _ _)
      have hedit : RowEdit u₁ u := by
        obtain ⟨u', hu', hedit⟩ := hevolves.exists_of_mem hsigned.stored
        rwa [UsersTable.eq_of_id hmem hu' (hid.trans hedit.id.symm)]
      exact {
        stored := hmem
        others := hid ▸ hsigned.others.trans honly
        evolves := hsigned.evolves.trans RowEdit.trans RowCreated.edit hevolves
        found := fun r hr => hid.trans (hsigned.found r hr)
        created := fun hnone => by
          rw [hedit.id, hedit.googleSub, hedit.isAdmin]
          exact hsigned.created hnone }
    · obtain ⟨hu, rfl⟩ := runs_ret_iff.mp hrest
      exact Except.ok.inj hu ▸ hsigned

/-! ## The ID token -/

/-- The token parses as `tok`, verifies at `now` under the key of `reply` that its header names,
and was issued by Google. -/
structure GoogleSigned (J : GolangJwt) (reply : HttpReply) (now : Time) (raw : String)
    (tok : Token) : Prop where
  parsed : J.parseUnverified raw = .ok tok
  verified : ∃ key, selectRSAKey (tok.header.getString "kid") reply = .ok key ∧
    J.parseWithClaims now raw (rsaKeyFunc key) = .ok tok
  issuer : issuerOk tok.claims = true

theorem ne_empty_of_parsed {J : GolangJwt} {raw : String} {tok : Token}
    (h : J.parseUnverified raw = .ok tok) : raw ≠ "" := by
  intro hempty
  have hraw := J.parseUnverified_raw h
  rw [hempty] at hraw
  have hdot := congrArg (fun s : String => '.' ∈ s.toList) hraw
  simp at hdot

theorem runs_refuse {format : String} {args : List LogArg} {g : GoogleClaims}
    (h : Runs exec ok (refuse format args) t (.ok g) t') : False := by
  obtain ⟨e, -, h⟩ := runs_act_iff.mp h
  cases (runs_ret_iff.mp h).1

/-- What `VerifyGoogleIDToken` has checked when it returns claims. -/
theorem runs_verifyGoogleIDToken {J : GolangJwt} {raw url clientID : String} {g : GoogleClaims}
    (h : Runs exec ok (verifyGoogleIDToken J raw url clientID) t (.ok g) t') :
    t' = t ∧ ∃ tok reply now, GoogleSigned J reply now raw tok ∧
      (clientID ≠ "" → audMatch tok.claims clientID = true) ∧ g = googleClaims tok.claims := by
  refine ⟨runs_readsOnly h (verifyGoogleIDToken_uses _ _ _ _), ?_⟩
  obtain ⟨format, args, heq⟩ | ⟨tok, hparsed, heq⟩ := verifyGoogleIDToken_cases J raw url clientID
  · exact (runs_refuse (heq ▸ h)).elim
  · rw [heq] at h
    obtain ⟨e, -, h⟩ := runs_act_iff.mp h
    obtain ⟨format, args, heq⟩ | ⟨key, hkey, heq⟩ :=
      withRSAKey_cases J raw clientID (tok.header.getString "kid") (e.http url)
    · exact (runs_refuse (heq ▸ h)).elim
    · obtain ⟨e', -, h⟩ := runs_act_iff.mp (heq ▸ h)
      obtain ⟨format, args, heq⟩ | ⟨tok', hverified, hissuer, haud, heq⟩ :=
        checkGoogleIDToken_cases J raw clientID key e'.now
      · exact (runs_refuse (heq ▸ h)).elim
      · obtain rfl : tok = tok' :=
          Except.ok.inj (hparsed.symm.trans (J.parseWithClaims_ok.mp hverified).1)
        obtain ⟨hg, -⟩ := runs_ret_iff.mp (heq ▸ h)
        exact ⟨tok, _, _, ⟨hparsed, ⟨key, hkey, hverified⟩, hissuer⟩, haud, Except.ok.inj hg⟩

/-! ## The session -/

/-- **What a sign-in that succeeds has done.** The ID token is one of Google's, its subject has
been signed in, and the session returned is for the record stored. -/
theorem runs_loginWithGoogle {J : GolangJwt} {s : Server} {idToken : String}
    {resp : SessionResponse} (h : Runs exec ok (loginWithGoogle J s idToken) t (.ok resp) t') :
    ∃ tok reply now, GoogleSigned J reply now idToken tok ∧
      (s.googleClientID ≠ "" → audMatch tok.claims s.googleClientID = true) ∧
      ∃ u e, SignedIn (tok.claims.getString "sub") t t' u ∧ ok e .timeNow t' ∧
        resp.user = userToProto u ∧
        issueJWT J e.now u.id.text u.isAdmin s.jwtSecret = .ok resp.jwt := by
  by_cases hne : idToken = ""
  · subst hne
    cases (runs_ret_iff.mp h).1
  · rw [loginWithGoogle_eq hne] at h
    obtain ⟨res, t₁, hverify, h⟩ := runs_bind_iff.mp h
    cases res with
    | error err =>
      obtain ⟨e, -, h⟩ := runs_act_iff.mp h
      cases (runs_ret_iff.mp h).1
    | ok g =>
      obtain ⟨rfl, tok, reply, now, hsigned, haud, rfl⟩ := runs_verifyGoogleIDToken hverify
      refine ⟨tok, reply, now, hsigned, haud, ?_⟩
      obtain ⟨res, t₂, hupsert, h⟩ := runs_bind_iff.mp h
      cases res with
      | error err => cases (runs_ret_iff.mp h).1
      | ok u =>
        obtain ⟨session, hsession, hissue⟩ := issueSession_ok J s u
        rw [hsession] at h
        obtain ⟨e, he, h⟩ := runs_act_iff.mp h
        obtain ⟨hresp, rfl⟩ := runs_ret_iff.mp h
        obtain rfl := Except.ok.inj hresp
        exact ⟨u, e, runs_upsertUser hupsert, he, (hissue e.now).1, (hissue e.now).2⟩

/-! ## A sign-in that succeeds -/

/-- A statement that succeeds, then the rest of the program. -/
theorem runs_sql_of_query {e : Env} (hok : ∀ q t, ok e q t) (hfault : e.fault = none) {q : Stmt}
    {k : Except DbError q.Result → Srv α} {x : q.Result} {t₁ : UsersTable} {a : α}
    (hquery : t.query e.now e.newID q = .ok (x, t₁)) (h : Runs exec ok (k (.ok x)) t₁ a t') :
    Runs exec ok (.act (.sql q) k) t a t' := by
  refine .act e (hok _ _) ?_
  rwa [show exec e (.sql q) t = _ from execSql_of_query hfault hquery]

theorem verifyGoogleIDToken_runs {J : GolangJwt} {raw url clientID : String} {tok : Token}
    {e : Env} (hok : ∀ q t, q.ReadsOnly → ok e q t)
    (hsigned : GoogleSigned J (e.http url) e.now raw tok)
    (haud : clientID ≠ "" → audMatch tok.claims clientID = true) :
    Runs exec ok (verifyGoogleIDToken J raw url clientID) t (.ok (googleClaims tok.claims)) t := by
  obtain ⟨hparsed, ⟨key, hkey, hverified⟩, hissuer⟩ := hsigned
  rw [verifyGoogleIDToken_of_parsed hparsed]
  refine .act e (hok _ _ trivial) ?_
  show Runs exec ok (withRSAKey J raw clientID (tok.header.getString "kid") (e.http url)) t _ t
  rw [withRSAKey_of_key hkey]
  refine .act e (hok _ _ trivial) ?_
  show Runs exec ok (checkGoogleIDToken J raw clientID key e.now) t _ t
  rw [checkGoogleIDToken_of_valid hverified hissuer haud]
  exact .ret _ _

/-- The refresh of the row found cannot fail on its own. -/
theorem query_refresh_ok (t : UsersTable) (now : Time) (newID i : Uuid)
    (sub email displayName : String) (pic : Option String) :
    ∃ t', t.query now newID (.update (subjectConds sub ++ [.id i.text])
      (UserFields.nonZero { email, displayName, pictureURL := pic })) = .ok (now, t') := by
  refine t.query_update_ok now newID ?_ (mapM_coerce_of_noUsername (nonZero_noUsername rfl))
    ?_ ?_ ?_
  · rw [List.findSome?_append, subjectConds, invalidText_columns]
    simp
  all_goals simp [assignAll_profile]

theorem firstOrCreate_runs (sub email displayName : String) (pic : Option String) {e : Env}
    {row : User} (hok : ∀ q t, ok e q t) (hfault : e.fault = none)
    (hrow : t.first (subjectConds sub) = some row) (hname : row.username ≠ none) :
    ∃ u t', Runs exec ok (firstOrCreate { googleSub := sub }
      { email, displayName, pictureURL := pic }
      { googleSub := sub, email, displayName, pictureURL := pic }) t (.ok u) t' ∧
      u.username ≠ none := by
  obtain ⟨t', hupdate⟩ := query_refresh_ok t e.now e.newID row.id sub email displayName pic
  have hselect := t.query_selectFirst_ok e.now e.newID (subjectConds sub) (invalidText_columns _)
  rw [hrow] at hselect
  refine ⟨_, t', runs_sql_of_query hok hfault hselect
    (runs_sql_of_query hok hfault hupdate (.ret _ _)), ?_⟩
  rwa [assignAll_profile]

/-- A user with a name is found and refreshed. -/
theorem upsertUser_runs (sub email displayName picture : String) (gen : Srv String) {e : Env}
    {row : User} (hok : ∀ q t, ok e q t) (hfault : e.fault = none)
    (hrow : t.first (subjectConds sub) = some row) (hname : row.username ≠ none) :
    ∃ u t', Runs exec ok (upsertUser sub email displayName picture gen) t (.ok u) t' := by
  obtain ⟨u, t', hfirst, hname⟩ := firstOrCreate_runs sub email displayName
    (if picture ≠ "" then some picture else none) hok hfault hrow hname
  refine ⟨u, t', runs_bind_iff.mpr ⟨_, t', hfirst, ?_⟩⟩
  dsimp only
  rw [if_neg hname]
  exact .ret _ _

/-- **A user with a name can sign in again**: a valid token is enough. -/
theorem loginWithGoogle_runs {J : GolangJwt} {s : Server} {idToken : String} {tok : Token}
    {e : Env} {row : User} (hok : ∀ q t, ok e q t) (hfault : e.fault = none)
    (hsigned : GoogleSigned J (e.http s.jwksURL) e.now idToken tok)
    (haud : s.googleClientID ≠ "" → audMatch tok.claims s.googleClientID = true)
    (hrow : t.first (subjectConds (tok.claims.getString "sub")) = some row)
    (hname : row.username ≠ none) :
    ∃ resp t', Runs exec ok (loginWithGoogle J s idToken) t (.ok resp) t' := by
  have hne : idToken ≠ "" := ne_empty_of_parsed hsigned.parsed
  obtain ⟨u, t', hupsert⟩ := upsertUser_runs _ (tok.claims.getString "email")
    (tok.claims.getString "name") (tok.claims.getString "picture") generateUsername hok hfault hrow
    hname
  obtain ⟨resp, hresp, -⟩ := issueSession_ok J s u
  refine ⟨resp e.now, t', ?_⟩
  rw [loginWithGoogle_eq hne]
  refine runs_bind_iff.mpr ⟨_, t, verifyGoogleIDToken_runs (fun q t _ => hok q t) hsigned haud, ?_⟩
  refine runs_bind_iff.mpr ⟨_, t', hupsert, ?_⟩
  rw [hresp]
  exact .act e (hok _ _) (.ret _ _)

/-! ## Sample sign-ins -/

namespace Sample

theorem googleSigned {e : TableEntry} (he : e ∈ table.entries) (hmethod : e.method = .rsa .sha256)
    (hkid : e.header.getString "kid" = "k1") (hkey : e.key = .rsa publicKey) {now : Time}
    (hexp : MapClaims.expOk Int.floor now (readClaims e.claims) = true)
    (hnbf : MapClaims.nbfOk Int.floor now (readClaims e.claims) = true)
    (hissuer : issuerOk (readClaims e.claims) = true) :
    GoogleSigned jwt (.body (.ok ⟨[jwk]⟩)) now e.text (e.token (Base64Url.encode e.signature)) where
  parsed := TokenTable.parseUnverified_text he
  verified := by
    refine ⟨publicKey, ?_, TokenTable.parseWithClaims_text he ?_ hexp hnbf⟩
    · show selectRSAKey (MapClaims.getString e.header "kid") _ = _
      rw [hkid]
      exact selectRSAKey_jwk
    · show rsaKeyFunc publicKey { method := e.method, .. } = .ok e.key
      rw [hkey, hmethod]
      rfl
  issuer := hissuer

/-- The minute after `adaIDToken` and `noSubIDToken` were issued. -/
def env : Env :=
  { now := 1700000000 * Time.second, newID := 7, fault := none,
    http := fun _ => .body (.ok ⟨[jwk]⟩), rand := 0 }

theorem adaIDToken_signed (url : String) :
    GoogleSigned jwt (env.http url) env.now adaIDToken.text
      (adaIDToken.token (Base64Url.encode adaIDToken.signature)) :=
  googleSigned (by simp [table]) rfl rfl rfl (by decide +kernel) (by decide +kernel)
    (by decide +kernel)

/-- The token of `adaIDToken`, as it parses. -/
def adaToken : Token := adaIDToken.token (Base64Url.encode adaIDToken.signature)

theorem noSubIDToken_signed (url : String) :
    GoogleSigned jwt (env.http url) env.now noSubIDToken.text
      (noSubIDToken.token (Base64Url.encode noSubIDToken.signature)) :=
  googleSigned (by simp [table]) rfl rfl rfl (by decide +kernel) (by decide +kernel)
    (by decide +kernel)

theorem adaIDToken_sub :
    MapClaims.getString (readClaims adaIDToken.claims) "sub" = "108176814619778123456" := by
  decide +kernel

theorem noSubIDToken_sub : MapClaims.getString (readClaims noSubIDToken.claims) "sub" = "" := by
  decide +kernel

theorem sample_audience {e : TableEntry} (he : e = adaIDToken ∨ e = noSubIDToken) :
    audMatch (readClaims e.claims) "sample.apps.googleusercontent.com" = true := by
  rcases he with rfl | rfl <;> decide +kernel

/-- A configuration that expects the audience of the sample tokens. -/
def environ : Environ :=
  { DATABASE_URL := some "postgres://localhost/sample"
    GOOGLE_CLIENT_ID := some "sample.apps.googleusercontent.com"
    JWT_SECRET := some secret }

def server : Server := newServer environ

/-- An admin, with a name of her own. -/
def ada : User :=
  { id := 0x3f2b8c1e9d4a4e6f8a7b0c1d2e3f4a5b, googleSub := "108176814619778123456",
    email := "ada@example.com", displayName := "Ada", pictureURL := none,
    username := some "ada_l", isAdmin := true, createdAt := 0, updatedAt := 0 }

def users : UsersTable where
  rows := [ada]
  id_nodup := by simp
  googleSub_nodup := by simp
  username_nodup := by simp [ada]

/-- Ada and Grace. -/
def twoUsers : UsersTable where
  rows := [ada, { ada with id := 8, googleSub := "2", username := some "grace_h" }]
  id_nodup := by decide +kernel
  googleSub_nodup := by decide +kernel
  username_nodup := by decide +kernel

/-- The context of a request of Ada's, after the interceptor. -/
def adaContext : Context :=
  { incoming := none, claimsKey := some (some { userID := ada.id.text, isAdmin := true }) }

/-- No fault, and `adaIDToken` is valid. -/
def Quiet (e : Env) : Prop :=
  e.fault = none ∧ GoogleSigned jwt (e.http server.jwksURL) e.now adaIDToken.text adaToken

theorem quiet_env (i : Uuid) : Quiet { env with newID := i } :=
  ⟨rfl, adaIDToken_signed server.jwksURL⟩

/-- The steps of a schedule that differ only in the UUID an INSERT draws. -/
def turns {ι : Type} (ts : List (ι × Uuid)) : List (ι × Env) :=
  ts.map fun x => (x.1, { env with newID := x.2 })

theorem quiet_turns {ι : Type} (ts : List (ι × Uuid)) : ∀ x ∈ turns ts, Quiet x.2 := by
  intro x hx
  obtain ⟨⟨i, newID⟩, -, rfl⟩ := List.mem_map.mp hx
  exact quiet_env newID

/-- A request of Ada's gets through `VerifyGoogleIDToken`, whatever else is going on. -/
theorem exists_verified {ι α : Type} [DecidableEq ι] {c : Pool ι Effect Effect.Reply α UsersTable}
    {i : ι} {f : Except AuthError GoogleClaims → Srv α}
    (hthread : c.thread i =
      verifyGoogleIDToken jwt adaIDToken.text server.jwksURL server.googleClientID >>= f) :
    ∃ sched : List (ι × Env), (∀ x ∈ sched, x.1 = i ∧ Quiet x.2) ∧
      Pool.Along exec (fun c i e => c.Admits (fun _ _ q _ => q.ReadsOnly) i e) c sched ∧
      Pool.exec exec c sched = ⟨Function.update c.thread i
        (f (.ok ⟨"108176814619778123456", "ada@example.com", "Ada", ""⟩)), c.state⟩ := by
  have hverify : Runs exec (fun e q _ => Quiet e ∧ q.ReadsOnly)
      (verifyGoogleIDToken jwt adaIDToken.text server.jwksURL server.googleClientID) c.state
      (.ok (googleClaims adaToken.claims)) c.state :=
    verifyGoogleIDToken_runs (fun q t hq => ⟨quiet_env 7, hq⟩)
      (adaIDToken_signed _) fun _ => sample_audience (.inl rfl)
  have hclaims : googleClaims adaToken.claims =
      ⟨"108176814619778123456", "ada@example.com", "Ada", ""⟩ := by decide +kernel
  obtain ⟨sched, hok, halong, hexec⟩ := Pool.exists_exec_of_runs hverify rfl hthread
  refine ⟨sched, fun x hx => ?_, halong.mono fun _ _ _ h => h.mono fun _ _ h => h.2, ?_⟩
  · obtain ⟨hi, q, t, hquiet, -⟩ := hok x hx
    exact ⟨hi, hquiet⟩
  · rw [hexec, hclaims]

end Sample

end SampleGrpc
