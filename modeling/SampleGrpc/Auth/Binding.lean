import SampleGrpc.Auth.SignIn

/-!
# Whom a session is for

* `loginWithGoogle_identity_iff` — a sign-in is bound to the subject of its token exactly when the
  subject is not empty or the row that an empty condition selects has the empty subject. A token
  without `sub` takes over the first row of the table (`loginWithGoogle_takes_over`).
* `loginWithGoogle_audience_iff` — sessions are for tokens of the configured audience only exactly
  when an audience is configured. Without one, tokens for any client open a session
  (`loginWithGoogle_any_audience`).
-/

namespace SampleGrpc

open Prog

/-- No restriction on the environment: any time, any faults, any answer of the JWKS URL. -/
def anyEnv (_ : Env) (_ : Effect) (_ : UsersTable) : Prop := True

variable {t t' : UsersTable} {u : User}

/-! ## The subject -/

/-- `VerifyGoogleIDToken` can return these claims for the token. -/
def CanVerify (J : GolangJwt) (s : Server) (idToken : String) (g : GoogleClaims) : Prop :=
  ∃ t t', Runs exec anyEnv (verifyGoogleIDToken J idToken s.jwksURL s.googleClientID) t (.ok g) t'

/-- The session is for the row of this subject, which is new exactly if there was none, and no
other row is read into it or changed. -/
structure IdentityBound (J : GolangJwt) (s : Server) (sub : String) (t t' : UsersTable)
    (resp : SessionResponse) : Prop where
  session : ∃ u ∈ t'.rows, u.googleSub = sub ∧ resp.user = userToProto u ∧
    (∃ now, issueJWT J now u.id.text u.isAdmin s.jwtSecret = .ok resp.jwt) ∧
    ((∀ r ∈ t.rows, r.id ≠ u.id) ↔ ∀ r ∈ t.rows, r.googleSub ≠ sub)
  others : ∀ r, r.googleSub ≠ sub → (r ∈ t.rows ↔ r ∈ t'.rows)

/-- The subject is not empty, or the row with the least id, if any, has the empty subject. -/
def SubjectSelects (sub : String) (t : UsersTable) : Prop :=
  sub ≠ "" ∨ ∀ r ∈ t.rows, (∀ r' ∈ t.rows, r.id ≤ r'.id) → r.googleSub = ""

theorem first_subjectConds_empty {r : User} :
    t.first (subjectConds "") = some r ↔ r ∈ t.rows ∧ ∀ r' ∈ t.rows, r.id ≤ r'.id := by
  have hall : t.rows.filter (satisfies (subjectConds "")) = t.rows :=
    List.filter_eq_self.mpr fun r' _ => satisfies_subjectConds.mpr (.inl rfl)
  rw [UsersTable.first, hall]
  refine ⟨?_, ?_⟩
  · intro h
    exact ⟨List.argmin_mem h, fun r' hr' => List.le_of_mem_argmin hr' h⟩
  · intro h
    obtain ⟨hr, hle⟩ := h
    cases h : t.rows.argmin (·.id) with
    | none =>
      rw [List.argmin_eq_none] at h
      simp [h] at hr
    | some r' =>
      have hr' : r' ∈ t.rows := List.argmin_mem h
      rw [UsersTable.eq_of_id hr' hr (le_antisymm (List.le_of_mem_argmin hr h) (hle r' hr'))]

/-- A row selected by the subject has that subject, if the subject selects. -/
theorem SubjectSelects.googleSub {sub : String} (h : SubjectSelects sub t) {r : User}
    (hr : t.first (subjectConds sub) = some r) : r.googleSub = sub := by
  obtain ⟨-, hsat⟩ := UsersTable.first_eq_some hr
  rcases satisfies_subjectConds.mp hsat with rfl | hsub
  · obtain ⟨hmem, hleast⟩ := first_subjectConds_empty.mp hr
    rcases h with hne | hfirst
    · exact absurd rfl hne
    · exact hfirst r hmem hleast
  · exact hsub

theorem SignedIn.googleSub {sub : String} (h : SignedIn sub t t' u) (hsel : SubjectSelects sub t) :
    u.googleSub = sub := by
  cases hfirst : t.first (subjectConds sub) with
  | none => exact (h.created hfirst).2.1
  | some r =>
    rw [(h.edit (UsersTable.first_eq_some hfirst).1 (h.found r hfirst).symm).googleSub]
    exact hsel.googleSub hfirst

/-- The row is new exactly if there was none of this subject. -/
theorem SignedIn.created_iff {sub : String} (h : SignedIn sub t t' u)
    (hsel : SubjectSelects sub t) :
    (∀ r ∈ t.rows, r.id ≠ u.id) ↔ ∀ r ∈ t.rows, r.googleSub ≠ sub := by
  cases hfirst : t.first (subjectConds sub) with
  | none =>
    refine iff_of_true (h.created hfirst).1 fun r hr hsub => ?_
    have hsat := UsersTable.first_eq_none hfirst hr
    rw [satisfies_subjectConds.mpr (.inr hsub)] at hsat
    cases hsat
  | some r =>
    have hr := (UsersTable.first_eq_some hfirst).1
    exact iff_of_false (fun hnew => hnew r hr (h.found r hfirst).symm)
      fun hnone => hnone r hr (hsel.googleSub hfirst)

theorem SignedIn.others_unchanged {sub : String} (h : SignedIn sub t t' u)
    (hsub : u.googleSub = sub) {r : User} (hr : r.googleSub ≠ sub) : r ∈ t.rows ↔ r ∈ t'.rows := by
  by_cases hid : r.id = u.id
  · refine iff_of_false (fun hmem => hr ?_) fun hmem => hr ?_
    · rw [← (h.edit hmem hid).googleSub, hsub]
    · rw [UsersTable.eq_of_id hmem h.stored hid, hsub]
  · exact h.others r hid

/-- The binding of a finished sign-in, for the record it ended with. -/
theorem SignedIn.identityBound_iff {J : GolangJwt} {s : Server} {sub : String}
    {resp : SessionResponse} {now : Time} (h : SignedIn sub t t' u)
    (huser : resp.user = userToProto u)
    (hjwt : issueJWT J now u.id.text u.isAdmin s.jwtSecret = .ok resp.jwt) :
    IdentityBound J s sub t t' resp ↔ SubjectSelects sub t := by
  refine ⟨?_, ?_⟩
  · intro hbound
    by_cases hsub : sub = ""
    · subst hsub
      refine .inr fun r hr hleast => ?_
      have hid := h.found r (first_subjectConds_empty.mpr ⟨hr, hleast⟩)
      obtain ⟨u', hu', hsub', huser', -⟩ := hbound.session
      have htext : u'.id.text = u.id.text := congrArg PbUser.id (huser'.symm.trans huser)
      obtain rfl := UsersTable.eq_of_id hu' h.stored (Uuid.text_injective htext)
      rw [← (h.edit hr hid.symm).googleSub, hsub']
    · exact .inl hsub
  · intro hsel
    have hsub := h.googleSub hsel
    exact ⟨⟨u, h.stored, hsub, huser, ⟨now, hjwt⟩, h.created_iff hsel⟩,
      fun r hr => h.others_unchanged hsub hr⟩

theorem canVerify_sub {J : GolangJwt} {s : Server} {idToken : String} {g : GoogleClaims}
    {tok : Token} (hg : CanVerify J s idToken g) (htok : J.parseUnverified idToken = .ok tok) :
    g.sub = tok.claims.getString "sub" := by
  obtain ⟨t, t', hrun⟩ := hg
  obtain ⟨-, tok', reply, now, hsigned, -, rfl⟩ := runs_verifyGoogleIDToken hrun
  obtain rfl := Except.ok.inj (htok.symm.trans hsigned.parsed)
  rfl

/-- **Identity binding of sign-in.** -/
theorem loginWithGoogle_identity_iff {J : GolangJwt} {s : Server} {idToken : String}
    {g : GoogleClaims} {resp : SessionResponse} (hg : CanVerify J s idToken g)
    (hrun : Runs exec anyEnv (loginWithGoogle J s idToken) t (.ok resp) t') :
    IdentityBound J s g.sub t t' resp ↔ SubjectSelects g.sub t := by
  obtain ⟨tok, reply, now, hsigned, -, u, e, hin, -, huser, hjwt⟩ := runs_loginWithGoogle hrun
  rw [canVerify_sub hg hsigned.parsed]
  exact hin.identityBound_iff huser hjwt

/-- A sample token signs in to the sample table, on the row its subject selects. -/
theorem sample_signIn {e : TableEntry} (he : e = Sample.adaIDToken ∨ e = Sample.noSubIDToken)
    (hsigned : ∀ url, GoogleSigned Sample.jwt (Sample.env.http url) Sample.env.now e.text
      (e.token (Base64Url.encode e.signature)))
    (hfirst : Sample.users.first (subjectConds (MapClaims.getString (readClaims e.claims) "sub")) =
      some Sample.ada) :
    ∃ resp t', CanVerify Sample.jwt Sample.server e.text (googleClaims (readClaims e.claims)) ∧
      Runs exec anyEnv (loginWithGoogle Sample.jwt Sample.server e.text) Sample.users (.ok resp)
        t' := by
  have hok (q : Effect) (t : UsersTable) : anyEnv Sample.env q t := trivial
  have haud : Sample.server.googleClientID ≠ "" →
      audMatch (e.token (Base64Url.encode e.signature)).claims
        Sample.server.googleClientID = true :=
    fun _ => Sample.sample_audience he
  obtain ⟨resp, t', hrun⟩ := loginWithGoogle_runs hok rfl (hsigned _) haud hfirst (by decide)
  exact ⟨resp, t', ⟨Sample.users, Sample.users,
    verifyGoogleIDToken_runs (fun q t _ => hok q t) (hsigned _) haud⟩, hrun⟩

/-- Ada signs in to her own row. -/
theorem loginWithGoogle_identity_ada :
    ∃ g resp t', CanVerify Sample.jwt Sample.server Sample.adaIDToken.text g ∧
      Runs exec anyEnv (loginWithGoogle Sample.jwt Sample.server Sample.adaIDToken.text)
        Sample.users (.ok resp) t' ∧
      IdentityBound Sample.jwt Sample.server g.sub Sample.users t' resp := by
  obtain ⟨resp, t', hg, hrun⟩ := sample_signIn (.inl rfl) Sample.adaIDToken_signed
    (by rw [Sample.adaIDToken_sub]; decide +kernel)
  refine ⟨_, resp, t', hg, hrun, (loginWithGoogle_identity_iff hg hrun).mpr (.inl ?_)⟩
  rw [googleClaims, Sample.adaIDToken_sub]
  decide

/-- **A token without `sub` takes over the first row**: the session is Ada's, admin flag
included. -/
theorem loginWithGoogle_takes_over :
    ∃ g resp t', CanVerify Sample.jwt Sample.server Sample.noSubIDToken.text g ∧
      Runs exec anyEnv (loginWithGoogle Sample.jwt Sample.server Sample.noSubIDToken.text)
        Sample.users (.ok resp) t' ∧
      resp.user.id = Sample.ada.id.text ∧ resp.user.isAdmin = true ∧
      ¬ IdentityBound Sample.jwt Sample.server g.sub Sample.users t' resp := by
  have hfirst : Sample.users.first (subjectConds "") = some Sample.ada := by decide +kernel
  obtain ⟨resp, t', hg, hrun⟩ := sample_signIn (.inr rfl) Sample.noSubIDToken_signed
    (by rw [Sample.noSubIDToken_sub]; exact hfirst)
  obtain ⟨tok, reply, now, hsigned, -, u, e, hin, -, huser, hjwt⟩ := runs_loginWithGoogle hrun
  have hsub : (googleClaims (readClaims Sample.noSubIDToken.claims)).sub = "" :=
    Sample.noSubIDToken_sub
  rw [← canVerify_sub hg hsigned.parsed, hsub] at hin
  have hid : u.id = Sample.ada.id := hin.found _ hfirst
  have hedit := hin.edit (List.mem_singleton.mpr rfl) hid.symm
  refine ⟨_, resp, t', hg, hrun, ?_, ?_, ?_⟩
  · rw [huser, ← hid]
    rfl
  · rw [huser]
    exact hedit.isAdmin
  · rw [hsub, hin.identityBound_iff huser hjwt]
    intro h
    obtain hne | hleast := h
    · exact hne rfl
    · exact absurd (hleast Sample.ada (List.mem_singleton.mpr rfl) (by decide)) (by decide)

/-! ## The audience -/

/-- A table with one user, who has a name. -/
theorem exists_table (sub : String) : ∃ (t : UsersTable) (row : User),
    t.first (subjectConds sub) = some row ∧ row.username ≠ none := by
  let row : User := { Sample.ada with googleSub := sub }
  refine ⟨⟨[row], by simp, by simp, by simp [row, Sample.ada]⟩, row, ?_, by simp [row, Sample.ada]⟩
  refine UsersTable.first_of_unique (List.mem_singleton.mpr rfl)
    (satisfies_subjectConds.mpr (.inr rfl)) fun r' hr' _ => List.mem_singleton.mp hr'

/-- Without a client ID, every token that Google signed opens a session. -/
theorem loginWithGoogle_open {J : GolangJwt} {s : Server} {idToken : String} {tok : Token}
    {reply : HttpReply} {now : Time} (hsigned : GoogleSigned J reply now idToken tok)
    (hclient : s.googleClientID = "") :
    ∃ t resp t', Runs exec anyEnv (loginWithGoogle J s idToken) t (.ok resp) t' := by
  obtain ⟨t, row, hrow, hname⟩ := exists_table (tok.claims.getString "sub")
  let e : Env := { now, newID := 0, fault := none, http := fun _ => reply, rand := 0 }
  have hok (q : Effect) (t : UsersTable) : anyEnv e q t := trivial
  obtain ⟨resp, t', hrun⟩ :=
    loginWithGoogle_runs hok rfl hsigned (fun hne => absurd hclient hne) hrow hname
  exact ⟨t, resp, t', hrun⟩

/-- **Audience enforcement.** For a token that Google signed, sessions are issued only under a
configured client ID that is its audience exactly when a client ID is configured. -/
theorem loginWithGoogle_audience_iff {J : GolangJwt} {env : Environ} {idToken : String}
    {tok : Token} {reply : HttpReply} {now : Time}
    (hsigned : GoogleSigned J reply now idToken tok) :
    (∀ t resp t', Runs exec anyEnv (loginWithGoogle J (newServer env) idToken) t (.ok resp) t' →
      (newServer env).googleClientID ≠ "" ∧
        AudienceIs tok.claims (newServer env).googleClientID) ↔
      env.GOOGLE_CLIENT_ID.getD "" ≠ "" := by
  refine ⟨?_, ?_⟩
  · intro h hempty
    obtain ⟨t, resp, t', hrun⟩ := loginWithGoogle_open (s := newServer env) hsigned hempty
    exact (h t resp t' hrun).1 hempty
  · intro hne t resp t' hrun
    obtain ⟨tok', reply', now', hsigned', haud, -⟩ := runs_loginWithGoogle hrun
    obtain rfl := Except.ok.inj (hsigned.parsed.symm.trans hsigned'.parsed)
    exact ⟨hne, audMatch_iff.mp (haud hne)⟩

theorem loginWithGoogle_audience_ada :
    (∀ t resp t', Runs exec anyEnv
      (loginWithGoogle Sample.jwt (newServer Sample.environ) Sample.adaIDToken.text)
      t (.ok resp) t' →
      (newServer Sample.environ).googleClientID ≠ "" ∧
        AudienceIs Sample.adaToken.claims (newServer Sample.environ).googleClientID) ↔
      Sample.environ.GOOGLE_CLIENT_ID.getD "" ≠ "" :=
  loginWithGoogle_audience_iff (Sample.adaIDToken_signed "")

/-- **Without `GOOGLE_CLIENT_ID`, the token of another client opens a session.** -/
theorem loginWithGoogle_any_audience :
    ∃ t resp t', GoogleSigned Sample.jwt (Sample.env.http "") Sample.env.now
        Sample.adaIDToken.text Sample.adaToken ∧
      Runs exec anyEnv (loginWithGoogle Sample.jwt
        (newServer { Sample.environ with GOOGLE_CLIENT_ID := none }) Sample.adaIDToken.text)
        t (.ok resp) t' ∧
      ¬ ((newServer { Sample.environ with GOOGLE_CLIENT_ID := none }).googleClientID ≠ "" ∧
        AudienceIs Sample.adaToken.claims
          (newServer { Sample.environ with GOOGLE_CLIENT_ID := none }).googleClientID) := by
  obtain ⟨t, resp, t', hrun⟩ := loginWithGoogle_open
    (s := newServer { Sample.environ with GOOGLE_CLIENT_ID := none })
    (Sample.adaIDToken_signed "") rfl
  exact ⟨t, resp, t', Sample.adaIDToken_signed "", hrun, fun h => h.1 rfl⟩

end SampleGrpc
