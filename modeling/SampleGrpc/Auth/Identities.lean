import SampleGrpc.Auth.FirstSignIn
import SampleGrpc.Auth.OwnAccount

/-!
# Identities under concurrency

Any requests, interleaved statement by statement in any order, with any faults. A sign-in reads a
row, refreshes it and returns the record it had read, which others may have changed since; but no
request changes the identifier, the subject or the admin flag of a row, so that what an answer says
of these is right whenever it arrives.

* `KnownAs` — what an answer may rely on.
* `identities_agree` — two Google subjects are never one user, and one is never two.
-/

namespace SampleGrpc

open Prog

/-! ## What the requests rely on -/

/-- How a table may change while a request waits. -/
def TableEvolves (t t' : UsersTable) : Prop := Evolves RowEdit RowCreated t.rows t'.rows

theorem TableEvolves.refl (t : UsersTable) : TableEvolves t t := Evolves.refl RowEdit.refl _

theorem TableEvolves.trans (t₁ t₂ t₃ : UsersTable) (h : TableEvolves t₁ t₂)
    (h' : TableEvolves t₂ t₃) : TableEvolves t₁ t₃ :=
  Evolves.trans RowEdit.trans RowCreated.edit h h'

/-- The record's row is stored: it has the record's identifier, subject and admin flag. -/
def KnownAs (u : User) (t : UsersTable) : Prop :=
  ∃ r ∈ t.rows, r.id = u.id ∧ r.googleSub = u.googleSub ∧ r.isAdmin = u.isAdmin

theorem KnownAs.evolve {u : User} {t t' : UsersTable} (h : KnownAs u t) (h' : TableEvolves t t') :
    KnownAs u t' := by
  obtain ⟨r, hr, hid, hsub, hadmin⟩ := h
  obtain ⟨r', hr', hedit⟩ := h'.exists_of_mem hr
  exact ⟨r', hr', hedit.id.trans hid, hedit.googleSub.trans hsub, hedit.isAdmin.trans hadmin⟩

theorem KnownAs.of_mem {u : User} {t : UsersTable} (h : u ∈ t.rows) : KnownAs u t :=
  ⟨u, h, rfl, rfl, rfl⟩

/-- Two records of one identifier have one subject, and one admin flag. -/
theorem KnownAs.unique {u u' : User} {t : UsersTable} (h : KnownAs u t) (h' : KnownAs u' t)
    (hid : u.id = u'.id) : u.googleSub = u'.googleSub ∧ u.isAdmin = u'.isAdmin := by
  obtain ⟨r, hr, hrid, hsub, hadmin⟩ := h
  obtain ⟨r', hr', hrid', hsub', hadmin'⟩ := h'
  obtain rfl := UsersTable.eq_of_id hr hr' (hrid.trans (hid.trans hrid'.symm))
  exact ⟨hsub.symm.trans hsub', hadmin.symm.trans hadmin'⟩

theorem KnownAs.id_of_googleSub {u u' : User} {t : UsersTable} (h : KnownAs u t)
    (h' : KnownAs u' t) (hsub : u.googleSub = u'.googleSub) : u.id = u'.id := by
  obtain ⟨r, hr, hrid, hrsub, -⟩ := h
  obtain ⟨r', hr', hrid', hrsub', -⟩ := h'
  obtain rfl := UsersTable.eq_of_googleSub hr hr' (hrsub.trans (hsub.trans hrsub'.symm))
  exact hrid.symm.trans hrid'

/-- The record is known, and if a subject was asked for it is the subject's. -/
def SubjectKnown (sub : String) (u : User) (t : UsersTable) : Prop :=
  KnownAs u t ∧ (sub = "" ∨ u.googleSub = sub)

/-! ## Requests under interference -/

section Safe

variable {α : Type} {t : UsersTable} {sub : String}

/-- A program that keeps to what the others rely on, whatever the environment does. -/
abbrev SafeSrv (post : α → UsersTable → Prop) (p : Srv α) (t : UsersTable) : Prop :=
  p.Safe exec anyEnv TableEvolves TableEvolves post t

theorem safeSrv_ret {post : α → UsersTable → Prop} {a : α}
    (h : ∀ t', TableEvolves t t' → post a t') : SafeSrv post (.ret a) t := h

/-- An action of a request, and the program after it. -/
theorem safeSrv_act {post : α → UsersTable → Prop} {q : Effect} {k : q.Reply → Srv α}
    (hq : RpcEffect q) (h : ∀ t' e, TableEvolves t t' →
      SafeSrv post (k (exec e q t').1) (exec e q t').2) : SafeSrv post (.act q k) t :=
  fun t' ht' e _ => ⟨exec_evolves hq e t', h t' e ht'⟩

/-- An action that only reads. -/
theorem safeSrv_read {post : α → UsersTable → Prop} {q : Effect} {k : q.Reply → Srv α}
    (hq : q.ReadsOnly) (h : ∀ t' e, TableEvolves t t' → SafeSrv post (k (exec e q t').1) t') :
    SafeSrv post (.act q k) t := by
  refine safeSrv_act (.read hq) fun t' e ht' => ?_
  rw [exec_readsOnly hq e t']
  exact h t' e ht'

/-- A user read by a text for the id is known. -/
theorem getUserByID_safeSrv (id : String) (t : UsersTable) :
    SafeSrv (fun res t => ∀ u, res = .ok u → KnownAs u t ∧ Uuid.parse id = some u.id)
      (getUserByID id) t := by
  rw [getUserByID_eq]
  refine safeSrv_read trivial fun t' e ht' => safeSrv_ret fun t'' ht'' u hu => ?_
  obtain ⟨hmem, hid⟩ := of_getReply hu
  exact ⟨(KnownAs.of_mem hmem).evolve ht'', hid⟩

theorem updateUsername_safeSrv {id name : String} (hname : name ≠ "" → usernameRE name = true)
    (t : UsersTable) :
    SafeSrv (fun res t => ∀ u, res = .ok u → KnownAs u t ∧ Uuid.parse id = some u.id)
      (updateUsername id name) t := by
  rw [updateUsername_eq]
  refine safeSrv_act (RpcEffect.renameStmt hname) fun t' e ht' => ?_
  cases (exec e (.sql (renameStmt id name)) t').1 with
  | error err =>
    show SafeSrv _ (updateReply id (.error err)) _
    rw [updateReply_error]
    exact safeSrv_ret fun t'' ht'' u hu => by cases hu
  | ok stamp => exact getUserByID_safeSrv id _

/-- The generator, and a program that is safe for every handle it can draw. -/
theorem generateUsername_safeSrv {post : α → UsersTable → Prop} {f : String → Srv α}
    (h : ∀ name, usernameRE name = true → ∀ t', TableEvolves t t' → SafeSrv post (f name) t') :
    SafeSrv post (generateUsername >>= f) t := by
  refine safeSrv_read trivial fun t₁ e₁ ht₁ => ?_
  refine safeSrv_read trivial fun t₂ e₂ ht₂ => ?_
  refine safeSrv_read trivial fun t₃ e₃ ht₃ => ?_
  exact h _ (generateUsername_valid _ _ _) t₃ (.trans _ _ _ (.trans _ _ _ ht₁ ht₂) ht₃)

/-- A record known by the identifier of a known one is the same user. -/
theorem SubjectKnown.of_id {u u' : User} (h : SubjectKnown sub u t) (h' : KnownAs u' t)
    (hid : u'.id = u.id) : SubjectKnown sub u' t :=
  ⟨h', h.2.imp_right fun hsub => (h'.unique h.1 hid).1.trans hsub⟩

theorem SubjectKnown.evolve {u : User} {t' : UsersTable} (h : SubjectKnown sub u t)
    (h' : TableEvolves t t') : SubjectKnown sub u t' := ⟨h.1.evolve h', h.2⟩

/-- The safety of a program, with what was known at its start. -/
theorem SubjectKnown.carry {u : User} {p : Srv (Except DbLayerError User)}
    (h : SubjectKnown sub u t)
    (hp : SafeSrv (fun res t => ∀ u', res = .ok u' →
      KnownAs u' t ∧ Uuid.parse u.id.text = some u'.id) p t) (hu : p.Uses RpcEffect) :
    SafeSrv (fun res t => SubjectKnown sub u t ∧ ∀ u', res = .ok u' → SubjectKnown sub u' t)
      p t := by
  have hinv : SafeSrv (fun _ t => SubjectKnown sub u t) p t :=
    hu.safe (SubjectKnown sub u) (fun e q t _ hq => exec_evolves hq e t)
      (fun _ _ hrely hs => hs.evolve hrely) (fun _ _ hguar hs => hs.evolve hguar) h
  refine (hp.and hinv).weaken fun res t' hpost => ⟨hpost.2, fun u' hu' => ?_⟩
  obtain ⟨hknown, hid⟩ := hpost.1 u' hu'
  exact hpost.2.of_id hknown (Option.some.inj (hid.symm.trans (Uuid.parse_text u.id)))

theorem assignHandle_safeSrv {u : User} (n : ℕ) (h : SubjectKnown sub u t) :
    SafeSrv (fun res t => ∀ u', res = .ok u' → SubjectKnown sub u' t)
      (assignHandle generateUsername u.id.text n) t := by
  induction n generalizing t with
  | zero =>
    have hcarry := h.carry (getUserByID_safeSrv _ t)
      (Effect.ReadsOnly.rpc (getUserByID_uses u.id.text))
    exact hcarry.weaken fun _ _ hpost => hpost.2
  | succ n ih =>
    rw [assignHandle_succ]
    refine generateUsername_safeSrv fun name hname t₁ ht₁ => ?_
    refine Safe.bind TableEvolves.refl ((h.evolve ht₁).carry
      (updateUsername_safeSrv (fun _ => hname) t₁) (updateUsername_uses fun _ => hname))
      fun res t₂ hpost => ?_
    obtain ⟨h₂, hres⟩ := hpost
    cases res with
    | ok u' =>
      refine safeSrv_ret fun t₃ ht₃ u'' hu'' => ?_
      obtain rfl := Except.ok.inj hu''
      exact (hres u' rfl).evolve ht₃
    | error err => exact ih h₂

theorem firstOrCreateUser_uses (sub email displayName pictureURL : String) :
    (firstOrCreateUser sub email displayName pictureURL).Uses RpcEffect :=
  firstOrCreate_uses sub email displayName (pic_ne_empty pictureURL)

/-- The record that `FirstOrCreate` returns was there, or is new. -/
theorem firstOrCreateUser_safeSrv (sub email displayName pictureURL : String) (t : UsersTable) :
    SafeSrv (fun res t => ∀ u, res = .ok u → SubjectKnown sub u t)
      (firstOrCreateUser sub email displayName pictureURL) t := by
  have huses := firstOrCreateUser_uses sub email displayName pictureURL
  rw [firstOrCreateUser, firstOrCreate_eq] at huses ⊢
  refine safeSrv_read trivial fun t₁ e₁ ht₁ => ?_
  obtain ⟨err, hselect⟩ | ⟨found, t₂, -, hquery, hselect⟩ :=
    execSql_cases e₁ (.selectFirst (UserFields.nonZero { googleSub := sub } |>.map .column)) t₁
  · rw [show exec e₁ (.sql (.selectFirst _)) t₁ = _ from hselect]
    exact safeSrv_ret fun t' ht' u hu => by cases hu
  rw [show exec e₁ (.sql (.selectFirst _)) t₁ = _ from hselect]
  obtain ⟨hfound, rfl⟩ := UsersTable.query_selectFirst hquery
  cases found with
  | none =>
    refine safeSrv_act (huses.2 (.ok none)).1 fun t₃ e₃ _ => safeSrv_ret fun t₄ ht₄ u hu => ?_
    obtain ⟨err, hexec⟩ | ⟨x, t₅, -, hinsert, hexec⟩ := execSql_cases e₃ (.insert _) t₃
    · rw [show exec e₃ (.sql (.insert _)) t₃ = _ from hexec] at hu
      cases hu
    · rw [show exec e₃ (.sql (.insert _)) t₃ = _ from hexec] at hu ht₄
      obtain rfl := Except.ok.inj hu
      obtain ⟨hrow, hrows⟩ := UsersTable.query_insert hinsert
      have hmem : x ∈ t₅.rows := hrows ▸ List.mem_append_right _ (List.mem_singleton.mpr rfl)
      refine ⟨(KnownAs.of_mem hmem).evolve ht₄, .inr ?_⟩
      rw [hrow, profile, setFields_profile]
      rfl
  | some row =>
    obtain ⟨hrow, hsat⟩ := UsersTable.first_eq_some hfound.symm
    refine safeSrv_act (huses.2 (.ok (some row))).1 fun t₃ e₃ ht₃ =>
      safeSrv_ret fun t₄ ht₄ u hu => ?_
    have hknown : KnownAs row t₄ := (((KnownAs.of_mem hrow).evolve ht₃).evolve
      (exec_evolves (huses.2 (.ok (some row))).1 e₃ t₃)).evolve ht₄
    replace hu : writeBack (profile email displayName pictureURL) row _ = .ok u := hu
    unfold writeBack at hu
    split at hu
    · cases hu
    · obtain rfl := Except.ok.inj hu
      rw [profile, assignAll_profile]
      exact ⟨hknown, (satisfies_subjectConds (r := row)).mp hsat⟩

theorem upsertUser_safeSrv (sub email displayName pictureURL : String) (t : UsersTable) :
    SafeSrv (fun res t => ∀ u, res = .ok u → SubjectKnown sub u t)
      (upsertUser sub email displayName pictureURL generateUsername) t := by
  rw [upsertUser_eq]
  refine Safe.bind TableEvolves.refl (firstOrCreateUser_safeSrv sub email displayName pictureURL t)
    fun res t₁ hpost => ?_
  cases res with
  | error err => exact safeSrv_ret fun t₂ ht₂ u hu => by cases hu
  | ok u =>
    rw [handleReply]
    split
    · exact assignHandle_safeSrv 10 (hpost u rfl)
    · refine safeSrv_ret fun t₂ ht₂ u' hu' => ?_
      obtain rfl := Except.ok.inj hu'
      exact (hpost u rfl).evolve ht₂

/-- The claims that `VerifyGoogleIDToken` returns are vouched for. -/
theorem verifyGoogleIDToken_safeSrv (J : GolangJwt) (s : Server) (idToken : String)
    (t : UsersTable) :
    SafeSrv (fun res _ => ∀ g, res = .ok g → Vouched J s idToken g)
      (verifyGoogleIDToken J idToken s.jwksURL s.googleClientID) t := by
  have hrefuse (format : String) (args : List LogArg) (t : UsersTable) :
      SafeSrv (fun res _ => ∀ g, res = .ok g → Vouched J s idToken g) (refuse format args) t :=
    safeSrv_read trivial fun t' e ht' => safeSrv_ret fun t'' ht'' g hg => by cases hg
  obtain ⟨format, args, heq⟩ | ⟨tok, hparsed, heq⟩ :=
    verifyGoogleIDToken_cases J idToken s.jwksURL s.googleClientID
  · exact heq ▸ hrefuse format args t
  rw [heq]
  refine safeSrv_read trivial fun t₁ e₁ ht₁ => ?_
  obtain ⟨format, args, heq⟩ | ⟨key, hkey, heq⟩ := withRSAKey_cases J idToken s.googleClientID
    (tok.header.getString "kid") (e₁.http s.jwksURL)
  · exact heq ▸ hrefuse format args t₁
  rw [show withRSAKey _ _ _ _ (exec e₁ (.httpGet s.jwksURL) t₁).1 = _ from heq]
  refine safeSrv_read trivial fun t₂ e₂ ht₂ => ?_
  obtain ⟨format, args, heq⟩ | ⟨tok', hverified, hissuer, haud, heq⟩ :=
    checkGoogleIDToken_cases J idToken s.googleClientID key e₂.now
  · exact heq ▸ hrefuse format args t₂
  obtain rfl : tok = tok' :=
    Except.ok.inj (hparsed.symm.trans (J.parseWithClaims_ok.mp hverified).1)
  rw [show checkGoogleIDToken _ _ _ _ (exec e₂ .timeNow t₂).1 = _ from heq]
  refine safeSrv_ret fun t₃ ht₃ g hg => ?_
  exact ⟨tok, _, _, ⟨hparsed, ⟨key, hkey, hverified⟩, hissuer⟩, haud, (Except.ok.inj hg).symm⟩

/-- What an answer to a sign-in says of the user that the ID token vouches for. -/
def SessionFor (J : GolangJwt) (s : Server) (idToken : String) (resp : SessionResponse)
    (t : UsersTable) : Prop :=
  ∃ g u, Vouched J s idToken g ∧ SubjectKnown g.sub u t ∧ resp.user = userToProto u ∧
    ∃ now, issueJWT J now u.id.text u.isAdmin s.jwtSecret = .ok resp.jwt

theorem loginWithGoogle_safeSrv (J : GolangJwt) (s : Server) (idToken : String) (t : UsersTable) :
    SafeSrv (fun res t => ∀ resp, res = .ok resp → SessionFor J s idToken resp t)
      (loginWithGoogle J s idToken) t := by
  by_cases hne : idToken = ""
  · subst hne
    exact safeSrv_ret fun t' ht' resp hresp => by cases hresp
  rw [loginWithGoogle_eq hne]
  refine Safe.bind TableEvolves.refl (verifyGoogleIDToken_safeSrv J s idToken t)
    fun res t₁ hverified => ?_
  cases res with
  | error err =>
    exact safeSrv_read trivial fun t₂ e₂ ht₂ => safeSrv_ret fun t₃ ht₃ resp hresp => by cases hresp
  | ok g =>
    refine Safe.bind TableEvolves.refl (upsertUser_safeSrv g.sub g.email g.displayName g.picture t₁)
      fun res t₂ hpost => ?_
    cases res with
    | error err => exact safeSrv_ret fun t₃ ht₃ resp hresp => by cases hresp
    | ok u =>
      obtain ⟨session, hsession, hissue⟩ := issueSession_ok J s u
      rw [hsession]
      refine safeSrv_read trivial fun t₃ e₃ ht₃ => safeSrv_ret fun t₄ ht₄ resp hresp => ?_
      obtain rfl := Except.ok.inj hresp
      have hknown : SubjectKnown g.sub u t₄ := ((hpost u rfl).evolve ht₃).evolve ht₄
      exact ⟨g, u, hverified g rfl, hknown, (hissue e₃.now).1, e₃.now, (hissue e₃.now).2⟩

/-- The user in an answer is known. -/
def ProtoKnown (pb : PbUser) (t : UsersTable) : Prop := ∃ u, pb = userToProto u ∧ KnownAs u t

theorem updateProfile_safeSrv (ctx : Context) (username : String) (t : UsersTable) :
    SafeSrv (fun res t => ∀ pb, res = .ok pb → ProtoKnown pb t) (updateProfile ctx username) t := by
  cases hclaims : claimsFromContext ctx with
  | none =>
    rw [updateProfile, hclaims]
    exact safeSrv_ret fun t' ht' pb hpb => by cases hpb
  | some claims =>
    by_cases hvalid : username ≠ "" → usernameRE username = true
    · rw [updateProfile_eq hclaims hvalid]
      refine Safe.bind TableEvolves.refl (updateUsername_safeSrv hvalid t) fun res t₁ hpost => ?_
      cases res with
      | error err =>
        rw [profileReply]
        split
        all_goals exact safeSrv_ret fun t' ht' pb hpb => by cases hpb
      | ok u =>
        refine safeSrv_ret fun t' ht' pb hpb => ?_
        exact ⟨u, (Except.ok.inj hpb).symm, (hpost u rfl).1.evolve ht'⟩
    · obtain ⟨st, hinvalid⟩ := updateProfile_invalid hclaims hvalid
      rw [hinvalid]
      exact safeSrv_ret fun t' ht' pb hpb => by cases hpb

theorem getCurrentUser_safeSrv (ctx : Context) (t : UsersTable) :
    SafeSrv (fun res t => ∀ pb, res = .ok pb → ProtoKnown pb t) (getCurrentUser ctx) t := by
  cases hclaims : claimsFromContext ctx with
  | none =>
    rw [getCurrentUser, hclaims]
    exact safeSrv_ret fun t' ht' pb hpb => by cases hpb
  | some claims =>
    rw [getCurrentUser, hclaims]
    refine Safe.bind TableEvolves.refl (getUserByID_safeSrv claims.userID t) fun res t₁ hpost => ?_
    cases res with
    | error err => exact safeSrv_ret fun t' ht' pb hpb => by cases hpb
    | ok u =>
      refine safeSrv_ret fun t' ht' pb hpb => ?_
      exact ⟨u, (Except.ok.inj hpb).symm, (hpost u rfl).1.evolve ht'⟩

theorem listUsers_safeSrv (t : UsersTable) :
    SafeSrv (fun res t => ∀ pbs, res = .ok pbs → ∀ pb ∈ pbs, ProtoKnown pb t) listUsers t := by
  refine safeSrv_read trivial fun t₁ e₁ ht₁ => ?_
  obtain ⟨err, hexec⟩ | ⟨rows, t₂, -, hquery, hexec⟩ := execSql_cases e₁ .selectAll t₁
  · rw [show exec e₁ (.sql .selectAll) t₁ = _ from hexec]
    exact safeSrv_ret fun t' ht' pbs hpbs => by cases hpbs
  · rw [show exec e₁ (.sql .selectAll) t₁ = _ from hexec]
    obtain ⟨rfl, rfl⟩ := UsersTable.query_selectAll hquery
    refine safeSrv_ret fun t' ht' pbs hpbs pb hpb => ?_
    obtain rfl := Except.ok.inj hpbs
    obtain ⟨u, hu, rfl⟩ := List.mem_map.mp hpb
    have hmem : u ∈ t₂.rows := (List.perm_insertionSort _ _).mem_iff.mp hu
    exact ⟨u, rfl, (KnownAs.of_mem hmem).evolve ht'⟩

end Safe

/-! ## Answers -/

/-- The users in an answer. -/
def Response.people : Response → List PbUser
  | .session r => [r.user]
  | .user u => [u]
  | .users us => us

/-- What an answer says of identities is right. -/
structure RightlyNamed (J : GolangJwt) (s : Server) (req : Request) (resp : Response)
    (t : UsersTable) : Prop where
  known : ∀ pb ∈ resp.people, ProtoKnown pb t
  session : ∀ idToken, req = .loginWithGoogle idToken →
    ∃ r, resp = .session r ∧ SessionFor J s idToken r t

variable {J : GolangJwt} {env : Environ} {s : Server} {t : UsersTable}

/-- An answer made of a safe one. -/
theorem safeSrv_map {β : Type} {post : β → UsersTable → Prop} {req : Request} {f : β → Response}
    {p : Srv (Except Status β)} (hp : SafeSrv (fun res t => ∀ b, res = .ok b → post b t) p t)
    (hf : ∀ b t, post b t → RightlyNamed J s req (f b) t) (hpost : ∀ b t t', TableEvolves t t' →
      RightlyNamed J s req (f b) t → RightlyNamed J s req (f b) t') :
    SafeSrv (fun res t => ∀ resp, res = .ok resp → RightlyNamed J s req resp t)
      (p >>= fun r => .ret (r.map f)) t := by
  refine Safe.bind TableEvolves.refl hp fun res t₁ hres => safeSrv_ret fun t₂ ht₂ resp hresp => ?_
  cases res with
  | error st => cases hresp
  | ok b =>
    obtain rfl := Except.ok.inj hresp
    exact hpost b _ _ ht₂ (hf b _ (hres b rfl))

theorem ProtoKnown.evolve {pb : PbUser} {t' : UsersTable} (h : ProtoKnown pb t)
    (h' : TableEvolves t t') : ProtoKnown pb t' := by
  obtain ⟨u, hpb, hu⟩ := h
  exact ⟨u, hpb, hu.evolve h'⟩

theorem SessionFor.evolve {idToken : String} {r : SessionResponse} {t' : UsersTable}
    (h : SessionFor J s idToken r t) (h' : TableEvolves t t') : SessionFor J s idToken r t' := by
  obtain ⟨g, u, hg, hu, huser, hjwt⟩ := h
  exact ⟨g, u, hg, hu.evolve h', huser, hjwt⟩

theorem RightlyNamed.evolve {req : Request} {resp : Response} {t' : UsersTable}
    (h : RightlyNamed J s req resp t) (h' : TableEvolves t t') :
    RightlyNamed J s req resp t' where
  known pb hpb := (h.known pb hpb).evolve h'
  session idToken hreq := by
    obtain ⟨r, hresp, hr⟩ := h.session idToken hreq
    exact ⟨r, hresp, hr.evolve h'⟩

theorem handler_safeSrv (J : GolangJwt) (s : Server) (ctx : Context) (req : Request)
    (t : UsersTable) :
    SafeSrv (fun res t => ∀ resp, res = .ok resp → RightlyNamed J s req resp t)
      (handler J s ctx req) t := by
  have hone {pb : PbUser} {t : UsersTable} (h : ProtoKnown pb t) :
      ∀ pb' ∈ [pb], ProtoKnown pb' t := fun pb' hpb' => List.mem_singleton.mp hpb' ▸ h
  cases req with
  | loginWithGoogle idToken =>
    refine safeSrv_map (loginWithGoogle_safeSrv J s idToken t) (fun r t₁ hr => ?_)
      fun _ _ _ h' h => h.evolve h'
    have hknown : ProtoKnown r.user t₁ := by
      obtain ⟨g, u, -, hu, huser, -⟩ := hr
      exact ⟨u, huser, hu.1⟩
    refine ⟨hone hknown, fun idToken' hreq => ⟨r, rfl, ?_⟩⟩
    obtain rfl := Request.loginWithGoogle.inj hreq
    exact hr
  | updateProfile username =>
    exact safeSrv_map (updateProfile_safeSrv ctx username t)
      (fun pb t₁ hpb => ⟨hone hpb, fun _ hreq => by cases hreq⟩) fun _ _ _ h' h => h.evolve h'
  | getCurrentUser =>
    exact safeSrv_map (getCurrentUser_safeSrv ctx t)
      (fun pb t₁ hpb => ⟨hone hpb, fun _ hreq => by cases hreq⟩) fun _ _ _ h' h => h.evolve h'
  | listUsers =>
    exact safeSrv_map (listUsers_safeSrv t)
      (fun pbs t₁ hpbs => ⟨hpbs, fun _ hreq => by cases hreq⟩) fun _ _ _ h' h => h.evolve h'

theorem serve_safeSrv (J : GolangJwt) (env : Environ) (s : Server) (now : Time) (ctx : Context)
    (req : Request) (t : UsersTable) :
    SafeSrv (fun res t => ∀ resp, res = .ok resp → RightlyNamed J s req resp t)
      (serve J env s now ctx req) t := by
  rcases serve_cases J env s now ctx req with ⟨st, h⟩ | ⟨-, h⟩ | ⟨-, c, -, -, h⟩
  · rw [h]
    exact safeSrv_ret fun t' ht' resp hresp => by cases hresp
  · rw [h]
    exact handler_safeSrv J s ctx req t
  · rw [h]
    exact handler_safeSrv J s _ req t

/-! ## Any interleaving -/

/-- An ID token vouches for one subject. -/
theorem Vouched.unique {idToken : String} {g g' : GoogleClaims} (h : Vouched J s idToken g)
    (h' : Vouched J s idToken g') : g = g' := by
  obtain ⟨tok, reply, now, hsigned, -, rfl⟩ := h
  obtain ⟨tok', reply', now', hsigned', -, rfl⟩ := h'
  obtain rfl := Except.ok.inj (hsigned.parsed.symm.trans hsigned'.parsed)
  rfl

/-- The record behind a session, if the ID token has a subject. -/
theorem SessionFor.subject {idToken : String} {r : SessionResponse} {g : GoogleClaims}
    (h : SessionFor J s idToken r t) (hg : Vouched J s idToken g) (hsub : g.sub ≠ "") :
    ∃ u, KnownAs u t ∧ u.id.text = r.user.id ∧ u.googleSub = g.sub := by
  obtain ⟨g', u, hg', ⟨hu, husub⟩, huser, -⟩ := h
  obtain rfl := hg.unique hg'
  exact ⟨u, hu, (congrArg PbUser.id huser).symm, husub.resolve_left hsub⟩

variable {ι : Type} {now : ι → Time} {ctx : ι → Context} {req : ι → Request}

/-- The requests, none of which has started. -/
def servedRequests (J : GolangJwt) (env : Environ) (s : Server) (now : ι → Time) (ctx : ι → Context)
    (req : ι → Request) (t : UsersTable) :
    Pool ι Effect Effect.Reply (Except Status Response) UsersTable where
  thread i := serve J env s (now i) (ctx i) (req i)
  state := t

theorem rightlyNamed_of_returned [DecidableEq ι] {sched : List (ι × Env)} {i : ι}
    {resp : Response}
    (h : (Pool.exec exec (servedRequests J env s now ctx req t) sched).Returned i (.ok resp)) :
    RightlyNamed J s (req i) resp
      (Pool.exec exec (servedRequests J env s now ctx req t) sched).state := by
  have hsched : Pool.Along exec (fun c i e => c.Admits (fun _ => anyEnv) i e)
      (servedRequests J env s now ctx req t) sched := Pool.along_admits_true _ _
  exact Pool.exec_safe (fun _ => TableEvolves.refl) (fun _ => TableEvolves.trans)
    (fun _ _ _ _ _ h => h) hsched (fun i => serve_safeSrv J env s (now i) (ctx i) (req i) t) h
    resp rfl

/-- **Identities agree.** Whatever requests are interleaved, in whatever order and with whatever
faults, every user in an answer that has arrived has a row with the identifier and the admin flag
that the answer says, so that any two answers agree on the flag of a user; and two sign-ins whose
ID tokens have a subject are for one user exactly when it is one subject. -/
theorem identities_agree [DecidableEq ι] {sched : List (ι × Env)} {i j : ι}
    {resp resp' : Response}
    (hi : (Pool.exec exec (servedRequests J env s now ctx req t) sched).Returned i (.ok resp))
    (hj : (Pool.exec exec (servedRequests J env s now ctx req t) sched).Returned j (.ok resp'))
    {pb pb' : PbUser} (hpb : pb ∈ resp.people) (hpb' : pb' ∈ resp'.people) :
    (∃ r ∈ (Pool.exec exec (servedRequests J env s now ctx req t) sched).state.rows,
      r.id.text = pb.id ∧ r.isAdmin = pb.isAdmin) ∧
    (pb.id = pb'.id → pb.isAdmin = pb'.isAdmin) ∧
    ∀ idToken idToken' g g', req i = .loginWithGoogle idToken → req j = .loginWithGoogle idToken' →
      Vouched J s idToken g → Vouched J s idToken' g' → g.sub ≠ "" → g'.sub ≠ "" →
        (g.sub = g'.sub ↔ pb.id = pb'.id) := by
  have hnamed := rightlyNamed_of_returned hi
  have hnamed' := rightlyNamed_of_returned hj
  obtain ⟨u, rfl, hu⟩ := hnamed.known pb hpb
  obtain ⟨u', rfl, hu'⟩ := hnamed'.known pb' hpb'
  refine ⟨?_, fun hid => (hu.unique hu' (Uuid.text_injective hid)).2, ?_⟩
  · obtain ⟨r, hr, hid, -, hadmin⟩ := hu
    exact ⟨r, hr, congrArg Uuid.text hid, hadmin⟩
  · intro idToken idToken' g g' hreq hreq' hg hg' hsub hsub'
    obtain ⟨r, rfl, hsession⟩ := hnamed.session idToken hreq
    obtain ⟨r', rfl, hsession'⟩ := hnamed'.session idToken' hreq'
    obtain ⟨v, hv, hvid, hvsub⟩ := hsession.subject hg hsub
    obtain ⟨v', hv', hvid', hvsub'⟩ := hsession'.subject hg' hsub'
    rw [List.mem_singleton.mp hpb, List.mem_singleton.mp hpb', ← hvid, ← hvid', ← hvsub, ← hvsub']
    exact ⟨fun h => congrArg Uuid.text (hv.id_of_googleSub hv' h),
      fun h => (hv.unique hv' (Uuid.text_injective h)).1⟩

/-! ## Ada signs in and asks who she is -/

theorem getCurrentUser_runs {ctx : Context} {claims : Claims} {r : User} {e : Env}
    (hclaims : claimsFromContext ctx = some claims) (hfault : e.fault = none) (hr : r ∈ t.rows)
    (hid : Uuid.parse claims.userID = some r.id) :
    Runs exec anyEnv (getCurrentUser ctx) t (.ok (userToProto r)) t := by
  rw [getCurrentUser, hclaims]
  refine runs_bind_iff.mpr ⟨.ok r, t, ?_, .ret _ _⟩
  rw [getUserByID_eq]
  have hread := exec_readsOnly (q := .sql (.selectFirst [.id claims.userID])) trivial e t
  have hfound : getReply claims.userID (exec e (.sql (.selectFirst [.id claims.userID])) t).1 =
      .ok r := congrArg (getReply claims.userID) (select_idText hfault hr hid)
  refine .act e trivial ?_
  rw [hread, hfound]
  exact .ret _ _

/-- What Ada is shown when she signs in is hers. -/
theorem ada_shown {resp : SessionResponse} {users : UsersTable}
    (h : Runs exec (atTime Sample.env.now)
      (loginWithGoogle Sample.jwt (newServer Sample.environ) Sample.adaIDToken.text) Sample.users
      (.ok resp) users) : resp.user.id = Sample.ada.id.text := by
  have hfirst : Sample.users.first (subjectConds "108176814619778123456") = some Sample.ada := by
    decide +kernel
  obtain ⟨tok, reply, now, hsigned, -, u, e, hin, -, huser, -⟩ := runs_loginWithGoogle h
  obtain rfl : tok = _ :=
    Except.ok.inj (hsigned.parsed.symm.trans (Sample.adaIDToken_signed "").parsed)
  rw [huser, ← hin.found _ (Sample.adaIDToken_sub ▸ hfirst)]
  rfl

namespace Sample

/-- Ada's two requests; the second carries the token that the first returns. -/
def adaRequests (token : String) :
    Pool Bool Effect Effect.Reply (Except Status Response) UsersTable :=
  servedRequests jwt environ (newServer environ) (fun _ => Sample.env.now)
    (fun second => if second then bearerContext token else ⟨none, none⟩)
    (fun second => if second then .getCurrentUser else .loginWithGoogle adaIDToken.text) users

end Sample

theorem identities_agree_ada : ∃ resp pb sched,
    (Pool.exec exec (Sample.adaRequests resp.jwt) sched).Returned false (.ok (.session resp)) ∧
    (Pool.exec exec (Sample.adaRequests resp.jwt) sched).Returned true (.ok (.user pb)) ∧
    pb.isAdmin = resp.user.isAdmin := by
  obtain ⟨resp, users, hlogin, hjwt⟩ := ada_signs_in
  have hsignIn : (Sample.adaRequests resp.jwt).thread false =
      loginWithGoogle Sample.jwt (newServer Sample.environ) Sample.adaIDToken.text >>=
        fun r => .ret (r.map .session) := by
    have hpub : (Request.loginWithGoogle Sample.adaIDToken.text).fullMethod ∈ publicRPCs :=
      fullMethod_public_iff.mpr ⟨_, rfl⟩
    show serve Sample.jwt Sample.environ (newServer Sample.environ) Sample.env.now ⟨none, none⟩
      (.loginWithGoogle Sample.adaIDToken.text) = _
    rw [serve, unaryAuthInterceptor, if_pos hpub]
    rfl
  obtain ⟨sched, -, -, hexec⟩ := Pool.exists_exec_of_runs hlogin rfl hsignIn
  obtain ⟨tok, reply, now, -, -, u, e, hin, -, huser, -⟩ := runs_loginWithGoogle hlogin
  have htext : Sample.ada.id.text = "3f2b8c1e-9d4a-4e6f-8a7b-0c1d2e3f4a5b" := by decide +kernel
  have hid : Uuid.parse "3f2b8c1e-9d4a-4e6f-8a7b-0c1d2e3f4a5b" = some u.id := by
    rw [← htext, ← ada_shown hlogin, huser]
    exact Uuid.parse_text u.id
  have hauth : Authenticated Sample.jwt Sample.environ Sample.env.now (bearerContext resp.jwt)
      ⟨"3f2b8c1e-9d4a-4e6f-8a7b-0c1d2e3f4a5b", true⟩ :=
    ⟨_, bearer_bearerContext _, (validateJWT_issueJWT ada_readsBack hjwt _ _).mpr ⟨by decide, rfl⟩⟩
  have hget : ((Sample.adaRequests resp.jwt).exec exec sched).thread true =
      getCurrentUser (withClaims (bearerContext resp.jwt)
        ⟨"3f2b8c1e-9d4a-4e6f-8a7b-0c1d2e3f4a5b", true⟩) >>= fun r => .ret (r.map .user) := by
    have hpub : Request.getCurrentUser.fullMethod ∉ publicRPCs := by decide
    rw [hexec]
    dsimp only
    rw [Function.update_of_ne (by decide)]
    exact serve_of_caller hpub hauth (.inr rfl) _
  have hclaims : claimsFromContext (withClaims (bearerContext resp.jwt)
      ⟨"3f2b8c1e-9d4a-4e6f-8a7b-0c1d2e3f4a5b", true⟩) = some _ := rfl
  have hasked := getCurrentUser_runs (e := Sample.env) hclaims rfl hin.stored hid
  obtain ⟨sched', -, -, hexec'⟩ :=
    Pool.exists_exec_of_runs hasked (congrArg Pool.state hexec) hget
  have hfirst : (Pool.exec exec (Sample.adaRequests resp.jwt) (sched ++ sched')).Returned false
      (.ok (.session resp)) := by
    rw [Pool.exec_append]
    refine Pool.Returned.exec ?_ sched'
    simp [Pool.Returned, hexec, Except.map]
  have hsecond : (Pool.exec exec (Sample.adaRequests resp.jwt) (sched ++ sched')).Returned true
      (.ok (.user (userToProto u))) := by
    simp [Pool.exec_append, Pool.Returned, hexec', Except.map]
  refine ⟨resp, userToProto u, sched ++ sched', hfirst, hsecond, ?_⟩
  exact (identities_agree hsecond hfirst (List.mem_singleton.mpr rfl)
    (List.mem_singleton.mpr rfl)).2.1 (congrArg PbUser.id huser.symm)

end SampleGrpc
