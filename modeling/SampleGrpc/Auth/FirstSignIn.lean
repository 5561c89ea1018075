import SampleGrpc.Auth.SignIn
import SampleGrpc.Interaction.Pool

/-!
# Concurrent first sign-ins

Any number of sign-ins of one Google subject that has no row yet, interleaved statement by
statement. `FirstOrCreate` is a SELECT and then an INSERT, so several requests may find nothing
and all try to insert; the unique index on `google_sub` lets one of them through.

* `firstSignIns_agree` — if every INSERT is executed while there is no such row, exactly one row
  results and every request returns a session for it.
* `firstSignIns_collide` — two requests, of which one fails.
-/

namespace SampleGrpc

open Prog

/-! ## What the sign-ins rely on -/

structure SameUser (r r' : User) : Prop where
  id : r'.id = r.id
  googleSub : r'.googleSub = r.googleSub

/-- The tables a sign-in of `sub` can turn `t` into: rows keep id and subject, new rows have the
subject `sub`. -/
def SubjectEvolves (sub : String) (t t' : UsersTable) : Prop :=
  Evolves SameUser (fun r => r.googleSub = sub) t.rows t'.rows

theorem SubjectEvolves.refl (sub : String) (t : UsersTable) : SubjectEvolves sub t t :=
  Evolves.refl (fun _ => ⟨rfl, rfl⟩) _

theorem SubjectEvolves.trans {sub : String} (t₁ t₂ t₃ : UsersTable)
    (h : SubjectEvolves sub t₁ t₂) (h' : SubjectEvolves sub t₂ t₃) : SubjectEvolves sub t₁ t₃ :=
  Evolves.trans (fun _ _ _ h h' => ⟨h'.id.trans h.id, h'.googleSub.trans h.googleSub⟩)
    (fun _ _ hsub h => h.googleSub.trans hsub) h h'

/-- The subject has a row, with this id. -/
def HasRow (sub : String) (i : Uuid) (t : UsersTable) : Prop :=
  ∃ r ∈ t.rows, r.id = i ∧ r.googleSub = sub

/-- The WHERE clause of the subject selects no other row. -/
def SelectsOnly (sub : String) (t : UsersTable) : Prop :=
  ∀ r ∈ t.rows, satisfies (subjectConds sub) r = true → r.googleSub = sub

theorem HasRow.evolve {sub : String} {i : Uuid} {t t' : UsersTable} (h : HasRow sub i t)
    (h' : SubjectEvolves sub t t') : HasRow sub i t' := by
  obtain ⟨r, hr, hid, hsub⟩ := h
  obtain ⟨r', hr', hsame⟩ := h'.exists_of_mem hr
  exact ⟨r', hr', hsame.id.trans hid, hsame.googleSub.trans hsub⟩

theorem SelectsOnly.evolve {sub : String} {t t' : UsersTable} (h : SelectsOnly sub t)
    (h' : SubjectEvolves sub t t') : SelectsOnly sub t' := by
  intro r' hr' hsat
  obtain ⟨r, hr, hsame⟩ | hnew := h'.of_mem hr'
  · rw [satisfies_subjectConds, hsame.googleSub, ← satisfies_subjectConds] at hsat
    exact hsame.googleSub.trans (h r hr hsat)
  · exact hnew

/-! ## One sign-in under interference -/

/-- An INSERT meets no row with its subject, nor with the id it draws. -/
def Unoccupied (e : Env) : Effect → UsersTable → Prop
  | .sql (.insert u), t => ∀ r ∈ t.rows, r.googleSub ≠ u.googleSub ∧ r.id ≠ e.newID
  | _, _ => True

instance (e : Env) (q : Effect) (t : UsersTable) : Decidable (Unoccupied e q t) := by
  unfold Unoccupied
  split <;> infer_instance

theorem Effect.ReadsOnly.unoccupied {q : Effect} (h : q.ReadsOnly) (e : Env) (t : UsersTable) :
    Unoccupied e q t := by
  unfold Unoccupied
  split
  · exact False.elim h
  · trivial

/-- The environment of the claims made here: no statement fails on its own, the ID token is valid
at every instant, and an INSERT finds its place unoccupied. -/
structure Undisturbed (J : GolangJwt) (s : Server) (idToken : String) (tok : Token) (e : Env)
    (q : Effect) (t : UsersTable) : Prop where
  fault : e.fault = none
  signed : GoogleSigned J (e.http s.jwksURL) e.now idToken tok
  clear : Unoccupied e q t

variable {J : GolangJwt} {s : Server} {idToken sub : String} {tok : Token} {α : Type}

/-- A sign-in of `sub` that keeps to what the others rely on. -/
abbrev SafeSignIn (J : GolangJwt) (s : Server) (idToken : String) (tok : Token) (sub : String)
    (post : α → UsersTable → Prop) (p : Srv α) (t : UsersTable) : Prop :=
  p.Safe exec (Undisturbed J s idToken tok) (SubjectEvolves sub) (SubjectEvolves sub) post t

/-- What an action other than an INSERT writes. -/
theorem RpcEffect.subjectEvolves {q : Effect} (h : RpcEffect q)
    (hq : ∀ u, q = .sql (.insert u) → u.googleSub = sub) (e : Env) (t : UsersTable) :
    SubjectEvolves sub t (exec e q t).2 := by
  refine exec_writes (fun _ => ⟨rfl, rfl⟩) (fun stmt hstmt => ?_) e t
  cases stmt with
  | selectFirst conds => trivial
  | selectAll => trivial
  | insert u => exact fun _ _ => hq u hstmt
  | update conds set =>
    intro r r' hrewrite
    have hedit := (hstmt ▸ h).writes r r' hrewrite
    exact ⟨hedit.id, hedit.googleSub⟩

/-- An action that only reads. -/
theorem safe_read {post : α → UsersTable → Prop} {q : Effect} {k : q.Reply → Srv α}
    {t : UsersTable} (hq : q.ReadsOnly)
    (h : ∀ t', SubjectEvolves sub t t' → ∀ e, Undisturbed J s idToken tok e q t' →
      SafeSignIn J s idToken tok sub post (k (exec e q t').1) t') :
    SafeSignIn J s idToken tok sub post (.act q k) t := by
  intro t' ht' e he
  rw [exec_readsOnly hq e t']
  exact ⟨SubjectEvolves.refl sub t', h t' ht' e he⟩

/-- A result that stays right whatever the others do. -/
theorem safe_ret {post : α → UsersTable → Prop} {a : α} {t : UsersTable}
    (h : ∀ t', SubjectEvolves sub t t' → post a t') :
    SafeSignIn J s idToken tok sub post (.ret a) t := h

theorem HasRow.first {i : Uuid} {t : UsersTable} (h : HasRow sub i t) :
    ∃ r, t.first [.id i.text] = some r ∧ r.id = i := by
  obtain ⟨r, hr, hid, -⟩ := h
  refine ⟨r, UsersTable.first_of_unique hr (by simpa using hid) fun r' hr' hsat => ?_, hid⟩
  exact UsersTable.eq_of_id hr' hr ((by simpa using hsat : r'.id = i).trans hid.symm)

theorem getUserByID_safe {i : Uuid} {t : UsersTable} (h : HasRow sub i t) :
    SafeSignIn J s idToken tok sub (fun res t => ∃ u, res = .ok u ∧ u.id = i ∧ HasRow sub i t)
      (getUserByID i.text) t := by
  refine safe_read trivial fun t' ht' e he => ?_
  rw [exec_selectFirst he.fault (by simp) t']
  obtain ⟨r, hfirst, hid⟩ := (h.evolve ht').first
  rw [hfirst]
  exact safe_ret fun t'' ht'' => ⟨r, rfl, hid, (h.evolve ht').evolve ht''⟩

theorem updateUsername_safe {i : Uuid} {name : String} (hname : usernameRE name = true)
    {t : UsersTable} (h : HasRow sub i t) :
    SafeSignIn J s idToken tok sub
      (fun res t => HasRow sub i t ∧ ∀ u, res = .ok u → u.id = i)
      (updateUsername i.text name) t := by
  intro t' ht' e he
  have heffect : RpcEffect (.sql (.update [.id i.text]
      [.username (if name ≠ "" then some name else none)])) :=
    ((updateUsername_uses fun _ => hname) : (updateUsername i.text name).Uses RpcEffect).1
  have hevolves : SubjectEvolves sub t' (exec e _ t').2 :=
    heffect.subjectEvolves (fun u hu => by cases hu) e t'
  have hrow := (h.evolve ht').evolve hevolves
  refine ⟨hevolves, ?_⟩
  cases (exec e (.sql (.update [.id i.text]
      [.username (if name ≠ "" then some name else none)])) t').1 with
  | error err =>
    show SafeSignIn J s idToken tok sub _ (if isUniqueViolation err then _ else _) _
    split
    all_goals exact safe_ret fun t'' ht'' => ⟨hrow.evolve ht'', fun u hu => by cases hu⟩
  | ok stamp =>
    refine (getUserByID_safe hrow).weaken fun res t hpost => ?_
    obtain ⟨u, rfl, hid, hrow'⟩ := hpost
    exact ⟨hrow', fun u' hu' => Except.ok.inj hu' ▸ hid⟩

/-- The generator, followed by a program that is safe for every handle it can draw. -/
theorem generateUsername_safe {post : α → UsersTable → Prop} {f : String → Srv α} {t : UsersTable}
    (h : ∀ name, usernameRE name = true → ∀ t', SubjectEvolves sub t t' →
      SafeSignIn J s idToken tok sub post (f name) t') :
    SafeSignIn J s idToken tok sub post (generateUsername >>= f) t := by
  refine safe_read trivial fun t₁ ht₁ e₁ _ => ?_
  refine safe_read trivial fun t₂ ht₂ e₂ _ => ?_
  refine safe_read trivial fun t₃ ht₃ e₃ _ => ?_
  refine h _ (generateUsername_valid _ _ _) t₃ ?_
  exact .trans _ _ _ (.trans _ _ _ ht₁ ht₂) ht₃

theorem assignHandle_safe {i : Uuid} (n : Nat) {t : UsersTable} (h : HasRow sub i t) :
    SafeSignIn J s idToken tok sub (fun res t => ∃ u, res = .ok u ∧ u.id = i ∧ HasRow sub i t)
      (assignHandle generateUsername i.text n) t := by
  induction n generalizing t with
  | zero => exact getUserByID_safe h
  | succ n ih =>
    refine generateUsername_safe fun name hname t' ht' => ?_
    refine Safe.bind (SubjectEvolves.refl sub) (updateUsername_safe hname (h.evolve ht')) ?_
    intro res t'' hpost
    obtain ⟨hrow, hid⟩ := hpost
    cases res with
    | ok u => exact safe_ret fun t₃ ht₃ => ⟨u, rfl, hid u rfl, hrow.evolve ht₃⟩
    | error err => exact ih hrow

/-- An INSERT that meets no row of its subject and no row with the id it draws. -/
theorem exec_insert {e : Env} {u : UserFields} {t : UsersTable} (hfault : e.fault = none)
    (hname : u.username = none)
    (hclear : ∀ r ∈ t.rows, r.googleSub ≠ u.googleSub ∧ r.id ≠ e.newID) :
    ∃ t', exec e (.sql (.insert u)) t = (.ok (u.row e.newID e.now), t') ∧
      t'.rows = t.rows ++ [u.row e.newID e.now] := by
  obtain ⟨t', hcommit, hrows⟩ : ∃ t', commit (t.rows ++ [u.row e.newID e.now]) = .ok t' ∧
      t'.rows = t.rows ++ [u.row e.newID e.now] := by
    refine ⟨_, commit_of_nodup ?_ ?_ ?_, rfl⟩
    · rw [List.map_append, List.nodup_append]
      refine ⟨t.id_nodup, by simp, fun i hi j hj => ?_⟩
      obtain ⟨r, hr, rfl⟩ := List.mem_map.mp hi
      obtain rfl : j = e.newID := by simpa [UserFields.row] using hj
      exact (hclear r hr).2
    · rw [List.map_append, List.nodup_append]
      refine ⟨t.googleSub_nodup, by simp, fun i hi j hj => ?_⟩
      obtain ⟨r, hr, rfl⟩ := List.mem_map.mp hi
      obtain rfl : j = u.googleSub := by simpa [UserFields.row] using hj
      exact (hclear r hr).1
    · simpa [UserFields.row, hname] using t.username_nodup
  refine ⟨t', execSql_of_query hfault ?_, hrows⟩
  rw [UsersTable.query, hcommit]
  rfl

/-- The lookup or the creation ends with a record of the subject's row. -/
theorem firstOrCreate_safe {email displayName : String} {pic : Option String} (hpic : pic ≠ some "")
    {t : UsersTable} (h : SelectsOnly sub t) :
    SafeSignIn J s idToken tok sub (fun res t => ∃ u, res = .ok u ∧ HasRow sub u.id t)
      (firstOrCreate { googleSub := sub } { email, displayName, pictureURL := pic }
        { googleSub := sub, email, displayName, pictureURL := pic }) t := by
  refine safe_read trivial fun t₁ ht₁ e₁ he₁ => ?_
  have hselect := exec_selectFirst he₁.fault
    (invalidText_columns (UserFields.nonZero { googleSub := sub })) t₁
  rw [hselect]
  cases hfirst : t₁.first (subjectConds sub) with
  | none =>
    -- Nothing found: the INSERT, in a table that others may have changed since.
    rw [subjectConds] at hfirst
    simp only [hfirst]
    intro t₂ ht₂ e₂ he₂
    rw [setFields_profile] at he₂ ⊢
    obtain ⟨t₃, hexec, hrows⟩ := exec_insert he₂.fault rfl he₂.clear
    have hevolves : SubjectEvolves sub t₂ (exec e₂ _ t₂).2 :=
      (RpcEffect.create sub email displayName pic hpic).subjectEvolves
        (fun u hu => by cases hu; rfl) e₂ t₂
    rw [hexec] at hevolves ⊢
    refine ⟨hevolves, safe_ret fun t₄ ht₄ => ⟨_, rfl, HasRow.evolve ⟨_, ?_, rfl, rfl⟩ ht₄⟩⟩
    rw [hrows]
    exact List.mem_append_right _ (List.mem_singleton.mpr rfl)
  | some row =>
    -- A row found: its refresh, which cannot fail on its own.
    obtain ⟨hmem, hsat⟩ := UsersTable.first_eq_some hfirst
    have hrow : HasRow sub row.id t₁ := ⟨row, hmem, rfl, h.evolve ht₁ row hmem hsat⟩
    rw [subjectConds] at hfirst
    simp only [hfirst]
    intro t₂ ht₂ e₂ he₂
    obtain ⟨t₃, hquery⟩ :=
      query_refresh_ok t₂ e₂.now e₂.newID row.id sub email displayName pic
    have hexec : exec e₂ (.sql (.update (subjectConds sub ++ [.id row.id.text])
        (UserFields.nonZero { email, displayName, pictureURL := pic }))) t₂ =
        (.ok e₂.now, t₃) := execSql_of_query he₂.fault hquery
    have hevolves : SubjectEvolves sub t₂ (exec e₂ _ t₂).2 :=
      (RpcEffect.refresh (subjectConds sub ++ [.id row.id.text]) email displayName pic
        hpic).subjectEvolves (fun u hu => by cases hu) e₂ t₂
    rw [hexec] at hevolves
    rw [subjectConds] at hexec
    rw [hexec]
    refine ⟨hevolves, safe_ret fun t₄ ht₄ => ⟨_, rfl, ?_⟩⟩
    rw [show User.id { assignAll _ row with updatedAt := _ } = row.id from assignAll_id _ row]
    exact ((hrow.evolve ht₂).evolve hevolves).evolve ht₄

theorem upsertUser_safe {email displayName picture : String} {t : UsersTable}
    (h : SelectsOnly sub t) :
    SafeSignIn J s idToken tok sub (fun res t => ∃ u, res = .ok u ∧ HasRow sub u.id t)
      (upsertUser sub email displayName picture generateUsername) t := by
  refine Safe.bind (SubjectEvolves.refl sub) (firstOrCreate_safe (pic_ne_empty picture) h) ?_
  intro res t' hpost
  obtain ⟨u, rfl, hrow⟩ := hpost
  show SafeSignIn J s idToken tok sub _ (if u.username = none then _ else _) t'
  split
  · refine (assignHandle_safe 10 hrow).weaken fun res t'' hpost => ?_
    obtain ⟨u', rfl, hid, hrow'⟩ := hpost
    exact ⟨u', rfl, hid ▸ hrow'⟩
  · exact safe_ret fun t'' ht'' => ⟨u, rfl, hrow.evolve ht''⟩

/-- A token that is valid at two instants verifies under the key of the one at the time of the
other. -/
theorem GoogleSigned.verified_at {reply reply' : HttpReply} {now now' : Time}
    (h : GoogleSigned J reply now idToken tok) (h' : GoogleSigned J reply' now' idToken tok) :
    ∃ key, selectRSAKey (tok.header.getString "kid") reply = .ok key ∧
      J.parseWithClaims now' idToken (rsaKeyFunc key) = .ok tok := by
  obtain ⟨key, hkey, hverified⟩ := h.verified
  obtain ⟨key', -, hverified'⟩ := h'.verified
  obtain ⟨hparsed, hsignature, -⟩ := J.parseWithClaims_ok.mp hverified
  obtain ⟨-, -, htime⟩ := J.parseWithClaims_ok.mp hverified'
  exact ⟨key, hkey, J.parseWithClaims_ok.mpr ⟨hparsed, hsignature, htime⟩⟩

theorem verifyGoogleIDToken_safe {t : UsersTable} (hparsed : J.parseUnverified idToken = .ok tok)
    (haud : s.googleClientID ≠ "" → audMatch tok.claims s.googleClientID = true) :
    SafeSignIn J s idToken tok sub
      (fun res t' => res = .ok (googleClaims tok.claims) ∧ SubjectEvolves sub t t')
      (verifyGoogleIDToken J idToken s.jwksURL s.googleClientID) t := by
  rw [verifyGoogleIDToken_of_parsed hparsed]
  refine safe_read trivial fun t₁ ht₁ e₁ he₁ => ?_
  obtain ⟨key, hkey, -⟩ := he₁.signed.verified
  show SafeSignIn J s idToken tok sub _ (withRSAKey J idToken s.googleClientID
    (tok.header.getString "kid") (e₁.http s.jwksURL)) t₁
  rw [withRSAKey_of_key hkey]
  refine safe_read trivial fun t₂ ht₂ e₂ he₂ => ?_
  obtain ⟨key', hkey', hverified⟩ := he₁.signed.verified_at he₂.signed
  obtain rfl : key = key' := Except.ok.inj (hkey.symm.trans hkey')
  show SafeSignIn J s idToken tok sub _ (checkGoogleIDToken J idToken s.googleClientID key
    e₂.now) t₂
  rw [checkGoogleIDToken_of_valid hverified he₁.signed.issuer haud]
  exact safe_ret fun t₃ ht₃ => ⟨rfl, .trans _ _ _ (.trans _ _ _ ht₁ ht₂) ht₃⟩

/-- **A sign-in of a subject, undisturbed, ends with a session for a row of the subject.** -/
theorem loginWithGoogle_safe {t : UsersTable} (hparsed : J.parseUnverified idToken = .ok tok)
    (hsub : tok.claims.getString "sub" = sub)
    (haud : s.googleClientID ≠ "" → audMatch tok.claims s.googleClientID = true)
    (h : SelectsOnly sub t) :
    SafeSignIn J s idToken tok sub
      (fun res t => ∃ resp i, res = .ok resp ∧ HasRow sub i t ∧ resp.user.id = i.text ∧
        ∃ now isAdmin, issueJWT J now i.text isAdmin s.jwtSecret = .ok resp.jwt)
      (loginWithGoogle J s idToken) t := by
  rw [loginWithGoogle_eq (ne_empty_of_parsed hparsed)]
  refine Safe.bind (SubjectEvolves.refl sub) (verifyGoogleIDToken_safe hparsed haud) ?_
  intro res t₁ hpost
  obtain ⟨rfl, ht₁⟩ := hpost
  refine Safe.bind (SubjectEvolves.refl sub)
    ((congrArg (upsertUser · _ _ _ _) hsub) ▸ upsertUser_safe (h.evolve ht₁)) ?_
  intro res t₂ hpost
  obtain ⟨u, rfl, hrow⟩ := hpost
  obtain ⟨resp, hresp, hissue⟩ := issueSession_ok J s u
  rw [hresp]
  refine safe_read trivial fun t₃ ht₃ e₃ _ => safe_ret fun t₄ ht₄ => ?_
  exact ⟨resp e₃.now, u.id, rfl, (hrow.evolve ht₃).evolve ht₄,
    congrArg PbUser.id (hissue e₃.now).1, e₃.now, u.isAdmin, (hissue e₃.now).2⟩

/-! ## Any number of sign-ins -/

section Pool

variable {ι : Type}

/-- The sign-ins, before any of them has started. -/
def signIns (J : GolangJwt) (s : Server) (idToken : ι → String) (t : UsersTable) :
    Pool ι Effect Effect.Reply (Except Status SessionResponse) UsersTable :=
  { thread := fun i => loginWithGoogle J s (idToken i), state := t }

/-- If the next action of request `i` is an INSERT, its place is unoccupied. -/
abbrev InsertClear {α : Type} (c : Pool ι Effect Effect.Reply α UsersTable) (i : ι) (e : Env) :
    Prop :=
  c.Admits (fun _ => Unoccupied) i e

/-- A subject that is not empty selects its own row only. -/
theorem selectsOnly_of_ne_empty {t : UsersTable} (hsel : sub ≠ "" ∨ t.rows = []) :
    SelectsOnly sub t := by
  intro r hr hsat
  obtain hsub | hrows := hsel
  · obtain hempty | heq := satisfies_subjectConds.mp hsat
    · exact absurd hempty hsub
    · exact heq
  · rw [hrows] at hr
    simp at hr

variable [DecidableEq ι]

/-- **Concurrent first sign-ins agree**, if every INSERT is executed while the subject has no row.
Any number of requests with valid tokens for one subject are interleaved by any schedule without
faults until all have returned. Then the subject has exactly one row, and every request has
returned a session for it. -/
theorem firstSignIns_agree [Nonempty ι] {idToken : ι → String} {tok : ι → Token} {t : UsersTable}
    {sched : List (ι × Env)}
    (hparsed : ∀ i, J.parseUnverified (idToken i) = .ok (tok i))
    (hsub : ∀ i, (tok i).claims.getString "sub" = sub)
    (haud : ∀ i, s.googleClientID ≠ "" → audMatch (tok i).claims s.googleClientID = true)
    (hvalid : ∀ x ∈ sched, x.2.fault = none ∧
      ∀ i, GoogleSigned J (x.2.http s.jwksURL) x.2.now (idToken i) (tok i))
    (hsel : sub ≠ "" ∨ t.rows = [])
    (hclear : Pool.Along exec InsertClear (signIns J s idToken t) sched)
    (hdone : ∀ i, ∃ res, (Pool.exec exec (signIns J s idToken t) sched).Returned i res) :
    ∃ r ∈ (Pool.exec exec (signIns J s idToken t) sched).state.rows, r.googleSub = sub ∧
      (∀ r' ∈ (Pool.exec exec (signIns J s idToken t) sched).state.rows,
        r'.googleSub = sub → r' = r) ∧
      ∀ i, ∃ resp, (Pool.exec exec (signIns J s idToken t) sched).Returned i (.ok resp) ∧
        resp.user.id = r.id.text ∧
        ∃ now isAdmin, issueJWT J now r.id.text isAdmin s.jwtSecret = .ok resp.jwt := by
  have hsched : Pool.Along exec (fun c i e => c.Admits
      (fun i => Undisturbed J s (idToken i) (tok i)) i e) (signIns J s idToken t) sched := by
    have henv : Pool.Along exec (fun _ _ e => e.fault = none ∧
        ∀ i, GoogleSigned J (e.http s.jwksURL) e.now (idToken i) (tok i)) (signIns J s idToken t)
        sched := Pool.along_of_mem (fun x hx _ => hvalid x hx) _
    refine (henv.and hclear).mono ?_
    intro c i e h
    obtain ⟨⟨hfault, hsigned⟩, hinsert⟩ := h
    exact hinsert.mono fun q t hclear => ⟨hfault, hsigned i, hclear⟩
  have hsafe (i : ι) :
      SafeSignIn J s (idToken i) (tok i) sub _ (loginWithGoogle J s (idToken i)) t :=
    loginWithGoogle_safe (hparsed i) (hsub i) (haud i) (selectsOnly_of_ne_empty hsel)
  have hpost (i : ι) : ∃ resp j,
      (Pool.exec exec (signIns J s idToken t) sched).Returned i (.ok resp) ∧
      HasRow sub j (Pool.exec exec (signIns J s idToken t) sched).state ∧
      resp.user.id = j.text ∧
      ∃ now isAdmin, issueJWT J now j.text isAdmin s.jwtSecret = .ok resp.jwt := by
    obtain ⟨res, hres⟩ := hdone i
    obtain ⟨resp, j, rfl, hpost⟩ := Pool.exec_safe (fun _ => SubjectEvolves.refl sub)
      (fun _ => SubjectEvolves.trans) (fun _ _ _ _ _ h => h) hsched hsafe hres
    exact ⟨resp, j, hres, hpost⟩
  obtain ⟨i₀⟩ := ‹Nonempty ι›
  obtain ⟨-, j₀, -, ⟨r, hr, -, hrsub⟩, -⟩ := hpost i₀
  refine ⟨r, hr, hrsub, fun r' hr' hsub' => ?_, fun i => ?_⟩
  · exact UsersTable.eq_of_googleSub hr' hr (hsub'.trans hrsub.symm)
  · obtain ⟨resp, j, hret, ⟨r', hr', hid, hsub'⟩, huser, hjwt⟩ := hpost i
    obtain rfl : r' = r := UsersTable.eq_of_googleSub hr' hr (hsub'.trans hrsub.symm)
    exact ⟨resp, hret, hid ▸ huser, hid ▸ hjwt⟩

end Pool

/-! ## Two requests -/

namespace Sample

/-- Two requests of Ada's, who has no row. -/
def twoSignIns : Pool Bool Effect Effect.Reply (Except Status SessionResponse) UsersTable :=
  signIns jwt server (fun _ => adaIDToken.text) .empty

/-- The same two requests, while they are in `UpsertUser`. -/
def twoUpserts : Pool Bool Effect Effect.Reply (Except DbLayerError User) UsersTable where
  thread _ := upsertUser "108176814619778123456" "ada@example.com" "Ada" "" generateUsername
  state := .empty

/-- Both requests verify the ID token, which no other request notices. -/
theorem twoSignIns_verified : ∃ sched : List (Bool × Env), (∀ x ∈ sched, Quiet x.2) ∧
    Pool.Along exec InsertClear twoSignIns sched ∧
    Pool.exec exec twoSignIns sched = twoUpserts.bind fun _ => issueSession jwt server := by
  have hlogin := loginWithGoogle_eq (J := jwt) (s := server)
    (ne_empty_of_parsed (adaIDToken_signed "").parsed)
  obtain ⟨sched, hok, halong, hexec⟩ := exists_verified (c := twoSignIns) (i := false) hlogin
  obtain ⟨sched', hok', halong', hexec'⟩ := exists_verified
    (c := Pool.exec exec twoSignIns sched) (i := true) (by rw [hexec]; exact hlogin)
  refine ⟨sched ++ sched', fun x hx => ?_, Pool.along_append.mpr ⟨?_, ?_⟩, ?_⟩
  · obtain hx | hx := List.mem_append.mp hx
    · exact (hok x hx).2
    · exact (hok' x hx).2
  · exact halong.mono fun _ _ _ h => h.mono fun q t hq => hq.unoccupied _ t
  · exact halong'.mono fun _ _ _ h => h.mono fun q t hq => hq.unoccupied _ t
  · rw [Pool.exec_append, hexec', hexec, Pool.bind, Pool.mk.injEq]
    refine ⟨?_, rfl⟩
    funext i
    cases i with
    | false =>
      rw [Function.update_of_ne (by decide)]
      dsimp only
      rw [Function.update_self]
      rfl
    | true =>
      rw [Function.update_self]
      rfl

/-- `LoginWithGoogle` after `UpsertUser` returns at once, up to a clock reading. -/
theorem issueSession_step {c : Pool Bool Effect Effect.Reply (Except Status SessionResponse)
    UsersTable} {i : Bool} {res : Except DbLayerError User}
    (h : c.thread i = issueSession jwt server res) (e : Env) :
    InsertClear c i e ∧ ∃ a, (c.step exec i e).Returned i a ∧
      ∀ err, res = .error err → a = .error ⟨.internal, "failed to upsert user"⟩ := by
  cases res with
  | error err =>
    replace h : c.thread i = .ret (.error ⟨.internal, "failed to upsert user"⟩) := h
    exact ⟨by simp [InsertClear, Pool.Admits, h], _, by rwa [Pool.step_of_ret h], fun _ _ => rfl⟩
  | ok user =>
    obtain ⟨resp, hresp, -⟩ := issueSession_ok jwt server user
    rw [hresp] at h
    exact ⟨by simp [InsertClear, Pool.Admits, h, Unoccupied], _, Pool.step_thread_self h e,
      fun err herr => by cases herr⟩

/-- A schedule of the two requests while they are in `UpsertUser` is part of one of the two
sign-ins, in which both return. -/
theorem twoSignIns_of_twoUpserts (ts : List (Bool × Uuid)) (res : Bool → Except DbLayerError User)
    (hmoves : Pool.Along exec (fun c i _ => c.Moves i) twoUpserts (turns ts))
    (hdone : ∀ i, (Pool.exec exec twoUpserts (turns ts)).Returned i (res i)) :
    ∃ sched : List (Bool × Env), (∀ x ∈ sched, Quiet x.2) ∧
      (Pool.Along exec InsertClear twoUpserts (turns ts) →
        Pool.Along exec InsertClear twoSignIns sched) ∧
      ∀ i, ∃ a, (Pool.exec exec twoSignIns sched).Returned i a ∧
        ∀ err, res i = .error err → a = .error ⟨.internal, "failed to upsert user"⟩ := by
  obtain ⟨verify, hverify, hclear, hverified⟩ := twoSignIns_verified
  have hthread (i : Bool) : (Pool.exec exec twoSignIns (verify ++ turns ts)).thread i =
      issueSession jwt server (res i) := by
    rw [Pool.exec_append, hverified, Pool.exec_bind hmoves, Pool.bind]
    dsimp only
    rw [hdone i]
    rfl
  obtain ⟨hclearF, aF, hretF, herrF⟩ := issueSession_step (hthread false) env
  obtain ⟨hclearT, aT, hretT, herrT⟩ := issueSession_step
    (c := (Pool.exec exec twoSignIns (verify ++ turns ts)).step exec false env)
    ((Pool.step_thread_ne (by decide) env).trans (hthread true)) env
  refine ⟨verify ++ turns ts ++ [(false, env), (true, env)], fun x hx => ?_, fun h => ?_,
    fun i => ?_⟩
  · simp only [List.mem_append, List.mem_cons, List.not_mem_nil, or_false] at hx
    obtain (hx | hx) | rfl | rfl := hx
    · exact hverify x hx
    · exact quiet_turns ts x hx
    · exact quiet_env 7
    · exact quiet_env 7
  · refine Pool.along_append.mpr ⟨Pool.along_append.mpr ⟨hclear, ?_⟩, hclearF, hclearT, trivial⟩
    rw [hverified]
    exact Pool.Along.bind hmoves h _
  · rw [Pool.exec_append]
    cases i with
    | false => exact ⟨aF, hretF.step true env, herrF⟩
    | true => exact ⟨aT, hretT, herrT⟩

/-- The second request looks the row up after the first has inserted it. -/
def inTurn : List (Bool × Uuid) :=
  [(false, 7), (false, 7), (true, 7), (true, 7), (false, 7), (true, 7), (false, 7), (true, 7),
   (false, 7), (true, 7), (false, 7), (true, 7), (false, 7), (true, 7)]

/-- Both requests look the row up, then both insert it. -/
def atOnce : List (Bool × Uuid) :=
  [(false, 7), (true, 7), (false, 7), (true, 8), (false, 7), (false, 7), (false, 7), (false, 7),
   (false, 7)]

/-- Ada's first row, with the first handle of all. -/
def newAda : User :=
  { id := 7, googleSub := "108176814619778123456", email := "ada@example.com", displayName := "Ada",
    pictureURL := none, username := some "AmberAdder10", isAdmin := false, createdAt := env.now,
    updatedAt := env.now }

end Sample

theorem firstSignIns_agree_two : ∃ sched : List (Bool × Env),
    Pool.Along exec InsertClear Sample.twoSignIns sched ∧
    ∃ r ∈ (Pool.exec exec Sample.twoSignIns sched).state.rows,
      r.googleSub = "108176814619778123456" ∧
      (∀ r' ∈ (Pool.exec exec Sample.twoSignIns sched).state.rows,
        r'.googleSub = "108176814619778123456" → r' = r) ∧
      ∀ i, ∃ resp, (Pool.exec exec Sample.twoSignIns sched).Returned i (.ok resp) ∧
        resp.user.id = r.id.text ∧ ∃ now isAdmin,
          issueJWT Sample.jwt now r.id.text isAdmin Sample.server.jwtSecret = .ok resp.jwt := by
  obtain ⟨sched, hquiet, hclear, hdone⟩ := Sample.twoSignIns_of_twoUpserts Sample.inTurn
    (fun _ => .ok Sample.newAda) (by decide +kernel) (by decide +kernel)
  have hunoccupied := hclear (by decide +kernel)
  refine ⟨sched, hunoccupied, firstSignIns_agree
    (fun _ => (Sample.adaIDToken_signed "").parsed) (fun _ => Sample.adaIDToken_sub)
    (fun _ _ => Sample.sample_audience (.inl rfl))
    (fun x hx => ⟨(hquiet x hx).1, fun _ => (hquiet x hx).2⟩) (.inl (by decide)) hunoccupied
    fun i => ?_⟩
  obtain ⟨a, ha, -⟩ := hdone i
  exact ⟨a, ha⟩

/-- Two requests that look up a new subject before either inserts it: one of them fails. -/
theorem firstSignIns_collide : ∃ sched : List (Bool × Env),
    (∀ x ∈ sched, x.2.fault = none ∧ GoogleSigned Sample.jwt (x.2.http Sample.server.jwksURL)
      x.2.now Sample.adaIDToken.text Sample.adaToken) ∧
    (∀ i, ∃ res, (Pool.exec exec (signIns Sample.jwt Sample.server
      (fun _ => Sample.adaIDToken.text) .empty) sched).Returned i res) ∧
    (Pool.exec exec (signIns Sample.jwt Sample.server
      (fun _ => Sample.adaIDToken.text) .empty) sched).Returned true
      (.error ⟨.internal, "failed to upsert user"⟩) := by
  obtain ⟨sched, hquiet, -, hdone⟩ := Sample.twoSignIns_of_twoUpserts Sample.atOnce
    (fun i => if i then .error (.wrap "upsert user" (.driver
      (uniqueViolation "idx_users_google_sub"))) else .ok Sample.newAda)
    (by decide +kernel) (by decide +kernel)
  refine ⟨sched, hquiet, fun i => ?_, ?_⟩
  · obtain ⟨a, ha, -⟩ := hdone i
    exact ⟨a, ha⟩
  · obtain ⟨a, ha, herr⟩ := hdone true
    exact herr _ rfl ▸ ha

end SampleGrpc
