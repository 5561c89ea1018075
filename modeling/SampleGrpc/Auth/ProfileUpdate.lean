import SampleGrpc.Auth.Footprint
import SampleGrpc.Auth.SignIn
import SampleGrpc.Interaction.Alike

/-!
# One `UpdateProfile`

An `UpdateProfile` run alone, whichever of its two statements fails. The UPDATE commits before the
row is read again, so an error does not always mean that nothing has changed.

* `updateUsername_play` — the two statements of `UpdateUsername`.
* `updateProfile_atomic` — what a success and an error each say about the table.
* `not_error_unchanged` — an error, although the name has been set.
-/

namespace SampleGrpc

open Prog

/-- The name that a request asks for: the empty string is NULL. -/
def requestedName (username : String) : Option String :=
  if username ≠ "" then some username else none

/-- What the UPDATE of `UpdateUsername` does. -/
theorem execSql_renameStmt (e : Env) (userID username : String) (t : UsersTable) :
    Renaming e userID (requestedName username) t (execSql e (renameStmt userID username) t) :=
  execSql_renaming e userID (requestedName username) t

/-- The change of an `UpdateProfile`: the caller's row has the requested name, and no other row and
no other column but `updated_at` has changed. -/
structure ProfileChanged (userID username : String) (t t' : UsersTable) (u : User) : Prop where
  caller : Uuid.parse userID = some u.id
  stored : u ∈ t'.rows
  renamed : u.username = requestedName username
  rows : ∃ now, t'.rows = t.rows.map (User.rename u.id (requestedName username) now)

/-! ## Programs run alone -/

/-- A statement, and the program after it. -/
theorem play_sql {α : Type} {q : Stmt} {k : Except DbError q.Result → Srv α} {es : ℕ → Env}
    {t t₁ : UsersTable} {res : Except DbError q.Result} (hexec : execSql (es 0) q t = (res, t₁)) :
    play exec (.act (.sql q) k) es t = play exec (k res) (fun i => es (i + 1)) t₁ := by
  show play exec (k (execSql (es 0) q t).1) _ (execSql (es 0) q t).2 = _
  rw [hexec]

/-- A program that only reads leaves the table as it is. -/
theorem play_readsOnly {α : Type} {p : Srv α} (hp : p.Uses Effect.ReadsOnly) (es : ℕ → Env)
    (t : UsersTable) : (play exec p es t).2.1 = t := by
  have hruns : Runs exec (fun _ _ _ => True) p t (play exec p es t).1 (play exec p es t).2.1 :=
    runs_play (fun _ _ _ => trivial) p t
  exact runs_readsOnly hruns hp

/-! ## `UpdateUsername` -/

/-- The error of an `UpdateUsername` whose UPDATE has failed. -/
def updateError (err : DbError) : DbLayerError :=
  if isUniqueViolation err then .errUsernameTaken else .wrap "update username" (.driver err)

variable {userID username : String} {es : ℕ → Env} {t : UsersTable}

theorem updateReply_error (userID : String) (err : DbError) :
    updateReply userID (.error err) = .ret (.error (updateError err)) := by
  rw [updateReply, updateError]
  split <;> rfl

/-- **The two statements of `UpdateUsername`.** The UPDATE fails, or the row is read again. -/
theorem updateUsername_play (userID username : String) (es : ℕ → Env) (t : UsersTable) :
    (∃ err, execSql (es 0) (renameStmt userID username) t = (.error err, t) ∧
      (play exec (updateUsername userID username) es t).1 = .error (updateError err) ∧
      (play exec (updateUsername userID username) es t).2.1 = t) ∨
    ∃ stamp t₁, execSql (es 0) (renameStmt userID username) t = (.ok stamp, t₁) ∧
      (play exec (updateUsername userID username) es t).1 =
        getReply userID (execSql (es 1) (.selectFirst [.id userID]) t₁).1 ∧
      (play exec (updateUsername userID username) es t).2.1 = t₁ := by
  have hplay (res : Except DbError Time) (t₁ : UsersTable)
      (hexec : execSql (es 0) (renameStmt userID username) t = (res, t₁)) :
      play exec (updateUsername userID username) es t =
        play exec (updateReply userID res) (fun i => es (i + 1)) t₁ := by
    rw [updateUsername_eq]
    exact play_sql hexec
  obtain ⟨err, hexec⟩ | ⟨stamp, t₁, -, -, hexec⟩ :=
    execSql_cases (es 0) (renameStmt userID username) t
  · refine .inl ⟨err, hexec, ?_⟩
    rw [hplay (.error err) t hexec, updateReply_error]
    exact ⟨rfl, rfl⟩
  · refine .inr ⟨stamp, t₁, hexec, ?_⟩
    have hread := exec_readsOnly (q := .sql (.selectFirst [.id userID])) trivial (es 1) t₁
    rw [hplay (.ok stamp) t₁ hexec]
    show (play exec (getUserByID userID) _ t₁).1 = _ ∧ (play exec (getUserByID userID) _ t₁).2.1 = _
    rw [getUserByID_eq]
    exact ⟨rfl, hread⟩

theorem UsersTable.first_idText {r : User} (hr : r ∈ t.rows) (hid : Uuid.parse userID = some r.id) :
    t.first [.id userID] = some r := by
  refine first_of_unique hr (satisfies_idText.mpr hid) fun r' hr' hsat => ?_
  have hid' := satisfies_idText.mp hsat
  exact eq_of_id hr' hr (Option.some.inj (hid'.symm.trans hid))

/-- The row read again, if it is there and no fault strikes. -/
theorem select_idText {e : Env} {r : User} (hfault : e.fault = none) (hr : r ∈ t.rows)
    (hid : Uuid.parse userID = some r.id) :
    (execSql e (.selectFirst [.id userID]) t).1 = .ok (some r) := by
  have hvalid : [Condition.id userID].findSome? Condition.invalidText = none := by
    simp [Condition.invalidText, hid]
  have hselect := exec_selectFirst hfault hvalid t
  rw [UsersTable.first_idText hr hid] at hselect
  exact congrArg Prod.fst hselect

/-- A row read again is there. -/
theorem of_getReply {e : Env} {u : User}
    (h : getReply userID (execSql e (.selectFirst [.id userID]) t).1 = .ok u) :
    u ∈ t.rows ∧ Uuid.parse userID = some u.id := by
  obtain ⟨err, hexec⟩ | ⟨x, t', -, hquery, hexec⟩ :=
    execSql_cases e (.selectFirst [.id userID]) t
  · rw [hexec] at h
    cases h
  · rw [hexec] at h
    obtain ⟨rfl, -⟩ := UsersTable.query_selectFirst hquery
    cases hfirst : t.first [.id userID] with
    | none =>
      rw [hfirst] at h
      cases h
    | some r =>
      rw [hfirst] at h
      obtain rfl := Except.ok.inj h
      obtain ⟨hmem, hsat⟩ := UsersTable.first_eq_some hfirst
      exact ⟨hmem, satisfies_idText.mp hsat⟩

theorem requestedName_valid (hvalid : username ≠ "" → usernameRE username = true) :
    ValidUsername (requestedName username) := by
  intro s hs
  unfold requestedName at hs
  split at hs
  · next hne => exact Option.some.inj hs ▸ hvalid hne
  · cases hs

/-- The row that the UPDATE leaves of the caller's row. -/
theorem ProfileChanged.of_rename {r : User} {now : Time} (hr : r ∈ t.rows)
    (hid : Uuid.parse userID = some r.id)
    (hfree : ¬ NameTaken r.id (requestedName username) t) :
    ProfileChanged userID username t (t.rename r.id (requestedName username) now hfree)
      { r with username := requestedName username, updatedAt := now } where
  caller := hid
  stored := UsersTable.mem_rename hr now hfree
  renamed := rfl
  rows := ⟨now, rfl⟩

/-- A valid name that is requested is set, or the table is as it was. -/
theorem updateUsername_changed (hvalid : username ≠ "" → usernameRE username = true) :
    (∀ u, (play exec (updateUsername userID username) es t).1 = .ok u →
      ProfileChanged userID username t (play exec (updateUsername userID username) es t).2.1 u) ∧
    ((play exec (updateUsername userID username) es t).2.1 = t ∨ ∃ u,
      ProfileChanged userID username t (play exec (updateUsername userID username) es t).2.1 u ∧
      ((es 1).fault = none → (play exec (updateUsername userID username) es t).1 = .ok u)) := by
  obtain ⟨err, -, hres, htable⟩ | ⟨stamp, t₁, hexec, hres, htable⟩ :=
    updateUsername_play userID username es t
  · rw [hres, htable]
    exact ⟨fun u hu => (by cases hu), .inl rfl⟩
  · rw [hres, htable]
    have hrenaming := execSql_renameStmt (es 0) userID username t
    rw [hexec] at hrenaming
    cases hrenaming with
    | absent hfault hid hstored hrow =>
      refine ⟨fun u hu => ?_, .inl rfl⟩
      obtain ⟨hmem, hid'⟩ := of_getReply hu
      exact absurd ⟨u, hmem, Option.some.inj (hid'.symm.trans hid)⟩ hrow
    | renamed hfault hid hstored hrow hfree =>
      obtain rfl := Except.ok.inj ((requestedName_valid hvalid).stored.symm.trans hstored)
      obtain ⟨r, hr, rfl⟩ := hrow
      have hchanged : ProfileChanged userID username t _
          { r with username := requestedName username, updatedAt := (es 0).now } :=
        .of_rename hr hid hfree
      refine ⟨fun u hu => ?_, .inr ⟨_, hchanged, fun hfault' => ?_⟩⟩
      · obtain ⟨hmem, hid'⟩ := of_getReply hu
        obtain rfl := UsersTable.eq_of_id hmem hchanged.stored
          (Option.some.inj (hid'.symm.trans hid))
        exact hchanged
      · rw [select_idText hfault' hchanged.stored hid]
        rfl

/-! ## `UpdateProfile` -/

variable {ctx : Context} {claims : Claims}

theorem profileReply_play (res : Except DbLayerError User) (es : ℕ → Env) (t : UsersTable) :
    (play exec (profileReply res) es t).2.1 = t ∧
      (∀ pb, (play exec (profileReply res) es t).1 = .ok pb →
        ∃ u, res = .ok u ∧ pb = userToProto u) ∧
      ∀ st, (play exec (profileReply res) es t).1 = .error st → ∃ err, res = .error err := by
  cases res with
  | ok u =>
    refine ⟨rfl, fun pb hpb => ⟨u, rfl, ?_⟩, fun st hst => by cases hst⟩
    exact (Except.ok.inj hpb).symm
  | error err =>
    rw [profileReply]
    split
    all_goals exact ⟨rfl, fun pb hpb => (by cases hpb), fun st _ => ⟨err, rfl⟩⟩

theorem updateProfile_invalid (hclaims : claimsFromContext ctx = some claims)
    (hinvalid : ¬ (username ≠ "" → usernameRE username = true)) :
    ∃ st, updateProfile ctx username = .ret (.error st) := by
  rw [updateProfile, hclaims]
  exact ⟨_, if_pos (Classical.not_imp.mp hinvalid)⟩

/-- **An `UpdateProfile` that succeeds sets the caller's name and changes nothing else; one that
fails changes nothing**, or else the name has been set and a fault has struck the reading of the
row after it. -/
theorem updateProfile_atomic (hclaims : claimsFromContext ctx = some claims) (username : String)
    (es : ℕ → Env) (t : UsersTable) :
    (∀ pb, (play exec (updateProfile ctx username) es t).1 = .ok pb →
      ∃ u, pb = userToProto u ∧ ProfileChanged claims.userID username t
        (play exec (updateProfile ctx username) es t).2.1 u) ∧
    ∀ st, (play exec (updateProfile ctx username) es t).1 = .error st →
      (play exec (updateProfile ctx username) es t).2.1 = t ∨
        ((es 1).fault ≠ none ∧ ∃ u, ProfileChanged claims.userID username t
          (play exec (updateProfile ctx username) es t).2.1 u) := by
  by_cases hvalid : username ≠ "" → usernameRE username = true
  · rw [updateProfile_eq hclaims hvalid, play_bind]
    obtain ⟨hok, htable⟩ := @updateUsername_changed claims.userID username es t hvalid
    generalize play exec (updateUsername claims.userID username) es t = x at hok htable ⊢
    obtain ⟨hreply, hpb, herr⟩ := profileReply_play x.1 x.2.2 x.2.1
    rw [hreply]
    refine ⟨fun pb h => ?_, fun st h => ?_⟩
    · obtain ⟨u, hu, rfl⟩ := hpb pb h
      exact ⟨u, rfl, hok u hu⟩
    · obtain ⟨err, hres⟩ := herr st h
      obtain hsame | ⟨u, hchanged, hread⟩ := htable
      · exact .inl hsame
      · refine .inr ⟨fun hfault => ?_, u, hchanged⟩
        rw [hread hfault] at hres
        cases hres
  · obtain ⟨st, hinvalid⟩ := updateProfile_invalid hclaims hvalid
    rw [hinvalid]
    exact ⟨fun pb hpb => (by cases hpb), fun _ _ => .inl rfl⟩

/-! ## Ada chooses a name -/

namespace Sample

/-- The reading of the row fails. -/
def lostReply : DbError := { sqlState := none, message := "unexpected EOF" }

def rereadFails (i : ℕ) : Env := { env with fault := if i = 1 then some lostReply else none }

end Sample

theorem updateProfile_atomic_ada : ∃ u, u.username = some "countess" ∧
    ProfileChanged Sample.ada.id.text "countess" Sample.users
      (play exec (updateProfile Sample.adaContext "countess") (fun _ => Sample.env)
        Sample.users).2.1 u := by
  have hclaims : claimsFromContext Sample.adaContext = some ⟨Sample.ada.id.text, true⟩ := rfl
  obtain ⟨u, -, hchanged⟩ :=
    (updateProfile_atomic hclaims "countess" (fun _ => Sample.env) Sample.users).1
      (userToProto { Sample.ada with username := some "countess" }) (by decide +kernel)
  exact ⟨u, hchanged.renamed, hchanged⟩

/-- Ada is told that her profile has not been updated, and has the name. -/
theorem not_error_unchanged : ¬ ∀ (ctx : Context) (claims : Claims) (username : String)
    (es : ℕ → Env) (t : UsersTable) (st : Status), claimsFromContext ctx = some claims →
    (play exec (updateProfile ctx username) es t).1 = .error st →
      (play exec (updateProfile ctx username) es t).2.1 = t := by
  intro h
  have hsame := h Sample.adaContext _ "countess" Sample.rereadFails Sample.users
    ⟨.internal, "failed to update profile"⟩ rfl (by decide +kernel)
  have hnames := congrArg (fun t : UsersTable => t.rows.map (·.username)) hsame
  revert hnames
  decide +kernel

end SampleGrpc
