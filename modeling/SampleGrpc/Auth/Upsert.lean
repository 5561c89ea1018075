import SampleGrpc.Auth.ProfileUpdate
import SampleGrpc.Interaction.Replace

/-!
# The refresh of a user who is there

An `UpsertUser` that finds its row, run alone. `Assign` skips empty values, so the row is refreshed
with what the sign-in brings, and keeps the rest.

* `firstOrCreate_play` — the lookup and the refresh.
* `upsertUser_replaces` — a success replaces the row by the record it returns, whatever happens to
  the attempts at a handle.
* `refreshedExactly_iff` — when the row holds exactly what the sign-in brings.
* `not_refreshedExactly` — a picture that the account no longer has.
-/

namespace SampleGrpc

open Prog

/-- Replacing the row of a user. -/
abbrev replaceUser (u r : User) : User := replaceKey User.id u r

/-- The row that `FirstOrCreate` leaves of the row it finds. -/
def refreshed (email displayName pictureURL : String) (now : Time) (row : User) : User :=
  { row with
    email := if email ≠ "" then email else row.email
    displayName := if displayName ≠ "" then displayName else row.displayName
    pictureURL := if pictureURL ≠ "" then some pictureURL else row.pictureURL
    updatedAt := now }

variable {sub email displayName pictureURL : String} {es : ℕ → Env} {t t' : UsersTable}
  {row : User}

/-! ## The lookup and the refresh -/

theorem first_subjectConds (hsub : sub ≠ "") (hr : row ∈ t.rows) (hrow : row.googleSub = sub) :
    t.first (subjectConds sub) = some row := by
  refine UsersTable.first_of_unique hr (satisfies_subjectConds.mpr (.inr hrow)) ?_
  intro r hr' hsat
  have hr'' : r.googleSub = sub := (satisfies_subjectConds.mp hsat).resolve_left hsub
  exact UsersTable.eq_of_googleSub hr' hr (hr''.trans hrow.symm)

theorem assignAll_refreshed (email displayName pictureURL : String) (now : Time) (row : User) :
    { assignAll (profile email displayName pictureURL).nonZero row with updatedAt := now } =
      refreshed email displayName pictureURL now row := by
  rw [profile, assignAll_profile]
  by_cases hpic : pictureURL = "" <;> simp [refreshed, hpic]

/-- The refresh replaces the row found. -/
theorem rows_of_refresh {now : Time} {newID : Uuid} {stamp : Time}
    (hfirst : t.first (subjectConds sub) = some row)
    (hquery : t.query now newID (.update (subjectConds sub ++ [.id row.id.text])
      (profile email displayName pictureURL).nonZero) = .ok (stamp, t')) :
    t'.rows = t.rows.map (replaceUser (refreshed email displayName pictureURL stamp row)) := by
  obtain ⟨hmem, hsat⟩ := UsersTable.first_eq_some hfirst
  obtain ⟨rfl, set', hset, hrows⟩ := UsersTable.query_update hquery
  rw [mapM_coerce_of_noUsername (nonZero_noUsername rfl)] at hset
  obtain rfl := Except.ok.inj hset
  have hsat' : satisfies (subjectConds sub ++ [.id row.id.text]) row = true := by
    rw [satisfies_append, hsat, satisfies_id]
    simp
  have hrow : updateRow (subjectConds sub ++ [.id row.id.text])
      (profile email displayName pictureURL).nonZero stamp row =
        refreshed email displayName pictureURL stamp row :=
    (if_pos hsat').trans (assignAll_refreshed email displayName pictureURL stamp row)
  rw [hrows, ← hrow]
  refine map_eq_replaceKey t.id_nodup hmem (by rw [hrow]; rfl) fun r hr => if_neg fun h => hr ?_
  rw [satisfies_append, Bool.and_eq_true, satisfies_id, decide_eq_true_eq] at h
  exact h.2

/-- `FirstOrCreate` for a subject, in `UpsertUser`. -/
abbrev firstOrCreateUser (sub email displayName pictureURL : String) : Srv (Except DbError User) :=
  firstOrCreate { googleSub := sub } (profile email displayName pictureURL)
    { profile email displayName pictureURL with googleSub := sub }

theorem createOrUpdate_play (es : ℕ → Env) (hfirst : t.first (subjectConds sub) = some row)
    (email displayName pictureURL : String) :
    let p := createOrUpdate { googleSub := sub } (profile email displayName pictureURL)
      { profile email displayName pictureURL with googleSub := sub } (.ok (some row))
    (∃ err, (play exec p es t).1 = .error err ∧ (es 0).fault ≠ none) ∨
    ∃ now, (play exec p es t).1 = .ok (refreshed email displayName pictureURL now row) ∧
      (play exec p es t).2.1.rows =
        t.rows.map (replaceUser (refreshed email displayName pictureURL now row)) := by
  intro p
  have hplay (res : Except DbError Time) (t₁ : UsersTable)
      (hexec : execSql (es 0) (.update (subjectConds sub ++ [.id row.id.text])
        (profile email displayName pictureURL).nonZero) t = (res, t₁)) : play exec p es t =
          (writeBack (profile email displayName pictureURL) row res, t₁, fun i => es (i + 1)) := by
    show play exec (createOrUpdate _ _ _ _) es t = _
    rw [createOrUpdate_some]
    exact play_sql hexec
  obtain ⟨err, hexec⟩ | ⟨stamp, t₁, -, hquery, hexec⟩ := execSql_cases (es 0)
    (.update (subjectConds sub ++ [.id row.id.text]) (profile email displayName pictureURL).nonZero)
    t
  · refine .inl ⟨err, congrArg Prod.fst (hplay (.error err) t hexec), fun hfault => ?_⟩
    obtain ⟨t₁, hquery⟩ := query_refresh_ok t (es 0).now (es 0).newID row.id sub email displayName
      (profile email displayName pictureURL).pictureURL
    have hok := execSql_of_query hfault hquery
    cases (Prod.mk.inj (hexec.symm.trans hok)).1
  · refine .inr ⟨stamp, ?_, ?_⟩
    · rw [hplay (.ok stamp) t₁ hexec]
      exact congrArg Except.ok (assignAll_refreshed email displayName pictureURL stamp row)
    · rw [hplay (.ok stamp) t₁ hexec]
      exact rows_of_refresh hfirst hquery

/-- **`FirstOrCreate` on a row that is there**: a fault strikes, or the row is replaced by the
record returned. -/
theorem firstOrCreate_play (es : ℕ → Env) (hfirst : t.first (subjectConds sub) = some row)
    (email displayName pictureURL : String) :
    (∃ err, (play exec (firstOrCreateUser sub email displayName pictureURL) es t).1 = .error err ∧
      ((es 0).fault ≠ none ∨ (es 1).fault ≠ none)) ∨
    ∃ now, (play exec (firstOrCreateUser sub email displayName pictureURL) es t).1 =
        .ok (refreshed email displayName pictureURL now row) ∧
      (play exec (firstOrCreateUser sub email displayName pictureURL) es t).2.1.rows =
        t.rows.map (replaceUser (refreshed email displayName pictureURL now row)) := by
  have hplay (res : Except DbError (Option User))
      (hexec : execSql (es 0) (.selectFirst (subjectConds sub)) t = (res, t)) :
      play exec (firstOrCreateUser sub email displayName pictureURL) es t =
        play exec (createOrUpdate { googleSub := sub } (profile email displayName pictureURL)
          { profile email displayName pictureURL with googleSub := sub } res)
          (fun i => es (i + 1)) t := by
    rw [firstOrCreateUser, firstOrCreate_eq]
    exact play_sql hexec
  by_cases hfault : (es 0).fault = none
  · have hselect := exec_selectFirst hfault
      (invalidText_columns (UserFields.nonZero { googleSub := sub })) t
    rw [hplay (.ok (some row)) (hfirst ▸ hselect)]
    obtain ⟨err, herr, hfault'⟩ | hok :=
      createOrUpdate_play (fun i => es (i + 1)) hfirst email displayName pictureURL
    · exact .inl ⟨err, herr, .inr hfault'⟩
    · exact .inr hok
  · obtain ⟨err, hfault'⟩ := Option.ne_none_iff_exists'.mp hfault
    have hexec : execSql (es 0) (.selectFirst (subjectConds sub)) t = (.error err, t) := by
      simp only [execSql, hfault']
    rw [hplay (.error err) hexec]
    exact .inl ⟨err, rfl, .inl hfault⟩

/-! ## The handle -/

/-- The row with another name and another time. -/
def OnlyRenamed (r r' : User) : Prop :=
  ∃ name stamp, r' = { r with username := name, updatedAt := stamp }

theorem OnlyRenamed.refl (r : User) : OnlyRenamed r r := ⟨r.username, r.updatedAt, rfl⟩

theorem OnlyRenamed.trans {r r' r'' : User} (h : OnlyRenamed r r') (h' : OnlyRenamed r' r'') :
    OnlyRenamed r r'' := by
  obtain ⟨name, stamp, rfl⟩ := h
  obtain ⟨name', stamp', rfl⟩ := h'
  exact ⟨name', stamp', rfl⟩

theorem OnlyRenamed.id {r r' : User} (h : OnlyRenamed r r') : r'.id = r.id := by
  obtain ⟨name, stamp, rfl⟩ := h
  rfl

/-- A program on the row `r` has replaced it by a row that it returns if it succeeds. -/
def ReplacesRow (r : User) (t : UsersTable)
    (x : Except DbLayerError User × UsersTable × (ℕ → Env)) : Prop :=
  ∃ r', OnlyRenamed r r' ∧ x.2.1.rows = t.rows.map (replaceUser r') ∧ ∀ u, x.1 = .ok u → u = r'

theorem getReply_replaces {r : User} {e : Env} (hr : r ∈ t.rows) (rest : ℕ → Env) :
    ReplacesRow r t
      (getReply r.id.text (execSql e (.selectFirst [.id r.id.text]) t).1, t, rest) := by
  refine ⟨r, .refl r, (map_replaceKey_of_mem t.id_nodup hr).symm, fun u hu => ?_⟩
  obtain ⟨hmem, hid⟩ := of_getReply hu
  exact UsersTable.eq_of_id hmem hr (Option.some.inj (hid.symm.trans (Uuid.parse_text r.id)))

theorem rename_rows {r : User} {name : Option String} (hr : r ∈ t.rows) (now : Time)
    (hfree : ¬ NameTaken r.id name t) : (t.rename r.id name now hfree).rows =
      t.rows.map (replaceUser { r with username := name, updatedAt := now }) := by
  have hself : r.rename r.id name now = { r with username := name, updatedAt := now } :=
    User.rename_self rfl
  rw [← hself]
  exact map_eq_replaceKey t.id_nodup hr (User.rename_id _ _ _ r) fun _ => User.rename_of_ne

/-- A second program on the row that a first has left. -/
theorem ReplacesRow.trans {r r' : User} {x : Except DbLayerError User × UsersTable × (ℕ → Env)}
    (h : OnlyRenamed r r') (hrows : t'.rows = t.rows.map (replaceUser r'))
    (hx : ReplacesRow r' t' x) : ReplacesRow r t x := by
  obtain ⟨r'', h', hrows', hres⟩ := hx
  refine ⟨r'', h.trans h', ?_, hres⟩
  rw [hrows', hrows, map_replaceKey_replaceKey h'.id]

theorem updateUsername_replaces {r : User} (hr : r ∈ t.rows) (name : String) (es : ℕ → Env) :
    ReplacesRow r t (play exec (updateUsername r.id.text name) es t) := by
  have hparse := Uuid.parse_text r.id
  obtain ⟨err, -, hres, htable⟩ | ⟨stamp, t₁, hexec, hres, htable⟩ :=
    updateUsername_play r.id.text name es t
  · refine ⟨r, .refl r, ?_, fun u hu => ?_⟩
    · rw [htable, map_replaceKey_of_mem t.id_nodup hr]
    · rw [hres] at hu
      cases hu
  · have hrenaming := execSql_renameStmt (es 0) r.id.text name t
    rw [hexec] at hrenaming
    cases hrenaming with
    | absent hfault hid hstored hrow =>
      exact absurd ⟨r, hr, Option.some.inj (hparse.symm.trans hid)⟩ hrow
    | @renamed i stored hfault hid hstored hrow hfree =>
      obtain rfl : r.id = i := Option.some.inj (hparse.symm.trans hid)
      refine .trans ⟨stored, (es 0).now, rfl⟩ (rename_rows hr (es 0).now hfree) ?_
      obtain ⟨r', honly, hrows', hu⟩ :=
        getReply_replaces (e := es 1) (UsersTable.mem_rename hr (es 0).now hfree) es
      exact ⟨r', honly, htable ▸ hrows', fun u h => hu u (hres ▸ h)⟩

theorem assignHandle_replaces {gen : Srv String} (hgen : gen.Uses Effect.ReadsOnly) (n : ℕ)
    {r : User} (hr : r ∈ t.rows) (es : ℕ → Env) :
    ReplacesRow r t (play exec (assignHandle gen r.id.text n) es t) := by
  induction n generalizing t r es with
  | zero =>
    rw [assignHandle, getUserByID_eq]
    have hread := exec_readsOnly (q := .sql (.selectFirst [.id r.id.text])) trivial (es 0) t
    obtain ⟨r', honly, hrows, hu⟩ := getReply_replaces (e := es 0) hr fun i => es (i + 1)
    exact ⟨r', honly, (congrArg UsersTable.rows hread).trans hrows, hu⟩
  | succ n ih =>
    rw [assignHandle_succ, play_bind, play_readsOnly hgen, play_bind]
    generalize (play exec gen es t).1 = candidate
    generalize (play exec gen es t).2.2 = es₁
    obtain ⟨r', honly, hrows, hu⟩ := updateUsername_replaces hr candidate es₁
    generalize play exec (updateUsername r.id.text candidate) es₁ t = x at hrows hu ⊢
    refine .trans honly hrows ?_
    have hr' : r' ∈ x.2.1.rows := hrows ▸ mem_map_replaceKey hr honly.id.symm
    obtain ⟨res, t₁, es₂⟩ := x
    cases res with
    | ok u =>
      obtain rfl := hu u rfl
      exact ⟨u, .refl u, (map_replaceKey_of_mem t₁.id_nodup hr').symm,
        fun u' hu' => (Except.ok.inj hu').symm⟩
    | error err =>
      rw [← honly.id]
      exact ih hr' es₂

/-- **A success replaces the row by the record returned**, refreshed and perhaps renamed. -/
theorem upsertUser_replaces {gen : Srv String} (hgen : gen.Uses Effect.ReadsOnly)
    (hfirst : t.first (subjectConds sub) = some row) {u : User}
    (hok : (play exec (upsertUser sub email displayName pictureURL gen) es t).1 = .ok u) :
    ∃ now, OnlyRenamed (refreshed email displayName pictureURL now row) u ∧
      (play exec (upsertUser sub email displayName pictureURL gen) es t).2.1.rows =
        t.rows.map (replaceUser u) := by
  obtain ⟨hrow, -⟩ := UsersTable.first_eq_some hfirst
  rw [upsertUser_eq, play_bind] at hok ⊢
  obtain ⟨err, herr, -⟩ | ⟨now, hres, hrows⟩ :=
    firstOrCreate_play es hfirst email displayName pictureURL
  · rw [herr] at hok
    cases hok
  · rw [hres] at hok ⊢
    generalize (play exec (firstOrCreateUser sub email displayName pictureURL) es t).2.2 = es₁
      at hok ⊢
    generalize (play exec (firstOrCreateUser sub email displayName pictureURL) es t).2.1 = t₁
      at hok hrows ⊢
    have hr : refreshed email displayName pictureURL now row ∈ t₁.rows :=
      hrows ▸ mem_map_replaceKey hrow rfl
    have hreplaces : ReplacesRow (refreshed email displayName pictureURL now row) t₁
        (play exec (handleReply gen (.ok (refreshed email displayName pictureURL now row))) es₁
          t₁) := by
      rw [handleReply]
      split
      · exact assignHandle_replaces hgen 10 hr es₁
      · exact ⟨_, .refl _, (map_replaceKey_of_mem t₁.id_nodup hr).symm,
          fun u' hu' => (Except.ok.inj hu').symm⟩
    obtain ⟨r', honly, hrows', hu⟩ := hreplaces
    obtain rfl := hu u hok
    refine ⟨now, honly, ?_⟩
    rw [hrows', hrows]
    exact map_replaceKey_replaceKey honly.id t.rows

/-! ## What the row holds -/

/-- A sign-in that refreshes the row exactly: the row has the profile it brings, NULL for no
picture, and nothing else has changed but the name and the time. The record returned is the row. -/
structure RefreshedExactly (email displayName pictureURL : String) (row u : User)
    (t t' : UsersTable) : Prop where
  email : u.email = email
  displayName : u.displayName = displayName
  pictureURL : u.pictureURL = if pictureURL ≠ "" then some pictureURL else none
  id : u.id = row.id
  googleSub : u.googleSub = row.googleSub
  isAdmin : u.isAdmin = row.isAdmin
  createdAt : u.createdAt = row.createdAt
  rows : t'.rows = t.rows.map (replaceUser u)

/-- What the sign-in brings can be assigned, or the row has it already. -/
structure Assignable (email displayName pictureURL : String) (row : User) : Prop where
  email : email ≠ "" ∨ row.email = ""
  displayName : displayName ≠ "" ∨ row.displayName = ""
  pictureURL : pictureURL ≠ "" ∨ row.pictureURL = none

/-- **When an upsert refreshes the row exactly**: when no value is missing that the row has. -/
theorem refreshedExactly_iff {gen : Srv String} (hgen : gen.Uses Effect.ReadsOnly) (hsub : sub ≠ "")
    (hr : row ∈ t.rows) (hrow : row.googleSub = sub) {u : User}
    (hok : (play exec (upsertUser sub email displayName pictureURL gen) es t).1 = .ok u) :
    RefreshedExactly email displayName pictureURL row u t
      (play exec (upsertUser sub email displayName pictureURL gen) es t).2.1 ↔
    Assignable email displayName pictureURL row := by
  obtain ⟨now, ⟨name, stamp, rfl⟩, hrows⟩ :=
    upsertUser_replaces hgen (first_subjectConds hsub hr hrow) hok
  refine ⟨fun h => ⟨?_, ?_, ?_⟩, fun h => ⟨?_, ?_, ?_, rfl, rfl, rfl, rfl, hrows⟩⟩
  · have hemail : (if email ≠ "" then email else row.email) = email := h.email
    by_cases hne : email = ""
    · rw [if_neg (not_not_intro hne), hne] at hemail
      exact .inr hemail
    · exact .inl hne
  · have hname : (if displayName ≠ "" then displayName else row.displayName) = displayName :=
      h.displayName
    by_cases hne : displayName = ""
    · rw [if_neg (not_not_intro hne), hne] at hname
      exact .inr hname
    · exact .inl hne
  · have hpic : (if pictureURL ≠ "" then some pictureURL else row.pictureURL) =
        if pictureURL ≠ "" then some pictureURL else none := h.pictureURL
    by_cases hne : pictureURL = ""
    · rw [if_neg (not_not_intro hne), if_neg (not_not_intro hne)] at hpic
      exact .inr hpic
    · exact .inl hne
  · show (if email ≠ "" then email else row.email) = email
    split
    · rfl
    · next hne => rw [h.email.resolve_left hne, not_not.mp hne]
  · show (if displayName ≠ "" then displayName else row.displayName) = displayName
    split
    · rfl
    · next hne => rw [h.displayName.resolve_left hne, not_not.mp hne]
  · show (if pictureURL ≠ "" then some pictureURL else row.pictureURL) = _
    by_cases hne : pictureURL = ""
    · rw [if_neg (not_not_intro hne), if_neg (not_not_intro hne)]
      exact h.pictureURL.resolve_left (not_not_intro hne)
    · rw [if_pos hne, if_pos hne]

/-! ## A picture that is gone -/

namespace Sample

def picture : String := "https://lh3.googleusercontent.com/a/ada"

/-- Ada, with a picture. -/
def pictured : UsersTable where
  rows := [{ ada with pictureURL := some picture }]
  id_nodup := by simp
  googleSub_nodup := by simp
  username_nodup := by simp [ada]

/-- Ada signs in with a picture, or with none. -/
def adaUpsert (pictureURL : String) : Srv (Except DbLayerError User) :=
  upsertUser ada.googleSub "ada@example.com" "Ada" pictureURL generateUsername

end Sample

theorem refreshedExactly_pictured :
    RefreshedExactly "ada@example.com" "Ada" Sample.picture
      { Sample.ada with pictureURL := some Sample.picture }
      { Sample.ada with pictureURL := some Sample.picture, updatedAt := Sample.env.now }
      Sample.pictured
      (play exec (Sample.adaUpsert Sample.picture) (fun _ => Sample.env) Sample.pictured).2.1 :=
  (refreshedExactly_iff generateUsername_uses (by decide) List.mem_cons_self rfl
    (by decide +kernel)).mpr ⟨.inl (by decide), .inl (by decide), .inl (by decide)⟩

/-- Ada removes her picture from her account, signs in, and keeps it here. -/
theorem not_refreshedExactly : ¬ ∀ (sub email displayName pictureURL : String) (es : ℕ → Env)
    (t : UsersTable) (row u : User), sub ≠ "" → row ∈ t.rows → row.googleSub = sub →
    (play exec (upsertUser sub email displayName pictureURL generateUsername) es t).1 = .ok u →
      RefreshedExactly email displayName pictureURL row u t
        (play exec (upsertUser sub email displayName pictureURL generateUsername) es t).2.1 := by
  intro h
  have hexact := h Sample.ada.googleSub "ada@example.com" "Ada" "" (fun _ => Sample.env)
    Sample.pictured { Sample.ada with pictureURL := some Sample.picture }
    { Sample.ada with pictureURL := some Sample.picture, updatedAt := Sample.env.now }
    (by decide) List.mem_cons_self rfl (by decide +kernel)
  have hpicture := hexact.pictureURL
  simp at hpicture

end SampleGrpc
