import SampleGrpc.Interaction.Alike
import SampleGrpc.Db.Timestamps
import SampleGrpc.Auth.Identities

/-!
# What users learn of each other

Two servers side by side, with tables that differ in what is stored of the other users: their
e-mail addresses, display names, pictures, admin flags and timestamps. The same requests, of any
users, interleaved in the same way and struck by the same faults, give one user the same answers.

What the tables must agree on is all that a user can learn of another through the API: that the
account is there, and that its name is taken.

* `query_seen` — the statements, on two such tables.
* `serve_seen` — the requests.
* `others_unseen` — the interleavings.
-/

namespace SampleGrpc

open Prog

variable {i : Uuid} {k : String}

/-! ## What a user sees of a row -/

/-- A user's own row, or what the unique indexes are on. -/
def User.seenBy (i : Uuid) (r : User) : User :=
  if r.id = i then r
  else { r with
    email := "", displayName := "", pictureURL := none, isAdmin := false, createdAt := 0,
    updatedAt := 0 }

@[simp] theorem User.seenBy_id (r : User) : (r.seenBy i).id = r.id := by
  unfold User.seenBy
  split <;> rfl

@[simp] theorem User.seenBy_googleSub (r : User) : (r.seenBy i).googleSub = r.googleSub := by
  unfold User.seenBy
  split <;> rfl

@[simp] theorem User.seenBy_username (r : User) : (r.seenBy i).username = r.username := by
  unfold User.seenBy
  split <;> rfl

theorem User.seenBy_own {r : User} (h : r.id = i) : r.seenBy i = r := if_pos h

theorem User.id_of_seenBy {r r' : User} (h : r.seenBy i = r'.seenBy i) : r.id = r'.id := by
  rw [← r.seenBy_id, h, User.seenBy_id]

theorem User.username_of_seenBy {r r' : User} (h : r.seenBy i = r'.seenBy i) :
    r.username = r'.username := by
  rw [← r.seenBy_username, h, User.seenBy_username]

/-- Of the user's own row nothing is hidden. -/
theorem User.eq_of_seenBy {r r' : User} (h : r.seenBy i = r'.seenBy i) (hid : r.id = i) :
    r = r' := by
  rw [← r.seenBy_own hid, h, r'.seenBy_own ((User.id_of_seenBy h).symm.trans hid)]

/-- The tables look the same to the user `i`, who has the subject `k`. -/
structure SeenAlike (i : Uuid) (k : String) (t t' : UsersTable) : Prop where
  rows : t.rows.map (User.seenBy i) = t'.rows.map (User.seenBy i)
  own : ∃ r ∈ t.rows, r.id = i ∧ r.googleSub = k

theorem SeenAlike.symm {t t' : UsersTable} (h : SeenAlike i k t t') : SeenAlike i k t' t := by
  obtain ⟨r, hr, hid, hsub⟩ := h.own
  have hmem : r.seenBy i ∈ t'.rows.map (User.seenBy i) := h.rows ▸ List.mem_map_of_mem hr
  obtain ⟨r', hr', hseen⟩ := List.mem_map.mp hmem
  have heq : r' = r := User.eq_of_seenBy hseen ((User.id_of_seenBy hseen).trans hid)
  exact ⟨h.rows.symm, r', hr', heq ▸ hid, heq ▸ hsub⟩

/-- The user's row is the only one with the user's subject. -/
theorem SeenAlike.id_iff {t t' : UsersTable} (h : SeenAlike i k t t') {r : User}
    (hr : r ∈ t.rows) : r.id = i ↔ r.googleSub = k := by
  obtain ⟨u, hu, hid, hsub⟩ := h.own
  refine ⟨fun hr' => ?_, fun hr' => ?_⟩
  · rw [UsersTable.eq_of_id hr hu (hr'.trans hid.symm), hsub]
  · rw [UsersTable.eq_of_googleSub hr hu (hr'.trans hsub.symm), hid]

/-! ## Statements -/

/-- The condition is on the identifier or on the subject. -/
def Condition.Legible : Condition → Prop
  | .id _ => True
  | .column (.googleSub _) => True
  | .column _ => False

theorem satisfies_seenBy {conds : List Condition} (h : ∀ c ∈ conds, c.Legible) (r : User) :
    satisfies conds (r.seenBy i) = satisfies conds r := by
  induction conds with
  | nil => rfl
  | cons c conds ih =>
    have hc : c.holds (r.seenBy i) = c.holds r := by
      have hlegible := h c List.mem_cons_self
      cases c with
      | id text => simp [Condition.holds]
      | column c =>
        cases c with
        | googleSub s => simp [Condition.holds, Column.holds]
        | _ => exact hlegible.elim
    have htail := ih fun c hc => h c (List.mem_cons_of_mem _ hc)
    simp only [satisfies, List.all_cons] at htail ⊢
    rw [hc, htail]

/-- What is hidden of a row stays hidden when a column is set. -/
theorem assign_seenBy (c : Column) (r : User) :
    (c.assign r).seenBy i = (c.assign (r.seenBy i)).seenBy i := by
  by_cases h : r.id = i
  · rw [User.seenBy_own h]
  · cases c <;> simp [Column.assign, User.seenBy, h]

theorem assignAll_seenBy (set : List Column) (r : User) :
    (assignAll set r).seenBy i = (assignAll set (r.seenBy i)).seenBy i := by
  induction set generalizing r with
  | nil =>
    show r.seenBy i = (r.seenBy i).seenBy i
    by_cases h : r.id = i <;> simp [User.seenBy, h]
  | cons c set ih =>
    show (assignAll set (c.assign r)).seenBy i = (assignAll set (c.assign (r.seenBy i))).seenBy i
    rw [ih, assign_seenBy, ← ih]

theorem stamp_seenBy (now : Time) (r : User) : ({ r with updatedAt := now } : User).seenBy i =
    ({ r.seenBy i with updatedAt := now } : User).seenBy i := by
  by_cases hr : r.id = i <;> simp [User.seenBy, hr]

/-- An assignment to rows that look the same leaves rows that do. -/
theorem refreshed_seenBy {r r' : User} (h : r.seenBy i = r'.seenBy i) (set : List Column)
    (now : Time) : ({ assignAll set r with updatedAt := now } : User).seenBy i =
      ({ assignAll set r' with updatedAt := now } : User).seenBy i := by
  rw [stamp_seenBy, assignAll_seenBy, h, ← assignAll_seenBy, ← stamp_seenBy]

theorem updateRow_seenBy {conds : List Condition} (h : ∀ c ∈ conds, c.Legible)
    (set : List Column) (now : Time) (r : User) :
    (updateRow conds set now r).seenBy i = (updateRow conds set now (r.seenBy i)).seenBy i := by
  have hsame : r.seenBy i = (r.seenBy i).seenBy i := by
    by_cases hr : r.id = i <;> simp [User.seenBy, hr]
  unfold updateRow
  rw [satisfies_seenBy h]
  split
  · exact refreshed_seenBy hsame set now
  · exact hsame

theorem map_updateRow_seenBy {conds : List Condition} (h : ∀ c ∈ conds, c.Legible)
    (set : List Column) (now : Time) (rows : List User) :
    (rows.map (updateRow conds set now)).map (User.seenBy i) =
      (rows.map (User.seenBy i)).map fun r => (updateRow conds set now r).seenBy i := by
  rw [List.map_map, List.map_map]
  exact List.map_congr_left fun r _ => updateRow_seenBy h set now r

theorem first_seenBy {conds : List Condition} (h : ∀ c ∈ conds, c.Legible) (t : UsersTable) :
    (t.first conds).map (User.seenBy i) =
      ((t.rows.map (User.seenBy i)).filter (satisfies conds)).argmin (·.id) := by
  rw [UsersTable.first, List.filter_map, ← argmin_map (fun u => User.seenBy_id u)]
  congr 2
  apply List.filter_congr
  intro r _
  exact (satisfies_seenBy h r).symm

/-- What is hidden is not under a unique index. -/
theorem commit_seenBy {rows rows' : List User}
    (h : rows.map (User.seenBy i) = rows'.map (User.seenBy i)) :
    (∃ err, commit rows = .error err ∧ commit rows' = .error err) ∨
      ∃ t t', commit rows = .ok t ∧ commit rows' = .ok t' := by
  have hid : rows.map (·.id) = rows'.map (·.id) := by
    simpa [Function.comp_def] using congrArg (List.map (·.id)) h
  have hsub : rows.map (·.googleSub) = rows'.map (·.googleSub) := by
    simpa [Function.comp_def] using congrArg (List.map (·.googleSub)) h
  have hname : rows.filterMap (·.username) = rows'.filterMap (·.username) := by
    simpa [List.filterMap_map, Function.comp_def] using congrArg (List.filterMap (·.username)) h
  unfold commit
  simp only [hid, hsub, hname]
  split
  · split
    · split
      · exact .inr ⟨_, _, rfl, rfl⟩
      · exact .inl ⟨_, rfl, rfl⟩
    · exact .inl ⟨_, rfl, rfl⟩
  · exact .inl ⟨_, rfl, rfl⟩

/-! ## Actions -/

/-- If it is a statement with conditions, it selects rows by identifier or subject. -/
def Effect.Legible : Effect → Prop
  | .sql (.selectFirst conds) => ∀ c ∈ conds, c.Legible
  | .sql (.update conds _) => ∀ c ∈ conds, c.Legible
  | _ => True

/-- Replies are equal, but for what a SELECT returns of other users' rows. -/
inductive Effect.ReplySeen (i : Uuid) (k : String) : (q q' : Effect) → q.Reply → q'.Reply → Prop
    where
  | same {q : Effect} (hq : ∀ conds, q ≠ .sql (.selectFirst conds)) (r : q.Reply) :
    Effect.ReplySeen i k q q r r
  | failed {q : Stmt} (err : DbError) :
    Effect.ReplySeen i k (.sql q) (.sql q) (.error err) (.error err)
  | row {conds : List Condition} {x x' : Option User}
    (h : x.map (User.seenBy i) = x'.map (User.seenBy i))
    (hsome : ∀ r, x = some r → satisfies conds r = true ∧ (r.id = i ↔ r.googleSub = k))
    (hnone : x = none → ∃ r : User, r.id = i ∧ r.googleSub = k ∧ satisfies conds r = false) :
    Effect.ReplySeen i k (.sql (.selectFirst conds)) (.sql (.selectFirst conds)) (.ok x) (.ok x')
  | listed (l l' : List User) :
    Effect.ReplySeen i k (.sql .selectAll) (.sql .selectAll) (.ok l) (.ok l')

def seenLikeness (i : Uuid) (k : String) : Likeness Effect Effect.Reply where
  act q q' := q = q' ∧ RpcEffect q ∧ q.Legible
  reply := Effect.ReplySeen i k

/-- The user's row stays. -/
theorem own_exec {q : Effect} (hq : RpcEffect q) (e : Env) {t : UsersTable}
    (h : ∃ r ∈ t.rows, r.id = i ∧ r.googleSub = k) :
    ∃ r ∈ (exec e q t).2.rows, r.id = i ∧ r.googleSub = k := by
  obtain ⟨r, hr, hid, hsub⟩ := h
  obtain ⟨r', hr', hedit⟩ := (exec_evolves hq e t).exists_of_mem hr
  exact ⟨r', hr', hedit.id.trans hid, hedit.googleSub.trans hsub⟩

/-- **A statement, on two tables that look the same**: the same error, or replies and tables that
look the same. -/
theorem query_seen {t t' : UsersTable} (h : SeenAlike i k t t') (now : Time) (newID : Uuid)
    {q : Stmt} (hq : Effect.Legible (.sql q)) :
    (∃ err, t.query now newID q = .error err ∧ t'.query now newID q = .error err) ∨
      ∃ x x' t₁ t₁', t.query now newID q = .ok (x, t₁) ∧ t'.query now newID q = .ok (x', t₁') ∧
        Effect.ReplySeen i k (.sql q) (.sql q) (.ok x) (.ok x') ∧
        t₁.rows.map (User.seenBy i) = t₁'.rows.map (User.seenBy i) := by
  cases q with
  | selectFirst conds =>
    cases hinv : conds.findSome? Condition.invalidText with
    | some text =>
      exact .inl ⟨invalidUuid text, by simp [UsersTable.query, hinv],
        by simp [UsersTable.query, hinv]⟩
    | none =>
      refine .inr ⟨_, _, t, t', UsersTable.query_selectFirst_ok t now newID conds hinv,
        UsersTable.query_selectFirst_ok t' now newID conds hinv, .row ?_ ?_ ?_, h.rows⟩
      · show (t.first conds).map (User.seenBy i) = (t'.first conds).map (User.seenBy i)
        rw [first_seenBy hq, first_seenBy hq, h.rows]
      · intro r hr
        obtain ⟨hmem, hsat⟩ := UsersTable.first_eq_some hr
        exact ⟨hsat, h.id_iff hmem⟩
      · intro hnone
        obtain ⟨r, hr, hid, hsub⟩ := h.own
        exact ⟨r, hid, hsub, UsersTable.first_eq_none hnone hr⟩
  | insert u =>
    have hrows : (t.rows ++ [u.row newID now]).map (User.seenBy i) =
        (t'.rows ++ [u.row newID now]).map (User.seenBy i) := by
      rw [List.map_append, List.map_append, h.rows]
    obtain ⟨err, h₁, h₂⟩ | ⟨t₁, t₁', h₁, h₂⟩ := commit_seenBy hrows
    · exact .inl ⟨err, by simp [UsersTable.query, h₁, Except.map],
        by simp [UsersTable.query, h₂, Except.map]⟩
    · refine .inr ⟨u.row newID now, u.row newID now, t₁, t₁',
        by simp [UsersTable.query, h₁, Except.map], by simp [UsersTable.query, h₂, Except.map],
        .same (by simp) _, ?_⟩
      rw [commit_ok_rows h₁, commit_ok_rows h₂, hrows]
  | update conds set =>
    cases hinv : conds.findSome? Condition.invalidText with
    | some text =>
      exact .inl ⟨invalidUuid text, by simp [UsersTable.query, hinv],
        by simp [UsersTable.query, hinv]⟩
    | none =>
      cases hset : set.mapM Column.coerce with
      | error err =>
        exact .inl ⟨err, by simp [UsersTable.query, hinv, hset],
          by simp [UsersTable.query, hinv, hset]⟩
      | ok set' =>
        have hrows : (t.rows.map (updateRow conds set' now)).map (User.seenBy i) =
            (t'.rows.map (updateRow conds set' now)).map (User.seenBy i) := by
          rw [map_updateRow_seenBy hq, map_updateRow_seenBy hq, h.rows]
        obtain ⟨err, h₁, h₂⟩ | ⟨t₁, t₁', h₁, h₂⟩ := commit_seenBy hrows
        · exact .inl ⟨err, by simp [UsersTable.query, hinv, hset, h₁, Except.map],
            by simp [UsersTable.query, hinv, hset, h₂, Except.map]⟩
        · refine .inr ⟨now, now, t₁, t₁',
            by simp [UsersTable.query, hinv, hset, h₁, Except.map],
            by simp [UsersTable.query, hinv, hset, h₂, Except.map], .same (by simp) _, ?_⟩
          rw [commit_ok_rows h₁, commit_ok_rows h₂, hrows]
  | selectAll =>
    exact .inr ⟨_, _, t, t', rfl, rfl, .listed _ _, h.rows⟩

/-- **The actions of the handlers respect what a user sees.** -/
theorem seenLikeness_respects : (seenLikeness i k).Respects exec Eq (SeenAlike i k) := by
  intro e e' q q' t t' he hq h
  obtain rfl := he
  obtain ⟨rfl, hrpc, hlegible⟩ := hq
  have hown := own_exec hrpc e h.own
  cases q with
  | sql q =>
    show Effect.ReplySeen i k (.sql q) (.sql q) (execSql e q t).1 (execSql e q t').1 ∧
      SeenAlike i k (execSql e q t).2 (execSql e q t').2
    change ∃ r ∈ (execSql e q t).2.rows, r.id = i ∧ r.googleSub = k at hown
    unfold execSql at hown ⊢
    cases hfault : e.fault with
    | some err => exact ⟨.failed err, h⟩
    | none =>
      obtain ⟨err, h₁, h₂⟩ | ⟨x, x', t₁, t₁', h₁, h₂, hx, hrows⟩ :=
        query_seen h e.now e.newID hlegible
      · simp only [e.db.query_eq, h₁, h₂]
        exact ⟨.failed err, h⟩
      · simp only [hfault, e.db.query_eq, h₁] at hown
        simp only [e.db.query_eq, h₁, h₂]
        exact ⟨hx, hrows, hown⟩
  | timeNow => exact ⟨.same (by simp) _, h⟩
  | httpGet url => exact ⟨.same (by simp) _, h⟩
  | randIntN n hn => exact ⟨.same (by simp) _, h⟩
  | logPrintf format args => exact ⟨.same (by simp) _, h⟩

/-! ## The database layer -/

/-- The same error, or records that look the same, of which `P` holds. -/
inductive RecordSeen (i : Uuid) (P : User → Prop) {ε : Type} :
    Except ε User → Except ε User → Prop where
  | error (err : ε) : RecordSeen i P (.error err) (.error err)
  | ok {u u' : User} (h : u.seenBy i = u'.seenBy i) (hP : P u) : RecordSeen i P (.ok u) (.ok u')

theorem RecordSeen.mono {ε : Type} {P P' : User → Prop} {r r' : Except ε User}
    (h : RecordSeen i P r r') (hP : ∀ u, P u → P' u) : RecordSeen i P' r r' := by
  cases h with
  | error err => exact .error err
  | ok h hu => exact .ok h (hP _ hu)

/-- The record has the identifier that the text denotes. -/
def HasIdText (text : String) (u : User) : Prop := Uuid.parse text = some u.id

section Programs

variable {α β : Type} {post : α → β → Prop}

/-- Both programs perform the action. -/
theorem alike_act {q : Effect} (hrpc : RpcEffect q) (hlegible : q.Legible) {f : q.Reply → Srv α}
    {f' : q.Reply → Srv β}
    (h : ∀ r r', Effect.ReplySeen i k q q r r' → Alike (seenLikeness i k) post (f r) (f' r')) :
    Alike (seenLikeness i k) post (.act q f) (.act q f') :=
  .act ⟨rfl, hrpc, hlegible⟩ h

/-- Both programs perform an action that is not a SELECT, and get the same reply. -/
theorem alike_act_same {q : Effect} (hrpc : RpcEffect q) (hlegible : q.Legible)
    (hselect : ∀ conds, q ≠ .sql (.selectFirst conds)) (hlist : q ≠ .sql .selectAll)
    {f : q.Reply → Srv α} {f' : q.Reply → Srv β}
    (h : ∀ r, Alike (seenLikeness i k) post (f r) (f' r)) :
    Alike (seenLikeness i k) post (.act q f) (.act q f') := by
  refine alike_act hrpc hlegible fun r r' hr => ?_
  cases hr with
  | same hq r => exact h r
  | failed err => exact h _
  | row => exact absurd rfl (hselect _)
  | listed => exact absurd rfl hlist

theorem alike_draw {n : ℕ} {hn : 0 < n} {f : Fin n → Srv α} {f' : Fin n → Srv β}
    (h : ∀ r, Alike (seenLikeness i k) post (f r) (f' r)) :
    Alike (seenLikeness i k) post (.act (.randIntN n hn) f) (.act (.randIntN n hn) f') :=
  alike_act_same (q := .randIntN n hn) (.read trivial) trivial (by simp) (by simp) h

end Programs

theorem getUserByID_seen (id : String) : Alike (seenLikeness i k) (RecordSeen i (HasIdText id))
    (getUserByID id) (getUserByID id) := by
  rw [getUserByID_eq]
  have hlegible : (Effect.sql (.selectFirst [.id id])).Legible := by
    simp [Effect.Legible, Condition.Legible]
  refine alike_act (.read (by trivial)) hlegible fun r r' h => ?_
  cases h with
  | same hq r => exact absurd rfl (hq _)
  | failed err => exact .ret (.error _)
  | @row _ x x' h hsome hnone =>
    rcases x with _ | u <;> rcases x' with _ | u'
    · exact .ret (.error _)
    · cases h
    · cases h
    · exact .ret (.ok (Option.some.inj h) (satisfies_idText.mp (hsome u rfl).1))

theorem updateUsername_seen {id name : String} (hname : name ≠ "" → usernameRE name = true) :
    Alike (seenLikeness i k) (RecordSeen i (HasIdText id)) (updateUsername id name)
      (updateUsername id name) := by
  rw [updateUsername_eq]
  refine alike_act_same (.renameStmt hname)
    (by simp [renameStmt, Effect.Legible, Condition.Legible]) (by simp [renameStmt])
    (by simp [renameStmt]) fun r => ?_
  cases r with
  | error err =>
    show Alike (seenLikeness i k) _ (if isUniqueViolation err then .ret _ else .ret _)
      (if isUniqueViolation err then .ret _ else .ret _)
    split
    · exact .ret (.error _)
    · exact .ret (.error _)
  | ok stamp => exact getUserByID_seen id

theorem assignHandle_seen (id : String) (n : ℕ) :
    Alike (seenLikeness i k) (RecordSeen i (HasIdText id)) (assignHandle generateUsername id n)
      (assignHandle generateUsername id n) := by
  induction n with
  | zero => exact getUserByID_seen id
  | succ n ih =>
    rw [assignHandle_succ]
    refine alike_draw fun a => ?_
    refine alike_draw fun b => ?_
    refine alike_draw fun c => ?_
    refine (updateUsername_seen fun _ => generateUsername_valid a b c).bind fun r r' h => ?_
    cases h with
    | error err => exact ih
    | ok h hP => exact .ret (.ok h hP)

/-- A sign-in with the user's subject is about the user's record. -/
def SubjectIs (i : Uuid) (k sub : String) (u : User) : Prop := sub = k → sub ≠ "" → u.id = i

theorem subjectConds_legible (sub : String) : ∀ c ∈ subjectConds sub, c.Legible := by
  intro c hc
  by_cases hsub : sub = ""
  · simp [subjectConds, UserFields.nonZero, hsub] at hc
  · obtain rfl : c = .column (.googleSub sub) := by
      simpa [subjectConds, UserFields.nonZero, hsub] using hc
    trivial

theorem firstOrCreate_seen (sub email displayName : String) {pic : Option String}
    (hpic : pic ≠ some "") : Alike (seenLikeness i k) (RecordSeen i (SubjectIs i k sub))
      (firstOrCreate { googleSub := sub } { email, displayName, pictureURL := pic }
        { googleSub := sub, email, displayName, pictureURL := pic })
      (firstOrCreate { googleSub := sub } { email, displayName, pictureURL := pic }
        { googleSub := sub, email, displayName, pictureURL := pic }) := by
  rw [firstOrCreate_eq]
  refine alike_act (q := .sql (.selectFirst (subjectConds sub))) (.read trivial)
    (subjectConds_legible sub) fun r r' h => ?_
  cases h with
  | same hq r => exact absurd rfl (hq _)
  | failed err => exact .ret (.error _)
  | @row _ x x' h hsome hnone =>
    rcases x with _ | u <;> rcases x' with _ | u'
    · -- not there: the INSERT, of another subject's row
      have hother : sub = k → sub = "" := by
        rintro rfl
        obtain ⟨r, -, hr, hsat⟩ := hnone rfl
        by_contra hne
        have hsat' := satisfies_subjectConds.mpr (Or.inr hr)
        rw [show satisfies (subjectConds sub) r = false from hsat] at hsat'
        cases hsat'
      show Alike _ _ (insertUser _) (insertUser _)
      rw [setFields_profile]
      refine alike_act_same (.create sub email displayName pic hpic) trivial (by simp) (by simp)
        fun r => ?_
      cases r with
      | error err => exact .ret (.error _)
      | ok u => exact .ret (.ok rfl fun hk hne => absurd (hother hk) hne)
    · cases h
    · cases h
    · -- there: the UPDATE of that row, by its id
      have hu : u.seenBy i = u'.seenBy i := Option.some.inj h
      obtain ⟨hsat, hown⟩ := hsome u rfl
      have hlegible : ∀ c ∈ subjectConds sub ++ [.id u.id.text], c.Legible := by
        intro c hc
        rcases List.mem_append.mp hc with hc | hc
        · exact subjectConds_legible sub c hc
        · obtain rfl := List.mem_singleton.mp hc
          trivial
      show Alike (seenLikeness i k) _
        (.act (.sql (.update (subjectConds sub ++ [.id u.id.text]) _)) _)
        (.act (.sql (.update (subjectConds sub ++ [.id u'.id.text]) _)) _)
      rw [← User.id_of_seenBy hu]
      refine alike_act_same (.refresh _ email displayName pic hpic) hlegible (by simp) (by simp)
        fun r => ?_
      cases r with
      | error err => exact .ret (.error _)
      | ok stamp =>
        refine .ret (.ok (refreshed_seenBy hu _ stamp) fun hk hne => ?_)
        show (assignAll _ u).id = i
        rw [assignAll_id]
        exact hown.mpr (((satisfies_subjectConds.mp hsat).resolve_left hne).trans hk)

/-- **`UpsertUser` on tables that look the same.** -/
theorem upsertUser_seen (sub email displayName picture : String) :
    Alike (seenLikeness i k) (RecordSeen i (SubjectIs i k sub))
      (upsertUser sub email displayName picture generateUsername)
      (upsertUser sub email displayName picture generateUsername) := by
  rw [upsertUser_eq]
  refine (firstOrCreate_seen sub email displayName (pic_ne_empty picture)).bind fun r r' h => ?_
  cases h with
  | error err => exact .ret (.error _)
  | @ok u u' h hP =>
    show Alike (seenLikeness i k) _
      (if u.username = none then assignHandle generateUsername u.id.text 10 else .ret (.ok u))
      (if u'.username = none then assignHandle generateUsername u'.id.text 10 else .ret (.ok u'))
    rw [← User.id_of_seenBy h, ← User.username_of_seenBy h]
    split
    · refine (assignHandle_seen u.id.text 10).mono fun r r' h => h.mono fun v hv hk hne => ?_
      have hid : u.id = v.id := Option.some.inj ((Uuid.parse_text u.id).symm.trans hv)
      exact hid.symm.trans (hP hk hne)
    · exact .ret (.ok h hP)

/-! ## Requests -/

variable {J : GolangJwt} {s : Server}

/-- Both verifications end the same, with what Google vouches for. -/
theorem verifyGoogleIDToken_seen (raw : String) : Alike (seenLikeness i k)
    (fun r r' => r = r' ∧ ∀ g, r = .ok g → Vouched J s raw g)
    (verifyGoogleIDToken J raw s.jwksURL s.googleClientID)
    (verifyGoogleIDToken J raw s.jwksURL s.googleClientID) := by
  have hrefuse (format : String) (args : List LogArg) : Alike (seenLikeness i k)
      (fun r r' => r = r' ∧ ∀ g, r = .ok g → Vouched J s raw g) (refuse format args)
      (refuse format args) := by
    refine alike_act_same (q := .logPrintf format args) (.read trivial) trivial (by simp)
      (by simp) fun r => .ret ⟨rfl, fun g hg => by cases hg⟩
  obtain ⟨format, args, heq⟩ | ⟨tok, hparsed, heq⟩ :=
    verifyGoogleIDToken_cases J raw s.jwksURL s.googleClientID
  · exact heq ▸ hrefuse format args
  · rw [heq]
    refine alike_act_same (q := .httpGet s.jwksURL) (.read trivial) trivial (by simp) (by simp)
      fun reply => ?_
    obtain ⟨format, args, heq⟩ | ⟨key, hkey, heq⟩ :=
      withRSAKey_cases J raw s.googleClientID (tok.header.getString "kid") reply
    · exact heq ▸ hrefuse format args
    · rw [heq]
      refine alike_act_same (q := .timeNow) (.read trivial) trivial (by simp) (by simp)
        fun now => ?_
      obtain ⟨format, args, heq⟩ | ⟨tok', hverified, hissuer, haud, heq⟩ :=
        checkGoogleIDToken_cases J raw s.googleClientID key now
      · exact heq ▸ hrefuse format args
      · obtain rfl : tok = tok' :=
          Except.ok.inj (hparsed.symm.trans (J.parseWithClaims_ok.mp hverified).1)
        rw [heq]
        refine .ret ⟨rfl, fun g hg => ⟨tok, reply, now, ⟨hparsed, ⟨key, hkey, hverified⟩, hissuer⟩,
          haud, (Except.ok.inj hg).symm⟩⟩

/-- The session of the user's own record. -/
theorem issueSession_seen {P : User → Prop} {r r' : Except DbLayerError User}
    (h : RecordSeen i P r r') : Alike (seenLikeness i k) (fun a b => (∀ u, P u → u.id = i) → a = b)
      (issueSession J s r) (issueSession J s r') := by
  cases h with
  | error err => exact .ret fun _ => rfl
  | @ok u u' h hP =>
    obtain ⟨resp, hprog, -⟩ := issueSession_ok J s u
    by_cases hsame : u = u'
    · rw [← hsame, hprog]
      exact alike_act_same (q := .timeNow) (.read trivial) trivial (by simp) (by simp)
        fun now => .ret fun _ => rfl
    · obtain ⟨resp', hprog', -⟩ := issueSession_ok J s u'
      rw [hprog, hprog']
      exact alike_act_same (q := .timeNow) (.read trivial) trivial (by simp) (by simp)
        fun now => .ret fun hown => absurd (User.eq_of_seenBy h (hown u hP)) hsame

/-- A sign-in for the user's subject ends the same. -/
theorem loginWithGoogle_seen (raw : String) : Alike (seenLikeness i k)
    (fun a b => (∀ g, Vouched J s raw g → g.sub = k ∧ g.sub ≠ "") → a = b)
    (loginWithGoogle J s raw) (loginWithGoogle J s raw) := by
  by_cases hne : raw = ""
  · rw [hne, loginWithGoogle, if_pos rfl]
    exact .ret fun _ => rfl
  · rw [loginWithGoogle_eq hne]
    refine (verifyGoogleIDToken_seen raw).bind fun r r' h => ?_
    obtain ⟨rfl, hvouched⟩ := h
    cases r with
    | error err =>
      exact alike_act_same (q := .logPrintf _ _) (.read trivial) trivial (by simp) (by simp)
        fun _ => .ret fun _ => rfl
    | ok g =>
      refine (upsertUser_seen g.sub g.email g.displayName g.picture).bind fun r r' h => ?_
      refine (issueSession_seen h).mono fun a b hab hown => hab fun u hu => ?_
      obtain ⟨hk, hsub⟩ := hown g (hvouched g rfl)
      exact hu hk hsub

/-- Both requests end the same if they are about the user's record. -/
theorem updateProfile_seen (ctx : Context) (username : String) : Alike (seenLikeness i k)
    (fun a b => (∀ claims, claimsFromContext ctx = some claims →
      Uuid.parse claims.userID = some i) → a = b)
    (updateProfile ctx username) (updateProfile ctx username) := by
  cases hclaims : claimsFromContext ctx with
  | none =>
    rw [updateProfile, hclaims]
    exact .ret fun _ => rfl
  | some claims =>
    by_cases hvalid : username ≠ "" ∧ ¬ usernameRE username
    · rw [updateProfile, hclaims]
      simp only [if_pos hvalid]
      exact .ret fun _ => rfl
    · have hname : username ≠ "" → usernameRE username = true := fun hne => by
        simpa [hne] using hvalid
      rw [updateProfile_eq hclaims hname]
      refine (updateUsername_seen hname).bind fun r r' h => ?_
      cases h with
      | error err =>
        show Alike (seenLikeness i k) _ (if err.is .errUsernameTaken then .ret _ else .ret _)
          (if err.is .errUsernameTaken then .ret _ else .ret _)
        split
        · exact .ret fun _ => rfl
        · exact .ret fun _ => rfl
      | @ok u u' h hP =>
        refine .ret fun hown => ?_
        have hid : u.id = i := Option.some.inj (hP.symm.trans (hown claims rfl))
        rw [User.eq_of_seenBy h hid]

theorem getCurrentUser_seen (ctx : Context) : Alike (seenLikeness i k)
    (fun a b => (∀ claims, claimsFromContext ctx = some claims →
      Uuid.parse claims.userID = some i) → a = b)
    (getCurrentUser ctx) (getCurrentUser ctx) := by
  unfold getCurrentUser
  cases hclaims : claimsFromContext ctx with
  | none => exact .ret fun _ => rfl
  | some claims =>
    refine (getUserByID_seen claims.userID).bind fun r r' h => ?_
    cases h with
    | error err => exact .ret fun _ => rfl
    | @ok u u' h hP =>
      refine .ret fun hown => ?_
      have hid : u.id = i := Option.some.inj (hP.symm.trans (hown claims rfl))
      rw [User.eq_of_seenBy h hid]

theorem listUsers_seen : Alike (seenLikeness i k) (fun _ _ => True) listUsers listUsers := by
  refine alike_act (q := .sql .selectAll) (.read trivial) trivial fun r r' h => ?_
  rcases r with err | users <;> rcases r' with err' | users' <;> exact .ret trivial

/-- A request of the user's, who is not an admin. -/
structure OwnRequest (J : GolangJwt) (env : Environ) (s : Server) (i : Uuid) (k : String)
    (now : Time) (ctx : Context) (req : Request) : Prop where
  signsIn : ∀ idToken g, req = .loginWithGoogle idToken → Vouched J s idToken g →
    g.sub = k ∧ g.sub ≠ ""
  caller : ∀ claims, req.fullMethod ∉ publicRPCs → Authenticated J env now ctx claims →
    Uuid.parse claims.userID = some i
  notAdmin : ∀ claims, req.fullMethod ∈ adminRPCs → Authenticated J env now ctx claims →
    claims.isAdmin = false

/-- **A request, on two tables that look the same to a user**: the user's own end the same. -/
theorem serve_seen (env : Environ) (now : Time) (ctx : Context) (req : Request) :
    Alike (seenLikeness i k) (fun a b => OwnRequest J env s i k now ctx req → a = b)
      (serve J env s now ctx req) (serve J env s now ctx req) := by
  obtain ⟨st, h⟩ | ⟨hpub, h⟩ | ⟨hpub, c, hc, hadmin, h⟩ := serve_cases J env s now ctx req
  · rw [h]
    exact .ret fun _ => rfl
  · rw [h]
    cases req with
    | loginWithGoogle idToken =>
      refine (loginWithGoogle_seen idToken).bind fun a b hab => .ret fun hown => ?_
      rw [hab fun g hg => hown.signsIn idToken g rfl hg]
    | updateProfile username => exact absurd hpub (by simp [Request.fullMethod, publicRPCs])
    | getCurrentUser => exact absurd hpub (by decide)
    | listUsers => exact absurd hpub (by decide)
  · rw [h]
    have hcaller (hown : OwnRequest J env s i k now ctx req) (claims : Claims)
        (hclaims : claimsFromContext (withClaims ctx c) = some claims) :
        Uuid.parse claims.userID = some i := by
      obtain rfl := Option.some.inj hclaims
      exact hown.caller _ hpub hc
    cases req with
    | loginWithGoogle idToken =>
      exact absurd (by simp [Request.fullMethod, publicRPCs]) hpub
    | updateProfile username =>
      refine (updateProfile_seen _ username).bind fun a b hab => .ret fun hown => ?_
      rw [hab (hcaller hown)]
    | getCurrentUser =>
      refine (getCurrentUser_seen _).bind fun a b hab => .ret fun hown => ?_
      rw [hab (hcaller hown)]
    | listUsers =>
      refine listUsers_seen.bind fun a b _ => .ret fun hown => ?_
      have hnot := hown.notAdmin c (by decide) hc
      rw [hnot] at hadmin
      exact absurd hadmin (by decide)

/-! ## Interleavings -/

section Pools

variable {ι : Type} {now : ι → Time} {ctx : ι → Context} {req : ι → Request} {env : Environ}

/-- **Others' data is unseen.** Two tables may differ in the e-mail addresses, display names,
pictures, admin flags and timestamps of all users but one. Whatever requests are interleaved on
them, in whatever order and with whatever faults, the one user's requests are answered the same,
unless they list the users with an admin's token. -/
theorem others_unseen [DecidableEq ι] {t t' : UsersTable} {r : User} (hr : r ∈ t.rows)
    (hsame : t.rows.map (User.seenBy r.id) = t'.rows.map (User.seenBy r.id))
    {sched : List (ι × Env)} {n : ι}
    (hown : OwnRequest J env s r.id r.googleSub (now n) (ctx n) (req n))
    (res : Except Status Response) :
    (Pool.exec exec (servedRequests J env s now ctx req t) sched).Returned n res ↔
      (Pool.exec exec (servedRequests J env s now ctx req t') sched).Returned n res := by
  have hstart : SeenAlike r.id r.googleSub t t' := ⟨hsame, r, hr, rfl, rfl⟩
  have hsched : List.Forall₂ (fun x y : ι × Env => x.1 = y.1 ∧ x.2 = y.2) sched sched :=
    List.forall₂_same.mpr fun _ _ => ⟨rfl, rfl⟩
  have hend {t₁ t₂ : UsersTable} (h : SeenAlike r.id r.googleSub t₁ t₂)
      (hres : (Pool.exec exec (servedRequests J env s now ctx req t₁) sched).Returned n res) :
      (Pool.exec exec (servedRequests J env s now ctx req t₂) sched).Returned n res := by
    have hpools : PoolsAlike (seenLikeness r.id r.googleSub)
        (fun n a b => OwnRequest J env s r.id r.googleSub (now n) (ctx n) (req n) → a = b)
        (SeenAlike r.id r.googleSub) (servedRequests J env s now ctx req t₁)
        (servedRequests J env s now ctx req t₂) :=
      ⟨fun n => serve_seen env (now n) (ctx n) (req n), h⟩
    obtain ⟨res', hres', heq⟩ := (hpools.exec seenLikeness_respects hsched).returned hres
    rwa [heq hown]
  exact ⟨hend hstart, hend hstart.symm⟩

end Pools

namespace Sample

/-- Ada, and a user with this e-mail address. -/
def withGrace (email : String) : UsersTable where
  rows := [ada, { ada with id := 8, googleSub := "2", email, username := some "grace_h" }]
  id_nodup := show [ada.id, 8].Nodup by decide +kernel
  googleSub_nodup := show [ada.googleSub, "2"].Nodup by decide +kernel
  username_nodup := show ["ada_l", "grace_h"].Nodup by decide +kernel

def adaSignIn (t : UsersTable) :
    Pool Unit Effect Effect.Reply (Except Status Response) UsersTable :=
  servedRequests jwt environ server (fun _ => Sample.env.now) (fun _ => ⟨none, none⟩)
    (fun _ => .loginWithGoogle adaIDToken.text) t

end Sample

/-- Ada signs in, whatever the other user's address is. -/
theorem others_unseen_ada : ∃ resp sched,
    (Pool.exec exec (Sample.adaSignIn (Sample.withGrace "grace@example.com")) sched).Returned ()
      (.ok (.session resp)) ∧
    (Pool.exec exec (Sample.adaSignIn (Sample.withGrace "g.hopper@example.com")) sched).Returned ()
      (.ok (.session resp)) := by
  have hrow : (Sample.withGrace "grace@example.com").first
      (subjectConds (Sample.adaToken.claims.getString "sub")) = some Sample.ada := by
    show (Sample.withGrace "grace@example.com").first (subjectConds
      (MapClaims.getString (readClaims Sample.adaIDToken.claims) "sub")) = _
    rw [Sample.adaIDToken_sub]
    decide +kernel
  have hany (q : Effect) (t : UsersTable) : anyEnv Sample.env q t := trivial
  obtain ⟨resp, t', hlogin⟩ := loginWithGoogle_runs (s := Sample.server) hany rfl
    (Sample.adaIDToken_signed _) (fun _ => Sample.sample_audience (.inl rfl)) hrow (by decide)
  have hpub : (Request.loginWithGoogle Sample.adaIDToken.text).fullMethod ∈ publicRPCs :=
    fullMethod_public_iff.mpr ⟨_, rfl⟩
  have hthread : (Sample.adaSignIn (Sample.withGrace "grace@example.com")).thread () =
      loginWithGoogle Sample.jwt Sample.server Sample.adaIDToken.text >>=
        fun r => .ret (r.map .session) := by
    show serve Sample.jwt Sample.environ Sample.server Sample.env.now ⟨none, none⟩
      (.loginWithGoogle Sample.adaIDToken.text) = _
    rw [serve, unaryAuthInterceptor, if_pos hpub]
    rfl
  obtain ⟨sched, -, -, hexec⟩ := Pool.exists_exec_of_runs hlogin rfl hthread
  have hres : (Pool.exec exec (Sample.adaSignIn (Sample.withGrace "grace@example.com"))
      sched).Returned () (.ok (.session resp)) := by
    simp [Pool.Returned, hexec, Except.map]
  have hown : OwnRequest Sample.jwt Sample.environ Sample.server Sample.ada.id
      Sample.ada.googleSub Sample.env.now ⟨none, none⟩
      (.loginWithGoogle Sample.adaIDToken.text) := by
    refine ⟨fun idToken g hreq hg => ?_, fun _ hnot _ => absurd hpub hnot, fun _ hadmin _ => ?_⟩
    · obtain rfl := Request.loginWithGoogle.inj hreq
      obtain ⟨tok, reply, now, hsigned, -, rfl⟩ := hg
      obtain rfl : tok = _ :=
        Except.ok.inj (hsigned.parsed.symm.trans (Sample.adaIDToken_signed "").parsed)
      have hsub : (googleClaims Sample.adaToken.claims).sub = Sample.ada.googleSub :=
        Sample.adaIDToken_sub
      exact ⟨hsub, fun hempty => absurd (hsub.symm.trans hempty) (by decide)⟩
    · exact absurd hpub (adminRPCs_not_public _ hadmin)
  exact ⟨resp, sched, hres, (others_unseen (by simp [Sample.withGrace]) (by decide +kernel) hown
    _).mp hres⟩

end SampleGrpc
