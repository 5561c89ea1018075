import Mathlib.Data.List.MinMax
import Mathlib.Data.List.Sort
import Mathlib.Data.List.Nodup
import Mathlib.Data.List.Pairwise
import SampleGrpc.Text.Uuid
import SampleGrpc.Auth.Jwt
import SampleGrpc.Interaction.Evolve

/-!
# The users table

The `users` table of `internal/db/db.go` and the SQL statements that GORM issues on it. A table
carries its unique indexes as fields: a statement that would break one fails with a unique
violation and changes nothing.

* `User` — the Go record and the row, field by field.
* `UserFields`, `nonZero` — a `User{…}` literal as GORM's `Where` and `Assign` read it: only its
  non-zero fields count.
* `Stmt`, `UsersTable.query` — the statements and their effect.
* `query_evolves` — what any statement can do to the rows, said once.
-/

namespace SampleGrpc

/-- A row of the users table. -/
structure User where
  id : Uuid
  googleSub : String
  email : String
  displayName : String
  pictureURL : Option String
  username : Option String
  isAdmin : Bool
  createdAt : Time
  updatedAt : Time
  deriving DecidableEq

/-- The users table with its primary key and its two unique indexes. The index on `username`
ignores NULLs. -/
@[ext]
structure UsersTable where
  rows : List User
  id_nodup : (rows.map (·.id)).Nodup
  googleSub_nodup : (rows.map (·.googleSub)).Nodup
  username_nodup : (rows.filterMap (·.username)).Nodup

def UsersTable.empty : UsersTable :=
  { rows := [], id_nodup := .nil, googleSub_nodup := .nil, username_nodup := .nil }

/-- An error of the database driver. `sqlState` is absent when the server did not answer. -/
structure DbError where
  sqlState : Option String
  message : String
  deriving DecidableEq

/-! ## Columns and conditions -/

/-- `column = value`, as a condition or as an assignment. -/
inductive Column where
  | googleSub (s : String)
  | email (s : String)
  | displayName (s : String)
  | pictureURL (s : Option String)
  | username (s : Option String)
  | isAdmin (b : Bool)

def Column.holds : Column → User → Bool
  | .googleSub s, r => r.googleSub = s
  | .email s, r => r.email = s
  | .displayName s, r => r.displayName = s
  | .pictureURL s, r => r.pictureURL = s
  | .username s, r => r.username = s
  | .isAdmin b, r => r.isAdmin = b

def Column.assign : Column → User → User
  | .googleSub s, r => { r with googleSub := s }
  | .email s, r => { r with email := s }
  | .displayName s, r => { r with displayName := s }
  | .pictureURL s, r => { r with pictureURL := s }
  | .username s, r => { r with username := s }
  | .isAdmin b, r => { r with isAdmin := b }

def assignAll (set : List Column) (r : User) : User := set.foldl (fun r c => c.assign r) r

/-- A condition of a WHERE clause; `id` compares with a UUID given as text. -/
inductive Condition where
  | id (text : String)
  | column (c : Column)

def Condition.holds : Condition → User → Bool
  | .id text, r => Uuid.parse text = some r.id
  | .column c, r => c.holds r

def satisfies (conds : List Condition) (r : User) : Bool := conds.all fun c => c.holds r

/-- The text of a condition on `id` that is not a UUID. -/
def Condition.invalidText : Condition → Option String
  | .id text => if (Uuid.parse text).isSome then none else some text
  | .column _ => none

/-- A `User{…}` literal: the fields it does not name are zero. -/
structure UserFields where
  googleSub : String := ""
  email : String := ""
  displayName : String := ""
  pictureURL : Option String := none
  username : Option String := none
  isAdmin : Bool := false

/-- The columns of a struct that GORM's `Where` and `Assign` use: those of its non-zero fields. -/
def UserFields.nonZero (u : UserFields) : List Column :=
  (if u.googleSub ≠ "" then [.googleSub u.googleSub] else []) ++
  (if u.email ≠ "" then [.email u.email] else []) ++
  (if u.displayName ≠ "" then [.displayName u.displayName] else []) ++
  (if u.pictureURL ≠ none then [.pictureURL u.pictureURL] else []) ++
  (if u.username ≠ none then [.username u.username] else []) ++
  (if u.isAdmin then [.isAdmin u.isAdmin] else [])

/-! ## Statements -/

inductive Stmt where
  /-- `SELECT * FROM users WHERE conds ORDER BY id LIMIT 1` -/
  | selectFirst (conds : List Condition)
  /-- `INSERT INTO users … RETURNING id` -/
  | insert (u : UserFields)
  /-- `UPDATE users SET set, updated_at = now WHERE conds` -/
  | update (conds : List Condition) (set : List Column)
  /-- `SELECT * FROM users ORDER BY created_at` -/
  | selectAll

/-- What a successful statement gives the program: the row found, the row as inserted, the time
stamped on the update, all rows. -/
def Stmt.Result : Stmt → Type
  | .selectFirst _ => Option User
  | .insert _ => User
  | .update _ _ => Time
  | .selectAll => List User

def uniqueViolation (index : String) : DbError :=
  { sqlState := some "23505"
    message := "ERROR: duplicate key value violates unique constraint \"" ++ index ++
      "\" (SQLSTATE 23505)" }

def invalidUuid (text : String) : DbError :=
  { sqlState := some "22P02"
    message := "ERROR: invalid input syntax for type uuid: \"" ++ text ++ "\" (SQLSTATE 22P02)" }

def valueTooLong : DbError :=
  { sqlState := some "22001"
    message := "ERROR: value too long for type character varying(30) (SQLSTATE 22001)" }

/-- Storing in a `varchar(30)` column: a longer text is cut if only blanks are lost. -/
def varchar30 (s : String) : Except DbError String :=
  if s.length ≤ 30 then .ok s
  else if (s.toList.drop 30).all (· = ' ') then .ok (String.ofList (s.toList.take 30))
  else .error valueTooLong

/-- The value as its column stores it. -/
def Column.coerce : Column → Except DbError Column
  | .username (some s) => (varchar30 s).map fun s => .username (some s)
  | c => .ok c

/-- The rows of a table, if the unique indexes admit them. -/
def commit (rows : List User) : Except DbError UsersTable :=
  if hid : (rows.map (·.id)).Nodup then
    if hsub : (rows.map (·.googleSub)).Nodup then
      if hname : (rows.filterMap (·.username)).Nodup then .ok ⟨rows, hid, hsub, hname⟩
      else .error (uniqueViolation "idx_users_username")
    else .error (uniqueViolation "idx_users_google_sub")
  else .error (uniqueViolation "users_pkey")

/-- The row an INSERT makes of the fields. -/
def UserFields.row (u : UserFields) (newID : Uuid) (now : Time) : User :=
  { id := newID, googleSub := u.googleSub, email := u.email, displayName := u.displayName,
    pictureURL := u.pictureURL, username := u.username, isAdmin := u.isAdmin,
    createdAt := now, updatedAt := now }

/-- The row an UPDATE makes of a row. -/
def updateRow (conds : List Condition) (set : List Column) (now : Time) (r : User) : User :=
  if satisfies conds r then { assignAll set r with updatedAt := now } else r

/-- The effect of a statement at time `now`; `newID` is what `gen_random_uuid()` draws. -/
def UsersTable.query (t : UsersTable) (now : Time) (newID : Uuid) :
    (q : Stmt) → Except DbError (q.Result × UsersTable)
  | .selectFirst conds =>
    match conds.findSome? Condition.invalidText with
    | some text => .error (invalidUuid text)
    | none => .ok ((t.rows.filter (satisfies conds)).argmin (·.id), t)
  | .insert u => (commit (t.rows ++ [u.row newID now])).map fun t' => (u.row newID now, t')
  | .update conds set =>
    match conds.findSome? Condition.invalidText, set.mapM Column.coerce with
    | some text, _ => .error (invalidUuid text)
    | none, .error err => .error err
    | none, .ok set => (commit (t.rows.map (updateRow conds set now))).map fun t' => (now, t')
  | .selectAll => .ok (t.rows.insertionSort (·.createdAt ≤ ·.createdAt), t)

/-! ## Committing -/

theorem commit_ok_rows {rows : List User} {t : UsersTable} (h : commit rows = .ok t) :
    t.rows = rows := by
  unfold commit at h
  split at h
  · split at h
    · split at h
      · rw [← Except.ok.inj h]
      · cases h
    · cases h
  · cases h

theorem commit_of_nodup {rows : List User} (hid : (rows.map (·.id)).Nodup)
    (hsub : (rows.map (·.googleSub)).Nodup) (hname : (rows.filterMap (·.username)).Nodup) :
    commit rows = .ok ⟨rows, hid, hsub, hname⟩ := by
  simp [commit, hid, hsub, hname]

/-- A change that keeps the unique columns of every row commits. -/
theorem commit_map (t : UsersTable) {f : User → User} (hid : ∀ r, (f r).id = r.id)
    (hsub : ∀ r, (f r).googleSub = r.googleSub) (hname : ∀ r, (f r).username = r.username) :
    ∃ t', commit (t.rows.map f) = .ok t' := by
  refine ⟨_, commit_of_nodup ?_ ?_ ?_⟩
  · simpa [List.map_map, Function.comp_def, hid] using t.id_nodup
  · simpa [List.map_map, Function.comp_def, hsub] using t.googleSub_nodup
  · simpa [List.filterMap_map, Function.comp_def, hname] using t.username_nodup

theorem except_map_ok {ε α β : Type} {x : Except ε α} {f : α → β} {b : β}
    (h : x.map f = .ok b) : ∃ a, x = .ok a ∧ f a = b := by
  cases x with
  | error err => cases h
  | ok a => exact ⟨a, rfl, Except.ok.inj h⟩

/-! ## Looking rows up -/

namespace UsersTable

variable {t : UsersTable} {r r' : User}

theorem eq_of_id (hr : r ∈ t.rows) (hr' : r' ∈ t.rows) (h : r.id = r'.id) : r = r' :=
  List.inj_on_of_nodup_map t.id_nodup hr hr' h

theorem eq_of_googleSub (hr : r ∈ t.rows) (hr' : r' ∈ t.rows) (h : r.googleSub = r'.googleSub) :
    r = r' :=
  List.inj_on_of_nodup_map t.googleSub_nodup hr hr' h

theorem eq_of_username {name : String} (hr : r ∈ t.rows) (hr' : r' ∈ t.rows)
    (h : r.username = some name) (h' : r'.username = some name) : r = r' := by
  have hpairwise := List.pairwise_filterMap.mp t.username_nodup
  have hsymm : Std.Symm fun u u' : User =>
      u.username = some name → u'.username = some name → u = u' :=
    ⟨fun _ _ h h₁ h₂ => (h h₂ h₁).symm⟩
  have hunique : t.rows.Pairwise fun u u' =>
      u.username = some name → u'.username = some name → u = u' :=
    hpairwise.imp fun hne h₁ h₂ => absurd rfl (hne name h₁ name h₂)
  exact hunique.forall_of_forall (fun _ _ _ _ => rfl) hr hr' h h'

/-- The row that `ORDER BY id LIMIT 1` selects. -/
def first (t : UsersTable) (conds : List Condition) : Option User :=
  (t.rows.filter (satisfies conds)).argmin (·.id)

theorem first_eq_some {conds : List Condition} (h : t.first conds = some r) :
    r ∈ t.rows ∧ satisfies conds r = true := by
  have hmem := List.argmin_mem (f := fun u : User => u.id) h
  exact List.mem_filter.mp hmem

theorem first_eq_none {conds : List Condition} (h : t.first conds = none) (hr : r ∈ t.rows) :
    satisfies conds r = false := by
  rw [first, List.argmin_eq_none, List.filter_eq_nil_iff] at h
  simpa using h r hr

/-- Conditions that select one row select it first. -/
theorem first_of_unique {conds : List Condition} (hr : r ∈ t.rows) (hsat : satisfies conds r = true)
    (huniq : ∀ r' ∈ t.rows, satisfies conds r' = true → r' = r) : t.first conds = some r := by
  cases h : t.first conds with
  | none => simp [first_eq_none h hr] at hsat
  | some r' =>
    obtain ⟨hmem, hsat'⟩ := first_eq_some h
    rw [huniq r' hmem hsat']

end UsersTable

/-! ## Conditions and assignments -/

@[simp] theorem satisfies_append (conds conds' : List Condition) (r : User) :
    satisfies (conds ++ conds') r = (satisfies conds r && satisfies conds' r) := by
  simp [satisfies]

/-- A condition on the printed form of a UUID selects the row with that UUID. -/
@[simp] theorem satisfies_id (i : Uuid) (r : User) :
    satisfies [.id i.text] r = decide (r.id = i) := by
  simp [satisfies, Condition.holds, Uuid.parse_text, eq_comm]

/-- A condition on `id` selects the row whose UUID the text denotes. -/
theorem satisfies_idText {text : String} {r : User} :
    satisfies [.id text] r = true ↔ Uuid.parse text = some r.id := by
  simp [satisfies, Condition.holds]

@[simp] theorem invalidText_columns (set : List Column) :
    (set.map Condition.column).findSome? Condition.invalidText = none := by
  simp [Condition.invalidText]

@[simp] theorem invalidText_id (i : Uuid) : Condition.invalidText (.id i.text) = none := by
  simp [Condition.invalidText, Uuid.parse_text]

theorem Column.coerce_wide {c : Column} (h : ∀ s, c ≠ .username (some s)) : c.coerce = .ok c := by
  cases c with
  | username s =>
    cases s with
    | none => rfl
    | some s => exact absurd rfl (h s)
  | _ => rfl

/-- Columns other than `username` store their values as they are. -/
theorem mapM_coerce_of_noUsername {set : List Column} (h : ∀ s, .username (some s) ∉ set) :
    set.mapM Column.coerce = .ok set := by
  induction set with
  | nil => rfl
  | cons c set ih =>
    have hc : c.coerce = .ok c :=
      Column.coerce_wide fun s hs => h s (hs ▸ List.mem_cons_self)
    have htail := ih fun s hs => h s (List.mem_cons_of_mem _ hs)
    rw [List.mapM_cons, hc, htail]
    rfl

theorem nonZero_noUsername {u : UserFields} (h : u.username = none) (s : String) :
    .username (some s) ∉ u.nonZero := by
  simp only [UserFields.nonZero, h, List.mem_append, not_or]
  refine ⟨⟨⟨⟨⟨?_, ?_⟩, ?_⟩, ?_⟩, ?_⟩, ?_⟩ <;> split <;> simp

/-! ## What a statement does -/

namespace UsersTable

variable {t t' : UsersTable} {now : Time} {newID : Uuid}

theorem query_selectFirst {conds : List Condition} {x : Option User}
    (h : t.query now newID (.selectFirst conds) = .ok (x, t')) : x = t.first conds ∧ t' = t := by
  unfold query at h
  dsimp only at h
  split at h
  · cases h
  · obtain ⟨rfl, rfl⟩ := Prod.mk.inj (Except.ok.inj h)
    exact ⟨rfl, rfl⟩

theorem query_insert {u : UserFields} {x : User}
    (h : t.query now newID (.insert u) = .ok (x, t')) :
    x = u.row newID now ∧ t'.rows = t.rows ++ [x] := by
  obtain ⟨t'', hcommit, hx⟩ := except_map_ok h
  obtain ⟨rfl, rfl⟩ := Prod.mk.inj hx
  exact ⟨rfl, commit_ok_rows hcommit⟩

theorem query_update {conds : List Condition} {set : List Column} {x : Time}
    (h : t.query now newID (.update conds set) = .ok (x, t')) :
    x = now ∧ ∃ set', set.mapM Column.coerce = .ok set' ∧
      t'.rows = t.rows.map (updateRow conds set' now) := by
  unfold query at h
  dsimp only at h
  split at h
  · cases h
  · cases h
  · next set' _ hset =>
    obtain ⟨t'', hcommit, hx⟩ := except_map_ok h
    obtain ⟨rfl, rfl⟩ := Prod.mk.inj hx
    exact ⟨rfl, set', hset, commit_ok_rows hcommit⟩

theorem query_selectFirst_ok (t : UsersTable) (now : Time) (newID : Uuid) (conds : List Condition)
    (hconds : conds.findSome? Condition.invalidText = none) :
    t.query now newID (.selectFirst conds) = .ok (t.first conds, t) := by
  simp only [query, hconds]
  rfl

/-- An UPDATE that keeps the unique columns succeeds. -/
theorem query_update_ok (t : UsersTable) (now : Time) (newID : Uuid) {conds : List Condition}
    {set : List Column} (hconds : conds.findSome? Condition.invalidText = none)
    (hset : set.mapM Column.coerce = .ok set)
    (hid : ∀ r, (assignAll set r).id = r.id)
    (hsub : ∀ r, (assignAll set r).googleSub = r.googleSub)
    (hname : ∀ r, (assignAll set r).username = r.username) :
    ∃ t', t.query now newID (.update conds set) = .ok (now, t') := by
  have hrow {β : Type} {f : User → β} (hf : ∀ r, f (assignAll set r) = f r)
      (hstamp : ∀ r, f { r with updatedAt := now } = f r) (r : User) :
      f (updateRow conds set now r) = f r := by
    unfold updateRow
    split
    · exact (hstamp _).trans (hf r)
    · rfl
  obtain ⟨t', hcommit⟩ := commit_map t (hrow hid fun _ => rfl) (hrow hsub fun _ => rfl)
    (hrow hname fun _ => rfl)
  refine ⟨t', ?_⟩
  simp only [query, hconds, hset, hcommit]
  rfl

theorem query_selectAll {x : List User} (h : t.query now newID .selectAll = .ok (x, t')) :
    x = t.rows.insertionSort (·.createdAt ≤ ·.createdAt) ∧ t' = t := by
  obtain ⟨rfl, rfl⟩ := Prod.mk.inj (Except.ok.inj h)
  exact ⟨rfl, rfl⟩

end UsersTable

/-- The row an UPDATE leaves of a row it selects, whatever its columns store. -/
def Stmt.Rewrites (conds : List Condition) (set : List Column) (r r' : User) : Prop :=
  satisfies conds r = true ∧ ∃ set' now, set.mapM Column.coerce = .ok set' ∧
    r' = { assignAll set' r with updatedAt := now }

/-- The statement edits rows only along `rel` and adds only `fresh` rows. -/
def Stmt.Writes (rel : User → User → Prop) (fresh : User → Prop) : Stmt → Prop
  | .insert u => ∀ newID now, fresh (u.row newID now)
  | .update conds set => ∀ r r', Stmt.Rewrites conds set r r' → rel r r'
  | .selectFirst _ => True
  | .selectAll => True

/-- **What any statement does to the rows.** -/
theorem query_evolves {rel : User → User → Prop} {fresh : User → Prop} (hrel : ∀ r, rel r r)
    {t t' : UsersTable} {now : Time} {newID : Uuid} {q : Stmt} {x : q.Result}
    (hq : q.Writes rel fresh) (h : t.query now newID q = .ok (x, t')) :
    Evolves rel fresh t.rows t'.rows := by
  cases q with
  | selectFirst conds =>
    obtain ⟨-, rfl⟩ := UsersTable.query_selectFirst h
    exact .refl hrel _
  | selectAll =>
    obtain ⟨-, rfl⟩ := UsersTable.query_selectAll h
    exact .refl hrel _
  | insert u =>
    obtain ⟨rfl, hrows⟩ := UsersTable.query_insert h
    rw [hrows]
    exact .append hrel _ (by simpa using hq newID now)
  | update conds set =>
    obtain ⟨rfl, set', hset, hrows⟩ := UsersTable.query_update h
    rw [hrows]
    refine .map _ fun r _ => ?_
    unfold updateRow
    split
    · next hsat => exact hq r _ ⟨hsat, set', _, hset, rfl⟩
    · exact hrel r

end SampleGrpc
