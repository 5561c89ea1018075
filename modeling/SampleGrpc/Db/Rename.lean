import SampleGrpc.Server.Effect

/-!
# Setting a name

The UPDATE of `UpdateUsername`, on a table whose index on `username` is unique: it renames the one
row, or fails because another row has the name, or finds no row.

* `UsersTable.rename` — the table with the row renamed. Its indexes need the name to be free.
* `Renaming`, `execSql_renaming` — all that the statement can do, said once.
-/

namespace SampleGrpc

/-- A row other than `i` has the name. -/
def NameTaken (i : Uuid) (name : Option String) (t : UsersTable) : Prop :=
  name ≠ none ∧ ∃ r ∈ t.rows, r.id ≠ i ∧ r.username = name

instance (i : Uuid) (name : Option String) (t : UsersTable) : Decidable (NameTaken i name t) := by
  unfold NameTaken
  infer_instance

/-- The row `i` is there. -/
def HasId (i : Uuid) (t : UsersTable) : Prop := ∃ r ∈ t.rows, r.id = i

instance (i : Uuid) (t : UsersTable) : Decidable (HasId i t) := by
  unfold HasId
  infer_instance

def User.rename (i : Uuid) (name : Option String) (now : Time) (r : User) : User :=
  if r.id = i then { r with username := name, updatedAt := now } else r

section Rename

variable {i : Uuid} {name : Option String} {now : Time} {r : User}

theorem User.rename_self (h : r.id = i) :
    r.rename i name now = { r with username := name, updatedAt := now } := if_pos h

theorem User.rename_of_ne (h : r.id ≠ i) : r.rename i name now = r := if_neg h

@[simp] theorem User.rename_id (i : Uuid) (name : Option String) (now : Time) (r : User) :
    (r.rename i name now).id = r.id := by
  unfold User.rename
  split <;> rfl

@[simp] theorem User.rename_googleSub (i : Uuid) (name : Option String) (now : Time) (r : User) :
    (r.rename i name now).googleSub = r.googleSub := by
  unfold User.rename
  split <;> rfl

theorem updateRow_rename {text : String} {r : User} (h : Uuid.parse text = some r.id)
    (newName : Option String) (now : Time) : updateRow [.id text] [.username newName] now r =
      { r with username := newName, updatedAt := now } :=
  if_pos (satisfies_idText.mpr h)

theorem updateRow_rename_of_ne {text : String} {r : User} (h : Uuid.parse text ≠ some r.id)
    (newName : Option String) (now : Time) :
    updateRow [.id text] [.username newName] now r = r :=
  if_neg fun hsat => h (satisfies_idText.mp hsat)

/-- The UPDATE renames the row that the text denotes. -/
theorem updateRow_eq_rename {text : String} (hid : Uuid.parse text = some i) :
    updateRow [.id text] [.username name] now = User.rename i name now := by
  funext r
  by_cases hr : r.id = i
  · rw [updateRow_rename (hid.trans (congrArg some hr.symm)), User.rename_self hr]
  · have hne : Uuid.parse text ≠ some r.id := by
      rw [hid]
      exact fun h => hr (Option.some.inj h).symm
    rw [updateRow_rename_of_ne hne, User.rename_of_ne hr]

end Rename

/-! ## The index -/

namespace UsersTable

variable {t : UsersTable} {i : Uuid} {name : Option String}

/-- Renaming one row keeps the names apart, if no other row has the new one. -/
theorem rename_username_nodup (hfree : ¬ NameTaken i name t) (now : Time) :
    ((t.rows.map (User.rename i name now)).filterMap (·.username)).Nodup := by
  have hids : t.rows.Pairwise fun r r' => r.id ≠ r'.id := List.pairwise_map.mp t.id_nodup
  have hnames := List.pairwise_filterMap.mp t.username_nodup
  have hother {s : String} {r : User} (hr : r ∈ t.rows) (hne : r.id ≠ i) (hs : name = some s) :
      r.username ≠ some s := by
    intro h
    subst hs
    exact hfree ⟨by simp, r, hr, hne, h⟩
  rw [List.filterMap_map]
  refine List.pairwise_filterMap.mpr ?_
  refine (hids.and hnames).imp_of_mem fun {r r'} hr hr' hpair => ?_
  intro s hs s' hs' heq
  subst heq
  simp only [Function.comp_apply] at hs hs'
  by_cases hri : r.id = i
  · have hne : r'.id ≠ i := fun h => hpair.1 (hri.trans h.symm)
    rw [User.rename_self hri] at hs
    rw [User.rename_of_ne hne] at hs'
    exact hother hr' hne hs hs'
  · rw [User.rename_of_ne hri] at hs
    by_cases hri' : r'.id = i
    · rw [User.rename_self hri'] at hs'
      exact hother hr hri hs' hs
    · rw [User.rename_of_ne hri'] at hs'
      exact hpair.2 s hs s hs' rfl

def rename (t : UsersTable) (i : Uuid) (name : Option String) (now : Time)
    (hfree : ¬ NameTaken i name t) : UsersTable where
  rows := t.rows.map (User.rename i name now)
  id_nodup := by simpa [Function.comp_def] using t.id_nodup
  googleSub_nodup := by simpa [Function.comp_def] using t.googleSub_nodup
  username_nodup := rename_username_nodup hfree now

/-- The row that has been renamed. -/
theorem mem_rename {r : User} (hr : r ∈ t.rows) (now : Time) (hfree : ¬ NameTaken r.id name t) :
    { r with username := name, updatedAt := now } ∈ (t.rename r.id name now hfree).rows :=
  List.mem_map.mpr ⟨r, hr, User.rename_self rfl⟩

theorem commit_rename (hfree : ¬ NameTaken i name t) (now : Time) :
    commit (t.rows.map (User.rename i name now)) = .ok (t.rename i name now hfree) :=
  commit_of_nodup _ _ _

/-- Both rows would have the name. -/
theorem commit_rename_taken (hrow : HasId i t) (htaken : NameTaken i name t) (now : Time) :
    commit (t.rows.map (User.rename i name now)) =
      .error (uniqueViolation "idx_users_username") := by
  have hid : ((t.rows.map (User.rename i name now)).map (·.id)).Nodup := by
    simpa [Function.comp_def] using t.id_nodup
  have hsub : ((t.rows.map (User.rename i name now)).map (·.googleSub)).Nodup := by
    simpa [Function.comp_def] using t.googleSub_nodup
  have hname : ¬ ((t.rows.map (User.rename i name now)).filterMap (·.username)).Nodup := by
    intro hnodup
    obtain ⟨hne, r', hr', hne', hname'⟩ := htaken
    obtain ⟨s, rfl⟩ := Option.ne_none_iff_exists'.mp hne
    obtain ⟨r, hr, hri⟩ := hrow
    let t' : UsersTable := ⟨_, hid, hsub, hnodup⟩
    have hmem : r.rename i (some s) now ∈ t'.rows := List.mem_map_of_mem hr
    have hmem' : r'.rename i (some s) now ∈ t'.rows := List.mem_map_of_mem hr'
    rw [User.rename_self hri] at hmem
    rw [User.rename_of_ne hne'] at hmem'
    have heq := eq_of_username hmem hmem' rfl hname'
    exact hne' ((congrArg User.id heq).symm.trans hri)
  rw [commit, dif_pos hid, dif_pos hsub, dif_neg hname]

/-- No row is renamed. -/
theorem commit_rename_absent (hrow : ¬ HasId i t) (now : Time) :
    commit (t.rows.map (User.rename i name now)) = .ok t := by
  have hrows : t.rows.map (User.rename i name now) = t.rows := by
    have hsame (r : User) (hr : r ∈ t.rows) : r.rename i name now = id r :=
      User.rename_of_ne fun h => hrow ⟨r, hr, h⟩
    rw [List.map_congr_left hsame, List.map_id]
  rw [hrows]
  exact commit_of_nodup _ _ _

end UsersTable

/-! ## The statement -/

/-- The name as its column stores it. -/
def storedName : Option String → Except DbError (Option String)
  | none => .ok none
  | some s => (varchar30 s).map some

theorem storedName_of_length {s : String} (h : s.length ≤ 30) :
    storedName (some s) = .ok (some s) := by
  rw [storedName, show varchar30 s = .ok s from if_pos h]
  rfl

theorem storedName_error {name : Option String} {err : DbError} (h : storedName name = .error err) :
    err = valueTooLong := by
  cases name with
  | none => cases h
  | some s =>
    simp only [storedName, varchar30] at h
    split at h
    · cases h
    · split at h <;> cases h
      rfl

theorem mapM_coerce_storedName (name : Option String) :
    [Column.username name].mapM Column.coerce =
      (storedName name).map fun stored => [.username stored] := by
  cases name with
  | none => rfl
  | some s =>
    rw [List.mapM_cons, Column.coerce, storedName]
    cases varchar30 s <;> rfl

/-- All that `UPDATE users SET username = name WHERE id = text` can do. -/
inductive Renaming (e : Env) (text : String) (name : Option String) (t : UsersTable) :
    Except DbError Time × UsersTable → Prop where
  | fault {err : DbError} (hfault : e.fault = some err) : Renaming e text name t (.error err, t)
  | invalidId (hfault : e.fault = none) (hid : Uuid.parse text = none) :
      Renaming e text name t (.error (invalidUuid text), t)
  | tooLong {i : Uuid} (hfault : e.fault = none) (hid : Uuid.parse text = some i)
      (hstored : storedName name = .error valueTooLong) :
      Renaming e text name t (.error valueTooLong, t)
  | taken {i : Uuid} {stored : Option String} (hfault : e.fault = none)
      (hid : Uuid.parse text = some i) (hstored : storedName name = .ok stored)
      (hrow : HasId i t) (htaken : NameTaken i stored t) :
      Renaming e text name t (.error (uniqueViolation "idx_users_username"), t)
  | absent {i : Uuid} {stored : Option String} (hfault : e.fault = none)
      (hid : Uuid.parse text = some i) (hstored : storedName name = .ok stored)
      (hrow : ¬ HasId i t) : Renaming e text name t (.ok e.now, t)
  | renamed {i : Uuid} {stored : Option String} (hfault : e.fault = none)
      (hid : Uuid.parse text = some i) (hstored : storedName name = .ok stored)
      (hrow : HasId i t) (hfree : ¬ NameTaken i stored t) :
      Renaming e text name t (.ok e.now, t.rename i stored e.now hfree)

theorem query_rename {text : String} {i : Uuid} {name stored : Option String}
    (hid : Uuid.parse text = some i) (hstored : storedName name = .ok stored) (t : UsersTable)
    (now : Time) (newID : Uuid) :
    t.query now newID (.update [.id text] [.username name]) =
      (commit (t.rows.map (User.rename i stored now))).map fun t' => (now, t') := by
  have hvalid : [Condition.id text].findSome? Condition.invalidText = none := by
    simp [Condition.invalidText, hid]
  have hset : [Column.username name].mapM Column.coerce = .ok [.username stored] := by
    rw [mapM_coerce_storedName, hstored]
    rfl
  simp only [UsersTable.query, hvalid, hset, updateRow_eq_rename hid]
  rfl

/-- **What setting a name does.** -/
theorem execSql_renaming (e : Env) (text : String) (name : Option String) (t : UsersTable) :
    Renaming e text name t (execSql e (.update [.id text] [.username name]) t) := by
  cases hfault : e.fault with
  | some err =>
    simp only [execSql, hfault]
    exact .fault hfault
  | none =>
    cases hid : Uuid.parse text with
    | none =>
      have hinvalid : [Condition.id text].findSome? Condition.invalidText = some text := by
        simp [Condition.invalidText, hid]
      simp only [execSql, hfault, e.db.query_eq, UsersTable.query, hinvalid]
      exact .invalidId hfault hid
    | some i =>
      cases hstored : storedName name with
      | error err =>
        obtain rfl := storedName_error hstored
        have hvalid : [Condition.id text].findSome? Condition.invalidText = none := by
          simp [Condition.invalidText, hid]
        have hset : [Column.username name].mapM Column.coerce = .error valueTooLong := by
          rw [mapM_coerce_storedName, hstored]
          rfl
        simp only [execSql, hfault, e.db.query_eq, UsersTable.query, hvalid, hset]
        exact .tooLong hfault hid hstored
      | ok stored =>
        have hquery := query_rename hid hstored t e.now e.newID
        by_cases hrow : HasId i t
        · by_cases htaken : NameTaken i stored t
          · rw [UsersTable.commit_rename_taken hrow htaken] at hquery
            simp only [execSql, hfault, e.db.query_eq, hquery]
            exact .taken hfault hid hstored hrow htaken
          · rw [UsersTable.commit_rename htaken] at hquery
            simp only [execSql, hfault, e.db.query_eq, hquery]
            exact .renamed hfault hid hstored hrow htaken
        · rw [UsersTable.commit_rename_absent hrow] at hquery
          simp only [execSql, hfault, e.db.query_eq, hquery]
          exact .absent hfault hid hstored hrow

end SampleGrpc
