import SampleGrpc.Db.Users

/-!
# The database

What is granted of PostgreSQL: the effect of the statements on the users table, as laws. They
determine the effect of every statement (`query_eq`), so that what is proved of the table holds of
any database with these laws; the table itself is one (`table`).
-/

namespace SampleGrpc

/-- A database: what a statement makes of a table at some time, with the UUID that an INSERT draws,
and what is granted of it. -/
structure Postgres where
  query : UsersTable → Time → Uuid → (q : Stmt) → Except DbError (q.Result × UsersTable)
  /-- A value as its column stores it. -/
  store : Column → Except DbError Column
  /-- Only user names have a column of limited width, `varchar(30)`. -/
  store_wide : ∀ {c}, (∀ s, c ≠ .username (some s)) → store c = .ok c
  store_short : ∀ {s : String}, s.length ≤ 30 →
    store (.username (some s)) = .ok (.username (some s))
  /-- What is too long is cut if only blanks are lost. -/
  store_blanks : ∀ {s : String}, 30 < s.length → (∀ c ∈ s.toList.drop 30, c = ' ') →
    store (.username (some s)) = .ok (.username (some (String.ofList (s.toList.take 30))))
  store_long : ∀ {s : String}, 30 < s.length → (∃ c ∈ s.toList.drop 30, c ≠ ' ') →
    store (.username (some s)) = .error valueTooLong
  /-- `ORDER BY id LIMIT 1` gives the row with the least identifier among those selected. -/
  selectFirst_valid : ∀ {t now newID conds}, conds.findSome? Condition.invalidText = none →
    query t now newID (.selectFirst conds) = .ok (t.first conds, t)
  /-- A text that is no UUID is not compared with one. -/
  selectFirst_invalid : ∀ {t now newID conds text},
    conds.findSome? Condition.invalidText = some text →
      query t now newID (.selectFirst conds) = .error (invalidUuid text)
  /-- `ORDER BY created_at`; rows of one time come in the order of the table. -/
  selectAll_sorted : ∀ {t now newID},
    query t now newID .selectAll = .ok (t.rows.insertionSort (·.createdAt ≤ ·.createdAt), t)
  /-- A row with the drawn identifier and the time is added, if the unique indexes admit it. -/
  insert_commits : ∀ {t now newID u}, query t now newID (.insert u) =
    (commit (t.rows ++ [u.row newID now])).map fun t' => (u.row newID now, t')
  /-- The selected rows get the values as stored and the time, if the unique indexes admit it. -/
  update_commits : ∀ {t now newID conds set set'},
    conds.findSome? Condition.invalidText = none → set.mapM store = .ok set' →
      query t now newID (.update conds set) =
        (commit (t.rows.map (updateRow conds set' now))).map fun t' => (now, t')
  update_unstored : ∀ {t now newID conds set err},
    conds.findSome? Condition.invalidText = none → set.mapM store = .error err →
      query t now newID (.update conds set) = .error err
  update_invalid : ∀ {t now newID conds set text},
    conds.findSome? Condition.invalidText = some text →
      query t now newID (.update conds set) = .error (invalidUuid text)

theorem varchar30_blanks {s : String} (hlong : 30 < s.length)
    (hblank : ∀ c ∈ s.toList.drop 30, c = ' ') :
    varchar30 s = .ok (String.ofList (s.toList.take 30)) := by
  rw [varchar30, if_neg (by omega), if_pos]
  exact List.all_eq_true.mpr fun c hc => decide_eq_true (hblank c hc)

theorem varchar30_long {s : String} (hlong : 30 < s.length)
    (hother : ∃ c ∈ s.toList.drop 30, c ≠ ' ') : varchar30 s = .error valueTooLong := by
  obtain ⟨c, hc, hne⟩ := hother
  rw [varchar30, if_neg (by omega), if_neg]
  intro hall
  exact hne (of_decide_eq_true (List.all_eq_true.mp hall c hc))

namespace Postgres

theorem store_eq (D : Postgres) : D.store = Column.coerce := by
  funext c
  by_cases hname : ∃ s, c = .username (some s)
  · obtain ⟨s, rfl⟩ := hname
    show _ = (varchar30 s).map _
    by_cases hshort : s.length ≤ 30
    · rw [D.store_short hshort, varchar30, if_pos hshort]
      rfl
    · have hlong : 30 < s.length := Nat.lt_of_not_le hshort
      by_cases hblank : ∀ c ∈ s.toList.drop 30, c = ' '
      · rw [D.store_blanks hlong hblank, varchar30_blanks hlong hblank]
        rfl
      · push Not at hblank
        rw [D.store_long hlong hblank, varchar30_long hlong hblank]
        rfl
  · push Not at hname
    rw [D.store_wide hname, Column.coerce_wide hname]

/-- **The laws determine the database.** -/
theorem query_eq (D : Postgres) (t : UsersTable) (now : Time) (newID : Uuid) (q : Stmt) :
    D.query t now newID q = t.query now newID q := by
  cases q with
  | selectFirst conds =>
    cases hconds : conds.findSome? Condition.invalidText with
    | none => rw [D.selectFirst_valid hconds, t.query_selectFirst_ok now newID conds hconds]
    | some text => rw [D.selectFirst_invalid hconds, UsersTable.query, hconds]
  | insert u => exact D.insert_commits
  | update conds set =>
    cases hconds : conds.findSome? Condition.invalidText with
    | some text => rw [D.update_invalid hconds, UsersTable.query, hconds]
    | none =>
      cases hset : set.mapM Column.coerce with
      | error err =>
        rw [D.update_unstored hconds (D.store_eq ▸ hset), UsersTable.query, hconds, hset]
      | ok set' =>
        rw [D.update_commits hconds (D.store_eq ▸ hset)]
        simp only [UsersTable.query, hconds, hset]
        rfl
  | selectAll => exact D.selectAll_sorted

/-- The users table is such a database. -/
def table : Postgres where
  query t now newID q := t.query now newID q
  store := Column.coerce
  store_wide := Column.coerce_wide
  store_short {s} h := by
    show (varchar30 s).map _ = _
    rw [varchar30, if_pos h]
    rfl
  store_blanks {s} h hblank := by
    show (varchar30 s).map _ = _
    rw [varchar30_blanks h hblank]
    rfl
  store_long {s} h hother := by
    show (varchar30 s).map _ = _
    rw [varchar30_long h hother]
    rfl
  selectFirst_valid {t now newID conds} h := t.query_selectFirst_ok now newID conds h
  selectFirst_invalid h := by rw [UsersTable.query, h]
  selectAll_sorted := rfl
  insert_commits := rfl
  update_commits h hset := by
    simp only [UsersTable.query, h, hset]
    rfl
  update_unstored h hset := by rw [UsersTable.query, h, hset]
  update_invalid h := by rw [UsersTable.query, h]

end Postgres

end SampleGrpc
