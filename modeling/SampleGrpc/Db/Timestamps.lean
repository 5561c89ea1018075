import SampleGrpc.Db.Users

/-!
# The table up to its timestamps

Two tables that differ in `created_at` and `updated_at` only, as after the same statements at other
times. The statements of a sign-in do not read these columns, so they answer alike on both and keep
them so (`query_untimed`). `SELECT … ORDER BY created_at` is not one of them.
-/

namespace SampleGrpc

/-- The record without its timestamps. -/
def User.untimed (u : User) : User := { u with createdAt := 0, updatedAt := 0 }

@[simp] theorem User.untimed_id (u : User) : u.untimed.id = u.id := rfl

@[simp] theorem User.untimed_googleSub (u : User) : u.untimed.googleSub = u.googleSub := rfl

@[simp] theorem User.untimed_username (u : User) : u.untimed.username = u.username := rfl

theorem User.id_of_untimed {u u' : User} (h : u.untimed = u'.untimed) : u.id = u'.id := by
  rw [← u.untimed_id, h, User.untimed_id]

theorem User.username_of_untimed {u u' : User} (h : u.untimed = u'.untimed) :
    u.username = u'.username := by
  rw [← u.untimed_username, h, User.untimed_username]

/-- The tables differ in timestamps only. -/
def SameButTimes (t t' : UsersTable) : Prop := t.rows.map User.untimed = t'.rows.map User.untimed

theorem SameButTimes.refl (t : UsersTable) : SameButTimes t t := rfl

/-- What statements give on two such tables: the same error, or alike results. -/
def resultUntimed : (q : Stmt) → q.Result → q.Result → Prop
  | .selectFirst _, x, x' => Option.map User.untimed x = Option.map User.untimed x'
  | .insert _, x, x' => User.untimed x = User.untimed x'
  | .update _ _, _, _ => True
  | .selectAll, _, _ => False

/-! ## What does not read the timestamps -/

@[simp] theorem satisfies_untimed (conds : List Condition) (u : User) :
    satisfies conds u.untimed = satisfies conds u := by
  have hholds : ∀ c : Condition, c.holds u.untimed = c.holds u := by
    intro c
    cases c with
    | id text => rfl
    | column c => cases c <;> rfl
  simp [satisfies, hholds]

@[simp] theorem assignAll_untimed (set : List Column) (u : User) :
    (assignAll set u).untimed = assignAll set u.untimed := by
  induction set generalizing u with
  | nil => rfl
  | cons c set ih =>
    have hc : (c.assign u).untimed = c.assign u.untimed := by cases c <;> rfl
    rw [assignAll, List.foldl_cons, ← assignAll, ih, hc]
    rfl

theorem updateRow_untimed (conds : List Condition) (set : List Column) (now : Time) (u : User) :
    (updateRow conds set now u).untimed = if satisfies conds u.untimed then
      (assignAll set u.untimed).untimed else u.untimed := by
  unfold updateRow
  by_cases h : satisfies conds u = true
  · simp only [h, if_true, satisfies_untimed, ← assignAll_untimed]
    rfl
  · simp [h]

/-- Mapping by a function that keeps the key maps the row with the least key. -/
theorem argmin_map {α β γ : Type} [LinearOrder γ] {f : α → β} {g : α → γ} {g' : β → γ}
    (h : ∀ a, g' (f a) = g a) (l : List α) : (l.map f).argmin g' = (l.argmin g).map f := by
  induction l with
  | nil => rfl
  | cons a l ih =>
    rw [List.map_cons, List.argmin_cons, List.argmin_cons, ih]
    cases l.argmin g with
    | none => rfl
    | some b =>
      simp only [Option.map_some, h]
      by_cases hlt : g b < g a <;> simp [hlt]

theorem first_untimed (t : UsersTable) (conds : List Condition) :
    (t.first conds).map User.untimed =
      ((t.rows.map User.untimed).filter (satisfies conds)).argmin (·.id) := by
  rw [UsersTable.first, List.filter_map, ← argmin_map (fun u => User.untimed_id u)]
  congr 2
  apply List.filter_congr
  intro u _
  simp

/-- The unique indexes are not on timestamps. -/
theorem commit_untimed {rows rows' : List User}
    (h : rows.map User.untimed = rows'.map User.untimed) :
    (∃ err, commit rows = .error err ∧ commit rows' = .error err) ∨
      ∃ t t', commit rows = .ok t ∧ commit rows' = .ok t' ∧ SameButTimes t t' := by
  have hid : rows.map (·.id) = rows'.map (·.id) := by
    simpa [Function.comp_def] using congrArg (List.map (·.id)) h
  have hsub : rows.map (·.googleSub) = rows'.map (·.googleSub) := by
    simpa [Function.comp_def] using congrArg (List.map (·.googleSub)) h
  have hname : rows.filterMap (·.username) = rows'.filterMap (·.username) := by
    simpa [List.filterMap_map, Function.comp_def] using congrArg (List.filterMap (·.username)) h
  by_cases h₁ : (rows.map (·.id)).Nodup
  · by_cases h₂ : (rows.map (·.googleSub)).Nodup
    · by_cases h₃ : (rows.filterMap (·.username)).Nodup
      · exact Or.inr ⟨_, _, commit_of_nodup h₁ h₂ h₃,
          commit_of_nodup (hid ▸ h₁) (hsub ▸ h₂) (hname ▸ h₃), h⟩
      · have h₃' : ¬ (rows'.filterMap (·.username)).Nodup := hname ▸ h₃
        exact Or.inl ⟨uniqueViolation "idx_users_username", by simp [commit, h₁, h₂, h₃],
          by simp [commit, hid ▸ h₁, hsub ▸ h₂, h₃']⟩
    · have h₂' : ¬ (rows'.map (·.googleSub)).Nodup := hsub ▸ h₂
      exact Or.inl ⟨uniqueViolation "idx_users_google_sub", by simp [commit, h₁, h₂],
        by simp [commit, hid ▸ h₁, h₂']⟩
  · have h₁' : ¬ (rows'.map (·.id)).Nodup := hid ▸ h₁
    exact Or.inl ⟨uniqueViolation "users_pkey", by simp [commit, h₁], by simp [commit, h₁']⟩

/-- **A statement other than the listing answers alike on tables that differ in timestamps.** -/
theorem query_untimed {t t' : UsersTable} (h : SameButTimes t t') (now now' : Time) (newID : Uuid)
    {q : Stmt} (hq : q ≠ .selectAll) :
    (∃ err, t.query now newID q = .error err ∧ t'.query now' newID q = .error err) ∨
      ∃ x x' t₁ t₁', t.query now newID q = .ok (x, t₁) ∧ t'.query now' newID q = .ok (x', t₁') ∧
        resultUntimed q x x' ∧ SameButTimes t₁ t₁' := by
  cases q with
  | selectFirst conds =>
    cases hinv : conds.findSome? Condition.invalidText with
    | some text => exact Or.inl ⟨invalidUuid text, by simp [UsersTable.query, hinv],
        by simp [UsersTable.query, hinv]⟩
    | none =>
      right
      refine ⟨_, _, t, t', UsersTable.query_selectFirst_ok t now newID conds hinv,
        UsersTable.query_selectFirst_ok t' now' newID conds hinv, ?_, h⟩
      show (t.first conds).map User.untimed = (t'.first conds).map User.untimed
      rw [first_untimed, first_untimed, h]
  | insert u =>
    have hrows : (t.rows ++ [u.row newID now]).map User.untimed =
        (t'.rows ++ [u.row newID now']).map User.untimed := by
      rw [List.map_append, List.map_append, h]
      rfl
    rcases commit_untimed hrows with ⟨err, h₁, h₂⟩ | ⟨t₁, t₁', h₁, h₂, hsame⟩
    · exact Or.inl ⟨err, by simp [UsersTable.query, h₁, Except.map],
        by simp [UsersTable.query, h₂, Except.map]⟩
    · exact Or.inr ⟨u.row newID now, u.row newID now', t₁, t₁',
        by simp [UsersTable.query, h₁, Except.map], by simp [UsersTable.query, h₂, Except.map],
        rfl, hsame⟩
  | update conds set =>
    cases hinv : conds.findSome? Condition.invalidText with
    | some text => exact Or.inl ⟨invalidUuid text, by simp [UsersTable.query, hinv],
        by simp [UsersTable.query, hinv]⟩
    | none =>
      cases hset : set.mapM Column.coerce with
      | error err => exact Or.inl ⟨err, by simp [UsersTable.query, hinv, hset],
          by simp [UsersTable.query, hinv, hset]⟩
      | ok set' =>
        have hrows : (t.rows.map (updateRow conds set' now)).map User.untimed =
            (t'.rows.map (updateRow conds set' now')).map User.untimed := by
          have hmap : ∀ (rows : List User) (n : Time),
              (rows.map (updateRow conds set' n)).map User.untimed =
                (rows.map User.untimed).map fun u => if satisfies conds u then
                  (assignAll set' u).untimed else u := by
            intro rows n
            rw [List.map_map, List.map_map]
            apply List.map_congr_left
            intro u _
            exact updateRow_untimed conds set' n u
          rw [hmap, hmap, h]
        rcases commit_untimed hrows with ⟨err, h₁, h₂⟩ | ⟨t₁, t₁', h₁, h₂, hsame⟩
        · exact Or.inl ⟨err, by simp [UsersTable.query, hinv, hset, h₁, Except.map],
            by simp [UsersTable.query, hinv, hset, h₂, Except.map]⟩
        · exact Or.inr ⟨now, now', t₁, t₁', by simp [UsersTable.query, hinv, hset, h₁, Except.map],
            by simp [UsersTable.query, hinv, hset, h₂, Except.map], trivial, hsame⟩
  | selectAll => exact absurd rfl hq

end SampleGrpc
