import SampleGrpc.Auth.Upsert

/-!
# The attempts at a handle

`UpsertUser` with a generator that is a parameter, as in the source: `upsertUserWith` is
`upsertUser` for a generator in any monad that the database layer lifts to. With a generator that
counts its calls (`nthCandidate`) it says which candidate the user gets, and how many were drawn.

* `assignHandle_attempted` — the retry loop.
* `upsertUser_handle` — the first of ten candidates that no other row has, or none.
-/

namespace SampleGrpc

open Prog

/-! ## Any generator -/

section Generator

variable {m : Type → Type} [Monad m] [MonadLiftT Srv m]

/-- The attempts at an initial handle. -/
def assignHandleWith (generateUsername : m String) (id : String) :
    Nat → m (Except DbLayerError User)
  | 0 => getUserByID id
  | n + 1 => do
    let candidate ← generateUsername
    match ← updateUsername id candidate with
    | .ok updated => return .ok updated
    | .error _ => assignHandleWith generateUsername id n

def upsertUserWith (googleSub email displayName pictureURL : String) (generateUsername : m String) :
    m (Except DbLayerError User) := do
  let pic := if pictureURL ≠ "" then some pictureURL else none
  let u ← firstOrCreate { googleSub } { email, displayName, pictureURL := pic }
    { googleSub, email, displayName, pictureURL := pic }
  match u with
  | .error err => return .error (.wrap "upsert user" (.driver err))
  | .ok u =>
    if u.username = none then assignHandleWith generateUsername u.id.text 10
    else return .ok u

end Generator

/-- For the server's generator it is the same loop. -/
theorem assignHandleWith_eq (generateUsername : Srv String) (id : String) (n : Nat) :
    assignHandleWith generateUsername id n = assignHandle generateUsername id n := by
  induction n with
  | zero => rfl
  | succ n ih =>
    rw [assignHandle_succ, assignHandleWith]
    congr 1
    funext candidate
    show updateUsername id candidate >>= _ = _
    congr 1
    funext res
    cases res with
    | ok updated => rfl
    | error err => exact ih

theorem upsertUserWith_eq (googleSub email displayName pictureURL : String)
    (generateUsername : Srv String) :
    upsertUserWith googleSub email displayName pictureURL generateUsername =
      upsertUser googleSub email displayName pictureURL generateUsername := by
  rw [upsertUserWith, upsertUser]
  simp only [assignHandleWith_eq]
  rfl

/-! ## A generator that counts -/

/-- The next of the candidates. -/
def nthCandidate (candidates : ℕ → String) : StateT ℕ Srv String :=
  fun k => return (candidates k, k + 1)

variable {candidates : ℕ → String}

/-- An attempt after its `UpdateUsername`, with `k` candidates drawn. -/
def countReply (candidates : ℕ → String) (id : String) (n k : ℕ) :
    Except DbLayerError User → Srv (Except DbLayerError User × ℕ)
  | .ok updated => return (.ok updated, k)
  | .error _ => (assignHandleWith (nthCandidate candidates) id n).run k

theorem assignHandle_count_zero (candidates : ℕ → String) (id : String) (k : ℕ) :
    (assignHandleWith (nthCandidate candidates) id 0).run k =
      getUserByID id >>= fun res => .ret (res, k) := rfl

theorem assignHandle_count_succ (candidates : ℕ → String) (id : String) (n k : ℕ) :
    (assignHandleWith (nthCandidate candidates) id (n + 1)).run k =
      updateUsername id (candidates k) >>= countReply candidates id n (k + 1) := by
  show (updateUsername id (candidates k) >>= fun res => .ret (res, k + 1)) >>= _ = _
  rw [bind_assoc]
  congr 1
  funext res
  cases res <;> rfl

/-! ## The loop -/

variable {es : ℕ → Env} {t : UsersTable} {r : User}

/-- An attempt that no fault strikes fails because the name is taken, or sets it. -/
theorem updateUsername_quiet (hes : ∀ i, (es i).fault = none) (hr : r ∈ t.rows) {name : String}
    (hne : name ≠ "") (hlen : name.length ≤ 30) :
    (NameTaken r.id (some name) t ∧
      ∃ err, (play exec (updateUsername r.id.text name) es t).1 = .error err ∧
        (play exec (updateUsername r.id.text name) es t).2.1 = t) ∨
    (¬ NameTaken r.id (some name) t ∧ ∃ now,
      (play exec (updateUsername r.id.text name) es t).1 =
        .ok { r with username := some name, updatedAt := now } ∧
      (play exec (updateUsername r.id.text name) es t).2.1.rows =
        t.rows.map (replaceUser { r with username := some name, updatedAt := now })) := by
  have hparse := Uuid.parse_text r.id
  have hrequested : requestedName name = some name := if_pos hne
  have hstored := storedName_of_length hlen
  have hrenaming := execSql_renameStmt (es 0) r.id.text name t
  obtain ⟨err, hexec, hres, htable⟩ | ⟨stamp, t₁, hexec, hres, htable⟩ :=
    updateUsername_play r.id.text name es t
  all_goals rw [hrequested, hexec] at hrenaming
  · refine .inl ⟨?_, _, hres, htable⟩
    cases hrenaming with
    | fault hfault => simp [hes 0] at hfault
    | invalidId hfault hid => simp [hparse] at hid
    | tooLong hfault hid hlong => simp [hstored] at hlong
    | taken hfault hid hstored' hrow htaken =>
      obtain rfl := Option.some.inj (hparse.symm.trans hid)
      obtain rfl := Except.ok.inj (hstored.symm.trans hstored')
      exact htaken
  · cases hrenaming with
    | absent hfault hid hstored' hrow =>
      exact absurd ⟨r, hr, Option.some.inj (hparse.symm.trans hid)⟩ hrow
    | renamed hfault hid hstored' hrow hfree =>
      obtain rfl := Option.some.inj (hparse.symm.trans hid)
      obtain rfl := Except.ok.inj (hstored.symm.trans hstored')
      refine .inr ⟨hfree, (es 0).now, ?_, htable ▸ rename_rows hr (es 0).now hfree⟩
      rw [hres, select_idText (hes 1) (UsersTable.mem_rename hr (es 0).now hfree) hparse]
      rfl

/-- The outcome of `n` attempts after `k`: the first candidate that no other row has is the name,
and the last one drawn. -/
structure Attempted (i : Uuid) (candidates : ℕ → String) (t : UsersTable) (k n : ℕ)
    (name : Option String) (drawn : ℕ) : Prop where
  first : ∀ j < n, (∀ j' < j, NameTaken i (some (candidates (k + j'))) t) →
    ¬ NameTaken i (some (candidates (k + j))) t →
      name = some (candidates (k + j)) ∧ drawn = k + (j + 1)
  exhausted : (∀ j < n, NameTaken i (some (candidates (k + j))) t) → name = none ∧ drawn = k + n

theorem Attempted.of_free {i : Uuid} {k n : ℕ} (hfree : ¬ NameTaken i (some (candidates k)) t) :
    Attempted i candidates t k (n + 1) (some (candidates k)) (k + 1) where
  first := by
    intro j _ hbefore _
    cases j with
    | zero => exact ⟨rfl, rfl⟩
    | succ j => exact absurd (hbefore 0 j.succ_pos) hfree
  exhausted := fun htaken => absurd (htaken 0 n.succ_pos) hfree

theorem Attempted.of_taken {i : Uuid} {k n drawn : ℕ} {name : Option String}
    (htaken : NameTaken i (some (candidates k)) t)
    (h : Attempted i candidates t (k + 1) n name drawn) :
    Attempted i candidates t k (n + 1) name drawn where
  first := by
    intro j hj hbefore hfree
    cases j with
    | zero => exact absurd htaken hfree
    | succ j =>
      have hshift (j : ℕ) : k + 1 + j = k + (j + 1) := by omega
      have hfirst := h.first j (by omega) (fun j' hj' => hshift j' ▸ hbefore (j' + 1) (by omega))
        (hshift j ▸ hfree)
      rw [hshift] at hfirst
      exact ⟨hfirst.1, by omega⟩
  exhausted := by
    intro hall
    obtain ⟨hname, hdrawn⟩ := h.exhausted fun j hj =>
      (show k + (j + 1) = k + 1 + j by omega) ▸ hall (j + 1) (by omega)
    exact ⟨hname, by omega⟩

/-- **The retry loop.** -/
theorem assignHandle_attempted (hcandidates : ∀ k, candidates k ≠ "" ∧ (candidates k).length ≤ 30)
    (hes : ∀ i, (es i).fault = none) (hr : r ∈ t.rows) (hnull : r.username = none) (n k : ℕ) :
    ∃ u drawn, (play exec ((assignHandleWith (nthCandidate candidates) r.id.text n).run k)
        es t).1 = (.ok u, drawn) ∧ OnlyRenamed r u ∧
      (play exec ((assignHandleWith (nthCandidate candidates) r.id.text n).run k) es t).2.1.rows =
        t.rows.map (replaceUser u) ∧ Attempted r.id candidates t k n u.username drawn := by
  induction n generalizing es k with
  | zero =>
    have hread := exec_readsOnly (q := .sql (.selectFirst [.id r.id.text])) trivial (es 0) t
    have hself := map_replaceKey_of_mem t.id_nodup hr
    refine ⟨r, k, ?_, .refl r, ?_, fun j hj => absurd hj j.not_lt_zero, fun _ => ⟨hnull, rfl⟩⟩
    · rw [assignHandle_count_zero, getUserByID_eq]
      show (getReply r.id.text (execSql (es 0) (.selectFirst [.id r.id.text]) t).1, k) = _
      rw [select_idText (hes 0) hr (Uuid.parse_text r.id)]
      rfl
    · rw [assignHandle_count_zero, getUserByID_eq]
      exact (congrArg UsersTable.rows hread).trans hself.symm
  | succ n ih =>
    rw [assignHandle_count_succ, play_bind]
    obtain ⟨hne, hlen⟩ := hcandidates k
    have hrest : ∀ i, ((play exec (updateUsername r.id.text (candidates k)) es t).2.2 i).fault =
        none := play_rest (P := fun e : Env => e.fault = none) hes _ t
    obtain ⟨htaken, err, hres, htable⟩ | ⟨hfree, now, hres, hrows⟩ :=
      updateUsername_quiet hes hr hne hlen
    · rw [hres, htable]
      obtain ⟨u, drawn, hloop, honly, hrows, hattempted⟩ := ih hrest (k + 1)
      exact ⟨u, drawn, hloop, honly, hrows, hattempted.of_taken htaken⟩
    · rw [hres]
      exact ⟨_, _, rfl, ⟨_, now, rfl⟩, hrows, .of_free hfree⟩

/-! ## The upsert -/

/-- The rows of the others are the same, so the same names are taken. -/
theorem nameTaken_replace_iff {u : User} {i : Uuid} {name : Option String} {t' : UsersTable}
    (hid : u.id = i) (hrows : t'.rows = t.rows.map (replaceUser u)) :
    NameTaken i name t' ↔ NameTaken i name t := by
  subst hid
  unfold NameTaken
  rw [hrows]
  refine and_congr_right fun _ => ⟨fun h => ?_, fun h => ?_⟩
  · obtain ⟨r', hr', hne, hname⟩ := h
    exact ⟨r', (mem_map_replaceKey_iff_of_ne hne).mp hr', hne, hname⟩
  · obtain ⟨r', hr', hne, hname⟩ := h
    exact ⟨r', (mem_map_replaceKey_iff_of_ne hne).mpr hr', hne, hname⟩

theorem Attempted.congr {i : Uuid} {k n drawn : ℕ} {name : Option String} {t' : UsersTable}
    (hsame : ∀ name, NameTaken i name t' ↔ NameTaken i name t)
    (h : Attempted i candidates t' k n name drawn) : Attempted i candidates t k n name drawn where
  first := by simpa only [hsame] using h.first
  exhausted := by simpa only [hsame] using h.exhausted

/-- `UpsertUser` with a generator that counts, after `FirstOrCreate`. -/
def countHandleReply (candidates : ℕ → String) :
    Except DbError User → Srv (Except DbLayerError User × ℕ)
  | .error err => return (.error (.wrap "upsert user" (.driver err)), 0)
  | .ok u =>
    if u.username = none then
      (assignHandleWith (nthCandidate candidates) u.id.text 10).run 0
    else return (.ok u, 0)

theorem upsertUser_count (candidates : ℕ → String) (sub email displayName pictureURL : String) :
    (upsertUserWith sub email displayName pictureURL (nthCandidate candidates)).run 0 =
      firstOrCreateUser sub email displayName pictureURL >>= countHandleReply candidates := by
  show (firstOrCreateUser sub email displayName pictureURL >>= fun res => .ret (res, 0)) >>= _ = _
  rw [bind_assoc]
  congr 1
  funext res
  cases res with
  | error err => rfl
  | ok u =>
    show StateT.run (if u.username = none then _ else _) 0 = _
    rw [countHandleReply]
    split <;> rfl

namespace Sample

/-- Ada, who has no name, and Grace. -/
def namelessWithGrace : UsersTable where
  rows := [{ ada with username := none },
    { ada with id := 8, googleSub := "2", username := some "grace_h" }]
  id_nodup := by decide +kernel
  googleSub_nodup := by decide +kernel
  username_nodup := by decide +kernel

end Sample

/-- **The handle of an upsert.** A user without a name gets the first of ten candidates that no
other row has, and no candidate is drawn after it; if other rows have them all, the upsert succeeds
without a name. The row is replaced by the record returned, and no other row is changed. -/
theorem upsertUser_handle {sub : String} {row : User}
    (hcandidates : ∀ k, candidates k ≠ "" ∧ (candidates k).length ≤ 30)
    (hes : ∀ i, (es i).fault = none) (hfirst : t.first (subjectConds sub) = some row)
    (hnull : row.username = none) (email displayName pictureURL : String) :
    ∃ u drawn t' rest, play exec ((upsertUserWith sub email displayName pictureURL
        (nthCandidate candidates)).run 0) es t = ((.ok u, drawn), t', rest) ∧
      u.id = row.id ∧ t'.rows = t.rows.map (replaceUser u) ∧
      (∀ j < 10, (∀ j' < j, NameTaken row.id (some (candidates j')) t) →
        ¬ NameTaken row.id (some (candidates j)) t →
          u.username = some (candidates j) ∧ drawn = j + 1) ∧
      ((∀ j < 10, NameTaken row.id (some (candidates j)) t) → u.username = none ∧ drawn = 10) := by
  obtain ⟨hrow, -⟩ := UsersTable.first_eq_some hfirst
  obtain ⟨err, -, hfault⟩ | ⟨now, hres, hrows⟩ :=
    firstOrCreate_play es hfirst email displayName pictureURL
  · exact absurd hfault (by simp [hes 0, hes 1])
  · have hrest : ∀ i, ((play exec (firstOrCreateUser sub email displayName pictureURL) es
        t).2.2 i).fault = none := play_rest (P := fun e : Env => e.fault = none) hes _ t
    have hnull' : (refreshed email displayName pictureURL now row).username = none := hnull
    rw [upsertUser_count, play_bind, hres, countHandleReply, if_pos hnull']
    generalize (play exec (firstOrCreateUser sub email displayName pictureURL) es t).2.2 = es₁
      at hrest ⊢
    generalize (play exec (firstOrCreateUser sub email displayName pictureURL) es t).2.1 = t₁
      at hrows ⊢
    have hr : refreshed email displayName pictureURL now row ∈ t₁.rows :=
      hrows ▸ mem_map_replaceKey hrow rfl
    obtain ⟨u, drawn, hloop, honly, hrows', hattempted⟩ :=
      assignHandle_attempted hcandidates hrest hr hnull' 10 0
    have hsame (name : Option String) : NameTaken row.id name t₁ ↔ NameTaken row.id name t :=
      nameTaken_replace_iff (u := refreshed email displayName pictureURL now row) rfl hrows
    obtain ⟨hfirst', hexhausted⟩ := hattempted.congr hsame
    simp only [Nat.zero_add] at hfirst' hexhausted
    refine ⟨u, drawn, _, _, Prod.ext hloop rfl, honly.id, ?_, hfirst', hexhausted⟩
    rw [hrows', hrows]
    exact map_replaceKey_replaceKey honly.id t.rows

/-- Grace has the first candidate. -/
theorem upsertUser_handle_ada : ∃ u, u.username = some "grace_h2" ∧ ∃ t' rest,
    play exec ((upsertUserWith Sample.ada.googleSub "ada@example.com" "Ada" ""
      (nthCandidate fun k => if k = 0 then "grace_h" else "grace_h2")).run 0)
      (fun _ => Sample.env) Sample.namelessWithGrace = ((.ok u, 2), t', rest) := by
  have hcandidates (k : ℕ) : (if k = 0 then "grace_h" else "grace_h2") ≠ "" ∧
      (if k = 0 then "grace_h" else "grace_h2").length ≤ 30 := by
    split <;> decide +kernel
  have hfound : Sample.namelessWithGrace.first (subjectConds Sample.ada.googleSub) =
      some { Sample.ada with username := none } :=
    first_subjectConds (by decide) List.mem_cons_self rfl
  have hquiet (i : ℕ) : ((fun _ => Sample.env : ℕ → Env) i).fault = none := rfl
  obtain ⟨u, drawn, t', rest, hplay, -, -, hfirst, -⟩ :=
    upsertUser_handle hcandidates hquiet hfound rfl "ada@example.com" "Ada" ""
  obtain ⟨hname, rfl⟩ := hfirst 1 (by decide) (by decide +kernel) (by decide +kernel)
  exact ⟨u, hname, t', rest, hplay⟩

end SampleGrpc
