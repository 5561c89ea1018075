import SampleGrpc.Auth.ClearedName

/-!
# A name that many ask for

Any number of users ask for one name at the same time, each by any number of `UpdateProfile`
requests, interleaved statement by statement. The name is nobody's, and no fault strikes. The
handler checks nothing in advance: the unique index decides at the UPDATE, and the answer is read
back afterwards, by which time others have tried.

* `Stage` — how far a request is, given who has the name.
* `contested_step` — what one statement does to the contest.
* `contest_one_winner` — in the end one user has the name, and the answers say so.
-/

namespace SampleGrpc

open Prog

/-! ## The program of a request -/

/-- `UpdateProfile` after `UpdateUsername`, in the handler. -/
def profileAnswer (res : Except DbLayerError User) : Srv (Except Status Response) :=
  profileReply res >>= fun r => .ret (r.map .user)

/-- The reading of the row after the UPDATE. -/
def rereadUser (id : String) : Srv (Except Status Response) :=
  .act (.sql (.selectFirst [.id id])) fun res => profileAnswer (getReply id res)

/-- `UpdateProfile` after its UPDATE. -/
def afterRename (id : String) : Except DbError Time → Srv (Except Status Response)
  | .error err => profileAnswer (.error (updateError err))
  | .ok _ => rereadUser id

theorem handler_updateProfile_eq (J : GolangJwt) (s : Server) {ctx : Context} {claims : Claims}
    {name : String} (hclaims : claimsFromContext ctx = some claims)
    (hvalid : name ≠ "" → usernameRE name = true) :
    handler J s ctx (.updateProfile name) =
      .act (.sql (renameStmt claims.userID name)) (afterRename claims.userID) := by
  show updateProfile ctx name >>= (fun r => .ret (r.map Response.user)) = _
  rw [updateProfile_eq hclaims hvalid, updateUsername_eq, bind_assoc]
  have hk (res : Except DbError Time) :
      updateReply claims.userID res >>= profileAnswer = afterRename claims.userID res := by
    cases res with
    | error err =>
      rw [updateReply_error]
      rfl
    | ok stamp =>
      show getUserByID claims.userID >>= profileAnswer = _
      rw [getUserByID_eq]
      rfl
  exact congrArg (Prog.act _) (funext hk)

def alreadyExists : Status := ⟨.alreadyExists, "username is already taken"⟩

def updateFailed : Status := ⟨.internal, "failed to update profile"⟩

/-- The answer to an UPDATE that the index refuses. -/
theorem updateError_taken :
    updateError (uniqueViolation "idx_users_username") = .errUsernameTaken :=
  if_pos (by decide +kernel)

theorem profileAnswer_error (err : DbLayerError) : profileAnswer (.error err) =
    .ret (.error (if err.is .errUsernameTaken then alreadyExists else updateFailed)) := by
  rw [profileAnswer, profileReply]
  split <;> rfl

/-- An error of `GetUserByID` is not that of a taken name. -/
theorem getReply_is {id : String} {res : Except DbError (Option User)} {err : DbLayerError}
    (h : getReply id res = .error err) : err.is .errUsernameTaken = false := by
  rcases res with dbErr | _ | u
  · obtain rfl := Except.error.inj h
    simp [DbLayerError.is]
  · obtain rfl := Except.error.inj h
    simp [DbLayerError.is]
  · cases h

/-! ## The contest -/

variable {ι : Type}

/-- Who asks, for what, in which table. -/
structure Contest (ι : Type) where
  ctx : ι → Context
  user : ι → Uuid
  name : String
  table : UsersTable
  valid : usernameRE name = true
  claims : ∀ i, ∃ claims, claimsFromContext (ctx i) = some claims ∧
    Uuid.parse claims.userID = some (user i)
  free : ∀ r ∈ table.rows, r.username ≠ some name

namespace Contest

variable (C : Contest ι) (J : GolangJwt) (s : Server)

/-- The request `i`, before it has started. -/
abbrev start (i : ι) : Srv (Except Status Response) :=
  handler J s (C.ctx i) (.updateProfile C.name)

/-- The requests, before any of them has started. -/
abbrev pool : Pool ι Effect Effect.Reply (Except Status Response) UsersTable :=
  requests J s C.ctx (fun _ => .updateProfile C.name) C.table

/-- How far the request `i` is when `w` has the name, and what it answers. -/
inductive Stage (w : Option Uuid) (i : ι) : Srv (Except Status Response) → Prop where
  | waiting : Stage w i (C.start J s i)
  | reading {id : String} (hid : Uuid.parse id = some (C.user i))
      (hw : HasId (C.user i) C.table → w = some (C.user i)) : Stage w i (rereadUser id)
  | won (resp : Response) (hw : w = some (C.user i)) : Stage w i (.ret (.ok resp))
  | lost (hrow : HasId (C.user i) C.table) {w' : Uuid} (hw : w = some w') (hne : w' ≠ C.user i) :
      Stage w i (.ret (.error alreadyExists))
  | unknown (hrow : ¬ HasId (C.user i) C.table) : Stage w i (.ret (.error updateFailed))

/-- Who has the name: nobody yet, or one of those who ask for it. -/
def Held (t : UsersTable) : Option Uuid → Prop
  | none => ∀ r ∈ t.rows, r.username ≠ some C.name
  | some w => HasId w C.table ∧ (∃ i, C.user i = w) ∧
      ∃ r ∈ t.rows, r.id = w ∧ r.username = some C.name

/-- The state of a contest. -/
structure Contested (w : Option Uuid) (c : Pool ι Effect Effect.Reply (Except Status Response)
    UsersTable) : Prop where
  stage : ∀ i, C.Stage J s w i (c.thread i)
  held : C.Held c.state w
  ids : ∀ j, HasId j c.state ↔ HasId j C.table

variable {C J s} {w : Option Uuid} {i : ι}

theorem name_ne_empty : C.name ≠ "" := by
  intro h
  have := usernameRE_length C.valid
  simp [h] at this

theorem requestedName_eq : requestedName C.name = some C.name := if_pos C.name_ne_empty

/-- The requests of a contest are its UPDATEs. -/
theorem start_eq (i : ι) : ∃ id, Uuid.parse id = some (C.user i) ∧
    C.start J s i = .act (.sql (renameStmt id C.name)) (afterRename id) := by
  obtain ⟨claims, hclaims, hid⟩ := C.claims i
  exact ⟨claims.userID, hid, handler_updateProfile_eq J s hclaims fun _ => C.valid⟩

theorem contested_start : C.Contested J s none (C.pool J s) where
  stage _ := .waiting
  held := C.free
  ids _ := Iff.rfl

/-- When the name goes from nobody to a user in the table, the others are where they were. -/
theorem Stage.of_none {p : Srv (Except Status Response)} {u : Uuid}
    (h : C.Stage J s none i p) : C.Stage J s (some u) i p := by
  cases h with
  | waiting => exact .waiting
  | reading hid hw => exact .reading hid fun hrow => by cases hw hrow
  | won resp hw => cases hw
  | lost hrow hw hne => cases hw
  | unknown hrow => exact .unknown hrow

/-! ## One statement -/

variable [DecidableEq ι]
  {c : Pool ι Effect Effect.Reply (Except Status Response) UsersTable} {e : Env}

/-- A statement of request `i` that brings it to a stage and leaves the others in theirs. -/
theorem contested_of_act {w' : Option Uuid} {q : Effect}
    {k : q.Reply → Srv (Except Status Response)} (hq : c.thread i = .act q k)
    (hstage : C.Stage J s w' i (k (exec e q c.state).1))
    (hothers : ∀ j, C.Stage J s w' j (c.thread j)) (hheld : C.Held (exec e q c.state).2 w')
    (hids : ∀ j, HasId j (exec e q c.state).2 ↔ HasId j C.table) :
    C.Contested J s w' (c.step exec i e) where
  stage j := by
    by_cases hij : j = i
    · subst hij
      rwa [Pool.step_thread_self hq]
    · rw [Pool.step_thread_ne hij]
      exact hothers j
  held := by rwa [Pool.step_state hq]
  ids j := by rw [Pool.step_state hq]; exact hids j

theorem hasId_rename {t : UsersTable} {j i : Uuid} {name : Option String} {now : Time}
    (hfree : ¬ NameTaken i name t) : HasId j (t.rename i name now hfree) ↔ HasId j t := by
  unfold HasId UsersTable.rename
  simp

/-- The UPDATE of request `i`. -/
theorem contested_update (h : C.Contested J s w c) (hfault : e.fault = none)
    (hi : c.thread i = C.start J s i) :
    ∃ w', (w = none ∨ w' = w) ∧ C.Contested J s w' (c.step exec i e) := by
  obtain ⟨id, hid, hstart⟩ := C.start_eq (J := J) (s := s) i
  rw [hstart] at hi
  have hrenaming := execSql_renameStmt e id C.name c.state
  rw [requestedName_eq] at hrenaming
  have hstored : storedName (some C.name) = .ok (some C.name) :=
    storedName_of_length (usernameRE_length C.valid).2
  generalize hexec : execSql e (renameStmt id C.name) c.state = x at hrenaming
  replace hexec : exec e (.sql (renameStmt id C.name)) c.state = x := hexec
  cases hrenaming with
  | fault hfault' => rw [hfault] at hfault'; cases hfault'
  | invalidId _ hid' => rw [hid] at hid'; cases hid'
  | tooLong _ _ hstored' => rw [hstored] at hstored'; cases hstored'
  | taken _ hid' hstored' hrow htaken =>
    -- Another has the name, which is why the index refuses it.
    obtain rfl := Option.some.inj (hid.symm.trans hid')
    obtain rfl := Except.ok.inj (hstored.symm.trans hstored')
    obtain ⟨-, r, hr, hne, hname⟩ := htaken
    cases w with
    | none => exact absurd hname (h.held r hr)
    | some w =>
      obtain ⟨-, -, r', hr', rfl, hname'⟩ := h.held
      obtain rfl := UsersTable.eq_of_username hr hr' hname hname'
      refine ⟨some r.id, .inr rfl, contested_of_act hi ?_ h.stage ?_ ?_⟩
      · rw [hexec]
        show C.Stage J s _ i (profileAnswer (.error (updateError _)))
        rw [updateError_taken, profileAnswer_error, if_pos (by decide)]
        exact .lost ((h.ids _).mp hrow) rfl hne
      · rw [hexec]
        exact h.held
      · rw [hexec]
        exact h.ids
  | absent _ hid' hstored' hrow =>
    obtain rfl := Option.some.inj (hid.symm.trans hid')
    refine ⟨w, .inr rfl, contested_of_act hi ?_ h.stage ?_ ?_⟩
    · rw [hexec]
      exact .reading hid fun hrow' => absurd ((h.ids _).mpr hrow') hrow
    · rw [hexec]
      exact h.held
    · rw [hexec]
      exact h.ids
  | renamed _ hid' hstored' hrow hfree =>
    obtain rfl := Option.some.inj (hid.symm.trans hid')
    obtain rfl := Except.ok.inj (hstored.symm.trans hstored')
    have hwin : w = none ∨ some (C.user i) = w := by
      cases w with
      | none => exact .inl rfl
      | some w =>
        obtain ⟨-, -, r, hr, rfl, hname⟩ := h.held
        by_cases hrw : r.id = C.user i
        · exact .inr (congrArg some hrw.symm)
        · exact absurd ⟨by simp, r, hr, hrw, hname⟩ hfree
    have hothers (j : ι) : C.Stage J s (some (C.user i)) j (c.thread j) := by
      obtain rfl | rfl := hwin
      · exact (h.stage j).of_none
      · exact h.stage j
    refine ⟨some (C.user i), hwin, contested_of_act hi ?_ hothers ?_ fun j => ?_⟩
    · rw [hexec]
      exact .reading hid fun _ => rfl
    · rw [hexec]
      obtain ⟨r, hr, hri⟩ := hrow
      refine ⟨(h.ids _).mp ⟨r, hr, hri⟩, ⟨i, rfl⟩, ?_⟩
      exact ⟨_, List.mem_map_of_mem hr, by rw [User.rename_id, hri], by rw [User.rename_self hri]⟩
    · rw [hexec]
      exact (hasId_rename hfree).trans (h.ids j)

/-- The reading of the row after it. -/
theorem contested_reread (h : C.Contested J s w c) (hfault : e.fault = none) {id : String}
    (hid : Uuid.parse id = some (C.user i))
    (hw : HasId (C.user i) C.table → w = some (C.user i)) (hi : c.thread i = rereadUser id) :
    C.Contested J s w (c.step exec i e) := by
  have hread : (exec e (.sql (.selectFirst [.id id])) c.state).2 = c.state :=
    exec_readsOnly (q := .sql (.selectFirst [.id id])) trivial e c.state
  refine contested_of_act hi ?_ h.stage (by rw [hread]; exact h.held) (by rw [hread]; exact h.ids)
  show C.Stage J s w i (profileAnswer (getReply id (execSql e (.selectFirst [.id id]) c.state).1))
  by_cases hrow : HasId (C.user i) C.table
  · obtain ⟨r, hr, hri⟩ := (h.ids _).mpr hrow
    rw [select_idText hfault hr (hri.symm ▸ hid)]
    exact .won _ (hw hrow)
  · have hreply : ∃ err, getReply id (execSql e (.selectFirst [.id id]) c.state).1 = .error err ∧
        err.is .errUsernameTaken = false := by
      cases hres : getReply id (execSql e (.selectFirst [.id id]) c.state).1 with
      | ok u =>
        obtain ⟨hmem, hid'⟩ := of_getReply hres
        exact absurd ((h.ids _).mp ⟨u, hmem, Option.some.inj (hid'.symm.trans hid)⟩) hrow
      | error err => exact ⟨err, rfl, getReply_is hres⟩
    obtain ⟨err, herr, hnot⟩ := hreply
    rw [herr, profileAnswer_error, if_neg (by simp [hnot])]
    exact .unknown hrow

/-- **One statement of a contest**: the name goes to a user if nobody had it, and stays. -/
theorem contested_step (h : C.Contested J s w c) (hfault : e.fault = none) (i : ι) :
    ∃ w', (w = none ∨ w' = w) ∧ C.Contested J s w' (c.step exec i e) := by
  have hstage := h.stage i
  generalize hp : c.thread i = p at hstage
  cases hstage with
  | waiting => exact contested_update h hfault hp
  | reading hid hw => exact ⟨w, .inr rfl, contested_reread h hfault hid hw hp⟩
  | won | lost | unknown => exact ⟨w, .inr rfl, by rwa [Pool.step_of_ret hp]⟩

/-! ## Any schedule -/

theorem contested_exec {sched : List (ι × Env)} (hquiet : ∀ x ∈ sched, x.2.fault = none) :
    ∃ w, C.Contested J s w ((C.pool J s).exec exec sched) := by
  refine Pool.exec_invariant (P := fun _ _ e => e.fault = none)
    (fun c => ∃ w, C.Contested J s w c) (fun c i e hfault hc => ?_)
    (Pool.along_of_mem (fun x hx _ => hquiet x hx) _) ⟨none, contested_start⟩
  obtain ⟨w, h⟩ := hc
  obtain ⟨w', -, h'⟩ := contested_step h hfault i
  exact ⟨w', h'⟩

omit [DecidableEq ι] in
/-- A request that has returned, when `w` has the name. -/
theorem Stage.of_returned {res : Except Status Response} (h : C.Stage J s w i (.ret res)) :
    (∃ resp, res = .ok resp ∧ w = some (C.user i)) ∨
      (HasId (C.user i) C.table ∧ res = .error alreadyExists ∧ ∃ w', w = some w' ∧ w' ≠ C.user i) ∨
      (¬ HasId (C.user i) C.table ∧ res = .error updateFailed) := by
  generalize hp : Prog.ret res = p at h
  cases h with
  | waiting =>
    obtain ⟨id, -, hstart⟩ := C.start_eq (J := J) (s := s) i
    rw [hstart] at hp
    cases hp
  | reading => cases hp
  | won resp hw => exact .inl ⟨resp, Prog.ret.inj hp, hw⟩
  | lost hrow hw hne => exact .inr (.inl ⟨hrow, Prog.ret.inj hp, _, hw, hne⟩)
  | unknown hrow => exact .inr (.inr ⟨hrow, Prog.ret.inj hp⟩)

end Contest

/-- **A contested name has one winner.** Any number of requests of any number of users, one of them
at least in the table, ask for a name that nobody has, interleaved by any schedule without faults
until all have returned. Then one of these users has the name; the requests of that user have
succeeded, and those of the others have been told that the name is taken, or that the update has
failed if the table does not have them. -/
theorem contest_one_winner [DecidableEq ι] (C : Contest ι) (J : GolangJwt) (s : Server)
    {sched : List (ι × Env)}
    (hquiet : ∀ x ∈ sched, x.2.fault = none) (hmember : ∃ i, HasId (C.user i) C.table)
    (hdone : ∀ i, ∃ res, (Pool.exec exec (C.pool J s) sched).Returned i res) :
    ∃ w, (∃ i, C.user i = w) ∧
      (∃ r ∈ (Pool.exec exec (C.pool J s) sched).state.rows,
        r.id = w ∧ r.username = some C.name) ∧
      ∀ i, ((∃ resp, (Pool.exec exec (C.pool J s) sched).Returned i (.ok resp)) ↔ C.user i = w) ∧
        (C.user i ≠ w → (Pool.exec exec (C.pool J s) sched).Returned i
          (.error (if HasId (C.user i) C.table then alreadyExists else updateFailed))) := by
  obtain ⟨w, h⟩ := C.contested_exec (J := J) (s := s) hquiet
  have hstage (i : ι) {res : Except Status Response}
      (hres : (Pool.exec exec (C.pool J s) sched).Returned i res) :=
    Contest.Stage.of_returned (hres ▸ h.stage i)
  -- Somebody has the name, or the request of a user in the table would not have returned.
  obtain ⟨w, rfl⟩ : ∃ w', w = some w' := by
    obtain ⟨i, hrow⟩ := hmember
    obtain ⟨res, hres⟩ := hdone i
    obtain ⟨-, -, hw⟩ | ⟨-, -, w', hw, -⟩ | ⟨hno, -⟩ := hstage i hres
    · exact ⟨_, hw⟩
    · exact ⟨w', hw⟩
    · exact absurd hrow hno
  obtain ⟨hrow, hasked, hholder⟩ := h.held
  refine ⟨w, hasked, hholder, fun i => ?_⟩
  obtain ⟨res, hres⟩ := hdone i
  obtain ⟨resp, rfl, hw⟩ | ⟨hi, rfl, w', hw, hne⟩ | ⟨hi, rfl⟩ := hstage i hres
  · obtain rfl := Option.some.inj hw
    exact ⟨iff_of_true ⟨resp, hres⟩ rfl, fun hne => absurd rfl hne⟩
  · obtain rfl := Option.some.inj hw
    refine ⟨iff_of_false (fun hok => ?_) hne.symm, fun _ => by rwa [if_pos hi]⟩
    obtain ⟨resp, hok⟩ := hok
    cases Prog.ret.inj (hres.symm.trans hok)
  · have hne : C.user i ≠ w := fun heq => hi (heq ▸ hrow)
    refine ⟨iff_of_false (fun hok => ?_) hne, fun _ => by rwa [if_neg hi]⟩
    obtain ⟨resp, hok⟩ := hok
    cases Prog.ret.inj (hres.symm.trans hok)

/-! ## Ada and the user of another handle -/

namespace Sample

/-- Two users ask for the name `countess`. -/
def contest : Contest Bool where
  ctx first := withClaims ⟨none, none⟩ ⟨Uuid.text (if first then ada.id else 8), false⟩
  user first := if first then ada.id else 8
  name := "countess"
  table := withAdder
  valid := by decide +kernel
  claims _ := ⟨_, rfl, Uuid.parse_text _⟩
  free := by decide +kernel

/-- Their statements, in turn. -/
def contestInTurn : List (Bool × Env) := [(true, env), (false, env), (true, env), (false, env)]

end Sample

/-- Ada is first. -/
theorem contest_one_winner_ada : ∃ w, ∀ i,
    (∃ resp, (Pool.exec exec (Sample.contest.pool Sample.jwt Sample.server)
      Sample.contestInTurn).Returned i (.ok resp)) ↔ Sample.contest.user i = w := by
  have hquiet : ∀ x ∈ Sample.contestInTurn, x.2.fault = none := by
    simp [Sample.contestInTurn, Sample.env]
  have hada : (Pool.exec exec (Sample.contest.pool Sample.jwt Sample.server)
      Sample.contestInTurn).Returned true (.ok (.user (userToProto { Sample.ada with
        username := some "countess" }))) := by decide +kernel
  have hother : (Pool.exec exec (Sample.contest.pool Sample.jwt Sample.server)
      Sample.contestInTurn).Returned false (.error alreadyExists) := by decide +kernel
  obtain ⟨w, -, -, hw⟩ := contest_one_winner Sample.contest Sample.jwt Sample.server hquiet
    ⟨true, by decide +kernel⟩ fun i => by
      cases i with
      | false => exact ⟨_, hother⟩
      | true => exact ⟨_, hada⟩
  exact ⟨w, fun i => (hw i).1⟩

end SampleGrpc
