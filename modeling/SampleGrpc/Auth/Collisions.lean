import SampleGrpc.Auth.ProfileUpdate

/-!
# Which errors are collisions

`UpdateUsername` tells a taken name from other failures by the text of the error, and the text can
quote what the caller sent or name a host. `CollisionsExact` says that it is right: the name is
reported as taken exactly when the UPDATE has failed with SQLSTATE 23505 because another row has
the name.

* `collisionsExact_iff` — when that is so.
* `not_collisionsExact` — a refused connection, reported as a name that is taken.
-/

namespace SampleGrpc

open Prog

/-! ## Quoted text -/

section Quoted

variable {α : Type} {l xs ys : List α} {q : α}

theorem eq_nil_of_prefix_cons (hq : q ∉ l) (h : l <+: q :: ys) : l = [] := by
  cases l with
  | nil => rfl
  | cons a l =>
    have hhead : a = q := (List.cons_prefix_cons.mp h).1
    exact absurd (hhead ▸ List.mem_cons_self) hq

/-- What does not contain the quote is on one side of it. -/
theorem infix_append_cons_iff (hq : q ∉ l) : l <:+: xs ++ q :: ys ↔ l <:+: xs ∨ l <:+: ys := by
  rw [List.infix_append_iff, List.infix_cons_iff]
  refine ⟨fun h => ?_, fun h => ?_⟩
  · obtain hxs | (hys | hys) | ⟨l₁, l₂, rfl, hxs, hys⟩ := h
    · exact .inl hxs
    · rw [eq_nil_of_prefix_cons hq hys]
      exact .inl List.nil_infix
    · exact .inr hys
    · have hnil : l₂ = [] :=
        eq_nil_of_prefix_cons (fun h => hq (List.mem_append_right _ h)) hys
      rw [hnil, List.append_nil]
      exact .inl hxs.isInfix
  · obtain hxs | hys := h
    · exact .inl hxs
    · exact .inr (.inl (.inr hys))

end Quoted

/-- The error for an ID that is not a UUID contains what the ID contains. -/
theorem containsText_invalidUuid {needle : String} (hquote : '"' ∉ needle.toList)
    (hbefore : containsText "ERROR: invalid input syntax for type uuid: " needle = false)
    (hafter : containsText " (SQLSTATE 22P02)" needle = false) (text : String) :
    containsText (invalidUuid text).message needle = containsText text needle := by
  simp only [containsText, decide_eq_false_iff_not] at hbefore hafter
  have hmessage : (invalidUuid text).message.toList =
      "ERROR: invalid input syntax for type uuid: ".toList ++
        '"' :: (text.toList ++ '"' :: " (SQLSTATE 22P02)".toList) := by
    simp [invalidUuid, String.toList_append]
  simp only [containsText, hmessage, infix_append_cons_iff hquote, hbefore, hafter, false_or,
    or_false]

/-- The texts that `isUniqueViolation` looks for. -/
def NamesCollision (text : String) : Prop :=
  containsText text "23505" = true ∨ containsText text "unique" = true

instance (text : String) : Decidable (NamesCollision text) := by
  unfold NamesCollision
  infer_instance

theorem isUniqueViolation_iff (err : DbError) :
    isUniqueViolation err = true ↔ NamesCollision err.message := by
  simp [isUniqueViolation, NamesCollision]

theorem isUniqueViolation_invalidUuid (text : String) :
    isUniqueViolation (invalidUuid text) = true ↔ NamesCollision text := by
  rw [isUniqueViolation_iff, NamesCollision, NamesCollision,
    containsText_invalidUuid (by decide) (by decide +kernel) (by decide +kernel),
    containsText_invalidUuid (by decide) (by decide +kernel) (by decide +kernel)]

/-! ## Taken names -/

/-- Another row than the user's has the name, as the column stores it. -/
def HeldByAnother (userID username : String) (t : UsersTable) : Prop :=
  ∃ stored, storedName (requestedName username) = .ok stored ∧ stored ≠ none ∧
    ∃ r ∈ t.rows, Uuid.parse userID ≠ some r.id ∧ r.username = stored

/-- The UPDATE fails with SQLSTATE 23505, and another row has the name. -/
def FailsTaken (e : Env) (userID username : String) (t : UsersTable) : Prop :=
  HeldByAnother userID username t ∧
    ∃ err, (execSql e (renameStmt userID username) t).1 = .error err ∧
      err.sqlState = some "23505"

/-- A name that is taken is reported as such by `UpdateUsername` and by `UpdateProfile`, and no
other failure is. -/
structure CollisionsExact (userID username : String) (es : ℕ → Env) (t : UsersTable) : Prop where
  updateUsername : (play exec (updateUsername userID username) es t).1 = .error .errUsernameTaken ↔
    FailsTaken (es 0) userID username t
  updateProfile : ∀ ctx claims, claimsFromContext ctx = some claims → claims.userID = userID →
    ((∃ st, (play exec (updateProfile ctx username) es t).1 = .error st ∧
      st.code = .alreadyExists) ↔
        (username ≠ "" → usernameRE username = true) ∧ FailsTaken (es 0) userID username t)
  failure : ∀ err, (execSql (es 0) (renameStmt userID username) t).1 = .error err →
    ∃ err', (play exec (SampleGrpc.updateUsername userID username) es t).1 = .error err'

variable {userID username : String} {es : ℕ → Env} {t : UsersTable}

theorem updateError_eq_taken_iff (err : DbError) :
    updateError err = .errUsernameTaken ↔ isUniqueViolation err = true := by
  unfold updateError
  split
  · next h => simp [h]
  · next h => simp [h]

theorem getReply_ne_taken (id : String) (res : Except DbError (Option User)) :
    getReply id res ≠ .error .errUsernameTaken := by
  rcases res with err | _ | u <;> simp [getReply]

/-- A name is reported as taken when the error of the UPDATE looks like it. -/
theorem updateUsername_taken_iff :
    (play exec (updateUsername userID username) es t).1 = .error .errUsernameTaken ↔
      ∃ err, (execSql (es 0) (renameStmt userID username) t).1 = .error err ∧
        isUniqueViolation err = true := by
  obtain ⟨err, hexec, hres, -⟩ | ⟨stamp, t₁, hexec, hres, -⟩ :=
    updateUsername_play userID username es t
  · rw [hres, hexec, Except.error.injEq, updateError_eq_taken_iff]
    refine ⟨fun h => ⟨err, rfl, h⟩, fun h => ?_⟩
    obtain ⟨err', herr, hunique⟩ := h
    rwa [Except.error.inj herr]
  · rw [hres, hexec]
    refine ⟨fun h => absurd h (getReply_ne_taken _ _), fun h => ?_⟩
    obtain ⟨err', herr, -⟩ := h
    cases herr

theorem profileReply_alreadyExists_iff (res : Except DbLayerError User) (es : ℕ → Env)
    (t : UsersTable) : (∃ st, (play exec (profileReply res) es t).1 = .error st ∧
      st.code = .alreadyExists) ↔ ∃ err, res = .error err ∧ err.is .errUsernameTaken = true := by
  cases res with
  | ok u => simp [profileReply]
  | error err =>
    rw [profileReply]
    split
    · next h => simp [h]
    · next h => simp [h]

/-- Nothing that `UpdateUsername` returns wraps `ErrUsernameTaken`. -/
theorem updateUsername_is_taken_iff :
    (∃ err, (play exec (updateUsername userID username) es t).1 = .error err ∧
      err.is .errUsernameTaken = true) ↔
    (play exec (updateUsername userID username) es t).1 = .error .errUsernameTaken := by
  refine ⟨fun h => ?_, fun h => ⟨_, h, by decide⟩⟩
  obtain ⟨err, herr, his⟩ := h
  rw [herr]
  obtain ⟨err₀, -, hres, -⟩ | ⟨stamp, t₁, -, hres, -⟩ := updateUsername_play userID username es t
  · obtain rfl := Except.error.inj (herr.symm.trans hres)
    unfold updateError at his ⊢
    split at his
    · next hunique => rw [if_pos hunique]
    · simp [DbLayerError.is] at his
  · rw [herr] at hres
    generalize (execSql (es 1) (.selectFirst [.id userID]) t₁).1 = res at hres
    rcases res with err₁ | _ | u
    · obtain rfl := Except.error.inj hres
      simp [DbLayerError.is] at his
    · obtain rfl := Except.error.inj hres
      simp [DbLayerError.is] at his
    · cases hres

theorem updateProfile_alreadyExists_iff {ctx : Context} {claims : Claims}
    (hclaims : claimsFromContext ctx = some claims) :
    (∃ st, (play exec (updateProfile ctx username) es t).1 = .error st ∧
      st.code = .alreadyExists) ↔ (username ≠ "" → usernameRE username = true) ∧
        (play exec (updateUsername claims.userID username) es t).1 = .error .errUsernameTaken := by
  by_cases hvalid : username ≠ "" → usernameRE username = true
  · rw [updateProfile_eq hclaims hvalid, play_bind, profileReply_alreadyExists_iff,
      updateUsername_is_taken_iff]
    exact ⟨fun h => ⟨hvalid, h⟩, fun h => h.2⟩
  · refine ⟨fun h => ?_, fun h => absurd h.1 hvalid⟩
    obtain ⟨st, hst, hcode⟩ := h
    rw [updateProfile, hclaims] at hst
    dsimp only at hst
    rw [if_pos (Classical.not_imp.mp hvalid)] at hst
    obtain rfl := Except.error.inj hst
    cases hcode

/-- Collisions are told exactly if the error of the UPDATE looks like one exactly when it is. -/
theorem collisionsExact_iff_update : CollisionsExact userID username es t ↔
    ∀ err, (execSql (es 0) (renameStmt userID username) t).1 = .error err →
      (isUniqueViolation err = true ↔
        err.sqlState = some "23505" ∧ HeldByAnother userID username t) := by
  refine ⟨fun h err herr => ?_, fun h => ?_⟩
  · have hexact := updateUsername_taken_iff.symm.trans h.updateUsername
    refine ⟨fun hunique => ?_, fun hgenuine => ?_⟩
    · obtain ⟨hheld, err', herr', hstate⟩ := hexact.mp ⟨err, herr, hunique⟩
      obtain rfl := Except.error.inj (herr.symm.trans herr')
      exact ⟨hstate, hheld⟩
    · obtain ⟨err', herr', hunique⟩ := hexact.mpr ⟨hgenuine.2, err, herr, hgenuine.1⟩
      rwa [Except.error.inj (herr.symm.trans herr')]
  · have hexact : (play exec (updateUsername userID username) es t).1 =
        .error .errUsernameTaken ↔ FailsTaken (es 0) userID username t := by
      rw [updateUsername_taken_iff]
      refine ⟨fun htaken => ?_, fun hfails => ?_⟩
      · obtain ⟨err, herr, hunique⟩ := htaken
        obtain ⟨hstate, hheld⟩ := (h err herr).mp hunique
        exact ⟨hheld, err, herr, hstate⟩
      · obtain ⟨hheld, err, herr, hstate⟩ := hfails
        exact ⟨err, herr, (h err herr).mpr ⟨hstate, hheld⟩⟩
    refine ⟨hexact, fun ctx claims hclaims hid => ?_, fun err herr => ?_⟩
    · rw [updateProfile_alreadyExists_iff hclaims, hid, hexact]
    · obtain ⟨err', -, hres, -⟩ | ⟨stamp, t₁, hexec, -, -⟩ :=
        updateUsername_play userID username es t
      · exact ⟨_, hres⟩
      · rw [hexec] at herr
        cases herr

/-! ## When collisions are told exactly -/

/-- The text of the error quotes its SQLSTATE. -/
def QuotesState (err : DbError) : Prop :=
  ∀ state, err.sqlState = some state → containsText err.message state = true

/-- Nothing but a collision looks like one: neither a fault that strikes the UPDATE nor, if there
is none, the ID that the database refuses. -/
structure OnlyCollisionsNamed (userID username : String) (e : Env) (t : UsersTable) : Prop where
  fault : ∀ err, e.fault = some err → NamesCollision err.message →
    err.sqlState = some "23505" ∧ HeldByAnother userID username t
  userID : e.fault = none → Uuid.parse userID = none → ¬ NamesCollision userID

theorem heldByAnother_of_nameTaken {i : Uuid} {stored : Option String}
    (hid : Uuid.parse userID = some i) (hstored : storedName (requestedName username) = .ok stored)
    (htaken : NameTaken i stored t) : HeldByAnother userID username t := by
  obtain ⟨hne, r, hr, hri, hname⟩ := htaken
  refine ⟨stored, hstored, hne, r, hr, ?_, hname⟩
  rw [hid]
  exact fun h => hri (Option.some.inj h).symm

theorem OnlyCollisionsNamed.of_valid {e : Env} {i : Uuid} (hfault : e.fault = none)
    (hid : Uuid.parse userID = some i) : OnlyCollisionsNamed userID username e t where
  fault := fun err herr => by
    rw [hfault] at herr
    cases herr
  userID := fun _ hnone => by
    rw [hid] at hnone
    cases hnone

/-- **When collisions are told exactly**: when no other error of the UPDATE looks like one. -/
theorem collisionsExact_iff (hquotes : ∀ err, (es 0).fault = some err → QuotesState err) :
    CollisionsExact userID username es t ↔ OnlyCollisionsNamed userID username (es 0) t := by
  rw [collisionsExact_iff_update]
  have hrenaming := execSql_renameStmt (es 0) userID username t
  generalize execSql (es 0) (renameStmt userID username) t = x at hrenaming
  cases hrenaming with
  | @fault err hfault =>
    have hstate (h : err.sqlState = some "23505") : isUniqueViolation err = true :=
      (isUniqueViolation_iff err).mpr (.inl (hquotes err hfault _ h))
    refine ⟨fun h => ⟨fun err' herr' hnames => ?_, fun hnone => ?_⟩, fun h err' herr' => ?_⟩
    · obtain rfl := Option.some.inj (hfault.symm.trans herr')
      exact (h err rfl).mp ((isUniqueViolation_iff err).mpr hnames)
    · rw [hfault] at hnone
      cases hnone
    · obtain rfl := Except.error.inj herr'
      refine ⟨fun hunique => ?_, fun hgenuine => hstate hgenuine.1⟩
      exact h.fault err hfault ((isUniqueViolation_iff err).mp hunique)
  | invalidId hfault hid =>
    refine ⟨fun h => ⟨fun err herr => ?_, fun _ _ hnames => ?_⟩, fun h err herr => ?_⟩
    · rw [hfault] at herr
      cases herr
    · obtain ⟨hstate, -⟩ :=
        (h (invalidUuid userID) rfl).mp ((isUniqueViolation_invalidUuid userID).mpr hnames)
      simp [invalidUuid] at hstate
    · obtain rfl := Except.error.inj herr
      rw [isUniqueViolation_invalidUuid]
      refine ⟨fun hnames => absurd hnames (h.userID hfault hid), fun hgenuine => ?_⟩
      simp [invalidUuid] at hgenuine
  | tooLong hfault hid hstored =>
    have hunique : isUniqueViolation valueTooLong = false := by decide +kernel
    refine iff_of_true (fun err herr => ?_) (.of_valid hfault hid)
    obtain rfl := Except.error.inj herr
    rw [hunique]
    simp [valueTooLong]
  | taken hfault hid hstored hrow htaken =>
    have hunique : isUniqueViolation (uniqueViolation "idx_users_username") = true := by
      decide +kernel
    refine iff_of_true (fun err herr => ?_) (.of_valid hfault hid)
    obtain rfl := Except.error.inj herr
    have hheld := heldByAnother_of_nameTaken hid hstored htaken
    exact ⟨fun _ => ⟨rfl, hheld⟩, fun _ => hunique⟩
  | absent hfault hid hstored hrow =>
    exact iff_of_true (fun err herr => by cases herr) (.of_valid hfault hid)
  | renamed hfault hid hstored hrow hfree =>
    exact iff_of_true (fun err herr => by cases herr) (.of_valid hfault hid)

/-! ## A refused connection -/

namespace Sample

def struckBy (err : DbError) : ℕ → Env := fun _ => { env with fault := some err }

/-- The database does not answer, on a port of that number. -/
def refused : DbError :=
  { sqlState := none
    message := "failed to connect to `user=app database=app`: 10.0.0.7:23505 (db): " ++
      "dial error: dial tcp 10.0.0.7:23505: connect: connection refused" }

end Sample

theorem collisionsExact_grace :
    CollisionsExact Sample.ada.id.text "grace_h"
      (Sample.struckBy (uniqueViolation "idx_users_username")) Sample.twoUsers := by
  refine (collisionsExact_iff fun err herr => ?_).mpr ⟨fun err herr _ => ?_, fun hnone => ?_⟩
  · obtain rfl := Option.some.inj herr
    intro state hstate
    obtain rfl := Option.some.inj hstate
    decide +kernel
  · obtain rfl := Option.some.inj herr
    refine ⟨rfl, some "grace_h", by decide +kernel, by simp, ?_⟩
    decide +kernel
  · cases hnone

/-- The connection is refused, and Ada is told that a name nobody has is taken. -/
theorem not_collisionsExact : ¬ ∀ (userID username : String) (es : ℕ → Env) (t : UsersTable),
    (∀ err, (es 0).fault = some err → QuotesState err) → CollisionsExact userID username es t := by
  intro h
  have hquotes (err : DbError) (herr : (Sample.struckBy Sample.refused 0).fault = some err) :
      QuotesState err := by
    obtain rfl := Option.some.inj herr
    intro state hstate
    cases hstate
  have hexact := (h Sample.ada.id.text "countess" (Sample.struckBy Sample.refused) Sample.users
    hquotes).updateUsername.mp (by decide +kernel)
  obtain ⟨-, err, herr, hstate⟩ := hexact
  obtain rfl : Sample.refused = err := Except.error.inj herr
  cases hstate

end SampleGrpc
