import SampleGrpc.Auth.ChosenName
import SampleGrpc.Auth.Upsert
import SampleGrpc.Interaction.History

/-!
# A name that has been cleared

Requests of any users, one after the other, with no fault of the database. `UpsertUser` takes every
row without a name for a new one, so a user who has cleared the name gets a handle at the next
sign-in.

* `callStep_namesKept` — one request: a name changes only by an `UpdateProfile` of its user, if
  handles go to new rows only.
* `clearedName_kept` — a run: then a name that has been cleared stays cleared until the user asks
  for another.
* `clearedName_replaced` — a handle for a user who has cleared the name.
-/

namespace SampleGrpc

open Prog

/-- A request that has been served, with what it returned. -/
structure Call where
  ctx : Context
  req : Request
  res : Except Status Response

/-- One request, run alone and without faults. `spares` says which actions of a request are
admitted, given the table that the request started from. -/
def callStep (J : GolangJwt) (s : Server)
    (spares : Request → UsersTable → Effect → UsersTable → Prop) (t : UsersTable) (c : Call)
    (t' : UsersTable) : Prop :=
  Runs exec (fun e q t₁ => e.fault = none ∧ spares c.req t q t₁) (handler J s c.ctx c.req) t c.res
    t'

/-- Every action is admitted. -/
def anyHandle : Request → UsersTable → Effect → UsersTable → Prop := fun _ _ _ _ => True

/-- The row was not there, or another row has the name. -/
def NewOrTaken (start : UsersTable) (name : Option String) (t : UsersTable) : Option Uuid → Prop
  | some i => HasId i start → NameTaken i name t
  | none => True

/-- A handle that a sign-in assigns to a row that it has not created itself is another row's. -/
def HandleCollides (req : Request) (start : UsersTable) : Effect → UsersTable → Prop
  | .sql (.update [.id text] [.username name]), t =>
    IsSignIn req → NewOrTaken start name t (Uuid.parse text)
  | _, _ => True

/-- The call is an `UpdateProfile` of the user `i` that has succeeded. -/
def Names (i : Uuid) (c : Call) : Prop :=
  UpdatesUser i c.ctx c.req ∧ ∃ resp, c.res = .ok resp

/-- The call is an `UpdateProfile` of the user `i` that has cleared the name. -/
def Clears (i : Uuid) (c : Call) : Prop :=
  c.req = .updateProfile "" ∧
    (∃ claims, claimsFromContext c.ctx = some claims ∧ Uuid.parse claims.userID = some i) ∧
    ∃ resp, c.res = .ok resp

theorem not_names_signIn {i : Uuid} {ctx : Context} {idToken : String}
    {res : Except Status Response} : ¬ Names i ⟨ctx, .loginWithGoogle idToken, res⟩ := by
  intro h
  obtain ⟨⟨username, claims, hreq, -⟩, -⟩ := h
  cases hreq

/-- Every row is still there, and has its name unless `except` excepts it. -/
def NamesKept (except : Uuid → Prop) (t t' : UsersTable) : Prop :=
  ∀ r ∈ t.rows, ∃ r' ∈ t'.rows, r'.id = r.id ∧ (¬ except r.id → r'.username = r.username)

theorem NamesKept.refl (except : Uuid → Prop) (t : UsersTable) : NamesKept except t t :=
  fun r hr => ⟨r, hr, rfl, fun _ => rfl⟩

theorem NamesKept.trans {except : Uuid → Prop} (t₁ t₂ t₃ : UsersTable)
    (h : NamesKept except t₁ t₂) (h' : NamesKept except t₂ t₃) : NamesKept except t₁ t₃ := by
  intro r hr
  obtain ⟨r', hr', hid, hname⟩ := h r hr
  obtain ⟨r'', hr'', hid', hname'⟩ := h' r' hr'
  refine ⟨r'', hr'', hid'.trans hid, fun hne => ?_⟩
  exact (hname' (hid.symm ▸ hne)).trans (hname hne)

/-! ## A sign-in -/

/-- How a statement that names no row in `start` changes a row. -/
structure RowOutsideNamed (start : UsersTable) (r r' : User) : Prop where
  id : r'.id = r.id
  username : HasId r.id start → r'.username = r.username

theorem RpcEffect.writes_outside {start : UsersTable} {stmt : Stmt} (h : RpcEffect (.sql stmt))
    (hnew : ∀ text name, stmt = .update [.id text] [.username name] →
      ∀ i ∈ Uuid.parse text, ¬ HasId i start) :
    stmt.Writes (RowOutsideNamed start) fun _ => True := by
  refine h.writes_username (fun r r' hid hname => ⟨hid, fun _ => hname⟩) ?_
  intro text name r r' hstmt htext hid _
  exact ⟨hid, fun hrow => absurd hrow (hnew text name hstmt r.id htext)⟩

/-- An action of a sign-in keeps the names of the rows that were there at its start. -/
theorem RpcEffect.namesKept {q : Effect} (h : RpcEffect q) {req : Request} (hreq : IsSignIn req)
    {start t : UsersTable} (hcollides : HandleCollides req start q t) (e : Env) :
    NamesKept (fun i => ¬ HasId i start) t (exec e q t).2 := by
  by_cases hnew : ∀ text name, q = .sql (.update [.id text] [.username name]) →
      ∀ i ∈ Uuid.parse text, ¬ HasId i start
  · have hevolves : Evolves (RowOutsideNamed start) (fun _ => True) t.rows (exec e q t).2.rows := by
      refine exec_writes (fun _ => ⟨rfl, fun _ => rfl⟩) (fun stmt hstmt => ?_) e t
      subst hstmt
      exact h.writes_outside fun text name hstmt => hnew text name (congrArg Effect.sql hstmt)
    intro r hr
    obtain ⟨r', hr', hrow⟩ := hevolves.exists_of_mem hr
    exact ⟨r', hr', hrow.id, fun hid => hrow.username (not_not.mp hid)⟩
  · -- The handle goes to a row that was there, so it is another row's.
    simp only [not_forall, not_not] at hnew
    obtain ⟨text, name, rfl, i, hid, hrow⟩ := hnew
    have hnewOrTaken : NewOrTaken start name t (Uuid.parse text) := hcollides hreq
    rw [show Uuid.parse text = some i from hid] at hnewOrTaken
    rw [exec_rename_taken h.validName hid (hnewOrTaken hrow) e]
    exact .refl _ t

/-! ## An `UpdateProfile` -/

variable {J : GolangJwt} {s : Server} {t t' : UsersTable} {c : Call}
  {spares : Request → UsersTable → Effect → UsersTable → Prop}

theorem play_handler_updateProfile (ctx : Context) (username : String) (es : ℕ → Env)
    (t : UsersTable) : play exec (handler J s ctx (.updateProfile username)) es t =
      ((play exec (updateProfile ctx username) es t).1.map .user,
        (play exec (updateProfile ctx username) es t).2) := by
  show play exec (updateProfile ctx username >>= fun r => .ret (r.map Response.user)) es t = _
  rw [play_bind]
  rfl

/-- Without faults, an `UpdateProfile` changes nothing or succeeds. -/
theorem callStep_updateProfile {username : String} (hreq : c.req = .updateProfile username)
    (h : callStep J s spares t c t') :
    (t' = t ∧ ∃ st, c.res = .error st) ∨
      ∃ claims u, claimsFromContext c.ctx = some claims ∧ (∃ resp, c.res = .ok resp) ∧
        ProfileChanged claims.userID username t t' u := by
  obtain ⟨es, rest, hes, hplay⟩ := Runs.exists_play (P := fun e : Env => e.fault = none)
    ⟨Sample.env, rfl⟩ (fun e q t h => h.1) h
  rw [hreq, play_handler_updateProfile] at hplay
  obtain ⟨hres, hrest⟩ := Prod.mk.inj hplay
  obtain ⟨htable, -⟩ := Prod.mk.inj (Prod.mk.eta.trans hrest)
  rw [← hres, ← htable]
  cases hclaims : claimsFromContext c.ctx with
  | none =>
    rw [updateProfile, hclaims]
    exact .inl ⟨rfl, _, rfl⟩
  | some claims =>
    obtain ⟨hok, herr⟩ := updateProfile_atomic hclaims username es t
    cases hprofile : (play exec (updateProfile c.ctx username) es t).1 with
    | ok pb =>
      obtain ⟨u, rfl, hchanged⟩ := hok pb hprofile
      exact .inr ⟨claims, u, rfl, ⟨_, rfl⟩, hchanged⟩
    | error st =>
      obtain hsame | ⟨hfault, -⟩ := herr st hprofile
      · exact .inl ⟨hsame, st, rfl⟩
      · exact absurd (hes 1) hfault

theorem ProfileChanged.namesKept {userID username : String} {u : User} {except : Uuid → Prop}
    (h : ProfileChanged userID username t t' u) (hexcept : except u.id) :
    NamesKept except t t' := by
  intro r hr
  obtain ⟨now, hrows⟩ := h.rows
  have hmem : r.rename u.id (requestedName username) now ∈ t'.rows :=
    hrows ▸ List.mem_map_of_mem hr
  refine ⟨_, hmem, User.rename_id _ _ _ r, fun hne => ?_⟩
  rw [User.rename_of_ne fun hid => hne (hid ▸ hexcept)]

/-! ## One request -/

/-- **A name changes only by an `UpdateProfile` of its user**, if no sign-in assigns a handle to a
row that it has not created. -/
theorem callStep_namesKept (h : callStep J s HandleCollides t c t') :
    NamesKept (fun i => Names i c) t t' := by
  cases hreq : c.req with
  | loginWithGoogle idToken =>
    have hkept := h.preserves (NamesKept fun i => ¬ HasId i t) (.refl _) .trans
      (fun e q t₁ hok hq => hq.namesKept (hreq ▸ trivial) hok.2 e) (handler_uses J s c.ctx c.req)
    intro r hr
    obtain ⟨r', hr', hid, hname⟩ := hkept r hr
    exact ⟨r', hr', hid, fun _ => hname (not_not_intro ⟨r, hr, rfl⟩)⟩
  | updateProfile username =>
    obtain ⟨rfl, -⟩ | ⟨claims, u, hclaims, hok, hchanged⟩ := callStep_updateProfile hreq h
    · exact .refl _ _
    · exact hchanged.namesKept ⟨⟨username, claims, hreq, hclaims, hchanged.caller⟩, hok⟩
  | getCurrentUser =>
    rw [callStep, hreq] at h
    rw [runs_readsOnly h ((getCurrentUser_uses c.ctx).bind fun _ => trivial)]
    exact .refl _ _
  | listUsers =>
    rw [callStep, hreq] at h
    rw [runs_readsOnly h (listUsers_uses.bind fun _ => trivial)]
    exact .refl _ _

/-- The name of the user `i` is NULL. -/
def Nameless (i : Uuid) (t : UsersTable) : Prop := ∃ r ∈ t.rows, r.id = i ∧ r.username = none

theorem Nameless.of_clears {i : Uuid} (hclears : Clears i c) (h : callStep J s spares t c t') :
    Nameless i t' := by
  obtain ⟨hreq, ⟨claims, hclaims, hid⟩, resp, hres⟩ := hclears
  obtain ⟨-, st, hst⟩ | ⟨claims', u, hclaims', -, hchanged⟩ := callStep_updateProfile hreq h
  · rw [hres] at hst
    cases hst
  · obtain rfl := Option.some.inj (hclaims.symm.trans hclaims')
    obtain rfl := Option.some.inj (hid.symm.trans hchanged.caller)
    exact ⟨u, hchanged.stored, rfl, hchanged.renamed⟩

/-! ## A run -/

variable {t₀ : UsersTable} {hist : List (Entry UsersTable Call)}

theorem nameless_of_run {i : Uuid} (h₀ : Nameless i t₀)
    (h : Run (callStep J s HandleCollides) t₀ hist t) (hnames : ∀ x ∈ hist, ¬ Names i x.event) :
    Nameless i t := by
  induction h with
  | nil => exact h₀
  | snoc h hs ih =>
    obtain ⟨r, hr, rfl, hnone⟩ := ih fun x hx => hnames x (List.mem_append_left _ hx)
    obtain ⟨r', hr', hid, hname⟩ := callStep_namesKept hs r hr
    have hlast := hnames _ (List.mem_append_right _ (List.mem_singleton.mpr rfl))
    exact ⟨r', hr', hid, (hname hlast).trans hnone⟩

/-- **A name that has been cleared stays cleared**, in every run of requests in which sign-ins
assign handles only to rows that they have created, or draw only handles that other rows have. Each
request keeps the names of all rows, except that of a user whose `UpdateProfile` it is; and after an
`UpdateProfile` that has cleared the name of a user, the name is NULL until one of the same user
succeeds again. -/
theorem clearedName_kept (h : Run (callStep J s HandleCollides) t₀ hist t) :
    (∀ x ∈ hist, NamesKept (fun i => Names i x.event) x.before x.after) ∧
    ∀ i pre x post, hist = pre ++ x :: post → Clears i x.event →
      (∀ y ∈ post, ¬ Names i y.event) → Nameless i t := by
  refine ⟨fun x hx => callStep_namesKept (h.step_of_mem hx), ?_⟩
  intro i pre x post hx hclears hnames
  have hmem : x ∈ hist := hx ▸ List.mem_append_right _ List.mem_cons_self
  have hcleared : Nameless i x.after := .of_clears hclears (h.step_of_mem hmem)
  exact nameless_of_run hcleared (h.after hx) hnames

/-! ## Ada clears her name and signs in -/

instance (start : UsersTable) (name : Option String) (t : UsersTable) (i : Option Uuid) :
    Decidable (NewOrTaken start name t i) := by
  unfold NewOrTaken
  split <;> infer_instance

instance (req : Request) (start : UsersTable) (q : Effect) (t : UsersTable) :
    Decidable (HandleCollides req start q t) := by
  cases q with
  | sql stmt =>
    unfold HandleCollides
    split <;> infer_instance
  | _ => exact instDecidableTrue

namespace Sample

/-- Ada and a user who has the handle that she will draw. -/
def withAdder : UsersTable where
  rows := [ada, { ada with id := 8, googleSub := "2", username := some "AmberAdder10" }]
  id_nodup := by decide +kernel
  googleSub_nodup := by decide +kernel
  username_nodup := by decide +kernel

/-- Ada's `UpdateProfile` with no name. -/
def clearing (t : UsersTable) : Except Status Response × UsersTable × (ℕ → Env) :=
  play exec (handler jwt server adaContext (.updateProfile "")) (fun _ => env) t

/-- The table after it. -/
def cleared (t : UsersTable) : UsersTable := (clearing t).2.1

def clear (t : UsersTable) : Call := ⟨adaContext, .updateProfile "", (clearing t).1⟩

theorem clear_clears {t : UsersTable} {resp : Response} (h : (clearing t).1 = .ok resp) :
    Clears ada.id (clear t) :=
  ⟨rfl, ⟨_, rfl, Uuid.parse_text ada.id⟩, resp, h⟩

theorem callStep_clear {spares : Request → UsersTable → Effect → UsersTable → Prop}
    (t : UsersTable) (hspares : ∀ q t₁, spares (.updateProfile "") t q t₁) :
    callStep jwt server spares t (clear t) (cleared t) :=
  runs_play (fun _ q t₁ => ⟨rfl, hspares q t₁⟩) _ t

/-- Ada without a name, as she is answered. -/
def adaCleared : Response := .user (userToProto { ada with username := none })

/-- The database layer of the sign-in after it, and the table after that. -/
def upserted (t : UsersTable) : Except DbLayerError User × UsersTable × (ℕ → Env) :=
  play exec (adaUpsert "") (fun _ => env) (cleared t)

def returned (t : UsersTable) : UsersTable := (upserted t).2.1

/-- Ada signs in, if the database layer serves her. -/
theorem adaSignIn_runs {ok : Env → Effect → UsersTable → Prop} {t t' : UsersTable} {u : User}
    (hread : ∀ q t, q.ReadsOnly → ok env q t) (hupsert : Runs exec ok (adaUpsert "") t (.ok u) t') :
    ∃ resp, Runs exec ok (handler jwt server adaContext (.loginWithGoogle adaIDToken.text)) t
      (.ok resp) t' := by
  have hverify : Runs exec ok (verifyGoogleIDToken jwt adaIDToken.text server.jwksURL
      server.googleClientID) t (.ok (googleClaims adaToken.claims)) t :=
    verifyGoogleIDToken_runs hread (adaIDToken_signed _) fun _ => sample_audience (.inl rfl)
  have hclaims : googleClaims adaToken.claims =
      ⟨"108176814619778123456", "ada@example.com", "Ada", ""⟩ := by decide +kernel
  obtain ⟨resp, hresp, -⟩ := issueSession_ok jwt server u
  have hlogin : Runs exec ok (loginWithGoogle jwt server adaIDToken.text) t
      (.ok (resp env.now)) t' := by
    rw [loginWithGoogle_eq (ne_empty_of_parsed (adaIDToken_signed "").parsed)]
    refine runs_bind_iff.mpr ⟨_, t, hverify, ?_⟩
    rw [hclaims, signInVerified]
    refine runs_bind_iff.mpr ⟨.ok u, t', hupsert, ?_⟩
    rw [hresp]
    exact .act env (hread _ _ trivial) (.ret _ _)
  exact ⟨_, runs_bind_iff.mpr ⟨_, t', hlogin, .ret _ _⟩⟩

/-- The check of `HandleCollides` on the actions of Ada's sign-in. -/
def collides (start : UsersTable) (e : Env) (q : Effect) (t : UsersTable) : Bool :=
  decide (e.fault = none ∧ HandleCollides (.loginWithGoogle adaIDToken.text) start q t)

/-- The database layer of Ada's sign-in, with the check on its actions. -/
theorem upserted_runs {ok : Env → Effect → UsersTable → Prop}
    {check : Env → Effect → UsersTable → Bool} (hok : ∀ e q t, check e q t = true → ok e q t)
    (t : UsersTable)
    (hcheck : playAll exec check (adaUpsert "") (fun _ => env) (cleared t) = true) :
    Runs exec ok (adaUpsert "") (cleared t) (upserted t).1 (returned t) :=
  runs_of_playAll hok hcheck

theorem handleCollides_of_readsOnly {req : Request} {start : UsersTable} {q : Effect}
    (hq : q.ReadsOnly) (t : UsersTable) : HandleCollides req start q t := by
  unfold HandleCollides
  split
  · exact hq.elim
  · trivial

end Sample

/-- All handles that Ada draws are another's. -/
theorem clearedName_kept_ada : ∃ resp, Run (callStep Sample.jwt Sample.server HandleCollides)
      Sample.withAdder
      [⟨Sample.withAdder, Sample.clear Sample.withAdder, Sample.cleared Sample.withAdder⟩,
        ⟨Sample.cleared Sample.withAdder,
          ⟨Sample.adaContext, .loginWithGoogle Sample.adaIDToken.text, .ok resp⟩,
          Sample.returned Sample.withAdder⟩] (Sample.returned Sample.withAdder) ∧
    Nameless Sample.ada.id (Sample.returned Sample.withAdder) := by
  have hcheck : playAll exec (Sample.collides (Sample.cleared Sample.withAdder))
      (Sample.adaUpsert "") (fun _ => Sample.env) (Sample.cleared Sample.withAdder) = true := by
    decide +kernel
  have hupsert := Sample.upserted_runs
    (fun e q t (h : Sample.collides _ e q t = true) => of_decide_eq_true h) _ hcheck
  have hok : (Sample.upserted Sample.withAdder).1 =
      .ok { Sample.ada with username := none, updatedAt := Sample.env.now } := by decide +kernel
  rw [hok] at hupsert
  obtain ⟨resp, hsignIn⟩ := Sample.adaSignIn_runs
    (fun q t hq => ⟨rfl, Sample.handleCollides_of_readsOnly hq t⟩) hupsert
  have hcleared : (Sample.clearing Sample.withAdder).1 = .ok Sample.adaCleared := by decide +kernel
  have hstep : callStep Sample.jwt Sample.server HandleCollides Sample.withAdder
      (Sample.clear Sample.withAdder) (Sample.cleared Sample.withAdder) := by
    refine Sample.callStep_clear Sample.withAdder fun q t₁ => ?_
    unfold HandleCollides
    split
    · exact False.elim
    · trivial
  have hstep' : callStep Sample.jwt Sample.server HandleCollides (Sample.cleared Sample.withAdder)
      ⟨Sample.adaContext, .loginWithGoogle Sample.adaIDToken.text, .ok resp⟩
      (Sample.returned Sample.withAdder) := hsignIn
  have hrun := (Run.nil.snoc hstep).snoc hstep'
  refine ⟨resp, hrun, (clearedName_kept hrun).2 Sample.ada.id [] _ _ rfl
    (Sample.clear_clears hcleared) fun y hy => ?_⟩
  obtain rfl := List.mem_singleton.mp hy
  exact not_names_signIn

/-- Ada has cleared her name, and gets a handle when she signs in. -/
theorem clearedName_replaced : ¬ ∀ (J : GolangJwt) (s : Server) (t₀ t : UsersTable)
    (hist : List (Entry UsersTable Call)), Run (callStep J s anyHandle) t₀ hist t →
      (∀ x ∈ hist, NamesKept (fun i => Names i x.event) x.before x.after) ∧
      ∀ i pre x post, hist = pre ++ x :: post → Clears i x.event →
        (∀ y ∈ post, ¬ Names i y.event) → Nameless i t := by
  intro h
  have hupsert : Runs exec (fun e q t => e.fault = none ∧ anyHandle
        (.loginWithGoogle Sample.adaIDToken.text) (Sample.cleared Sample.users) q t)
      (Sample.adaUpsert "") (Sample.cleared Sample.users) (Sample.upserted Sample.users).1
      (Sample.returned Sample.users) := runs_play (fun _ _ _ => ⟨rfl, trivial⟩) _ _
  have hok : (Sample.upserted Sample.users).1 = .ok (Sample.adaNamed "AmberAdder10") := by
    decide +kernel
  rw [hok] at hupsert
  obtain ⟨resp, hsignIn⟩ := Sample.adaSignIn_runs (fun q t _ => ⟨rfl, trivial⟩) hupsert
  have hcleared : (Sample.clearing Sample.users).1 = .ok Sample.adaCleared := by decide +kernel
  have hstep : callStep Sample.jwt Sample.server anyHandle Sample.users
      (Sample.clear Sample.users) (Sample.cleared Sample.users) :=
    Sample.callStep_clear Sample.users fun _ _ => trivial
  have hstep' : callStep Sample.jwt Sample.server anyHandle (Sample.cleared Sample.users)
      ⟨Sample.adaContext, .loginWithGoogle Sample.adaIDToken.text, .ok resp⟩
      (Sample.returned Sample.users) := hsignIn
  have hrun := (Run.nil.snoc hstep).snoc hstep'
  obtain ⟨r, hr, -, hnone⟩ := (h _ _ _ _ _ hrun).2 Sample.ada.id [] _ _ rfl
    (Sample.clear_clears hcleared) fun y hy => by
      obtain rfl := List.mem_singleton.mp hy
      exact not_names_signIn
  have hnames : (Sample.returned Sample.users).rows.map (·.username) = [some "AmberAdder10"] := by
    decide +kernel
  have hmem := List.mem_map_of_mem (f := (·.username)) hr
  rw [hnames, hnone] at hmem
  simp at hmem

end SampleGrpc
