import SampleGrpc.Auth.Requests
import SampleGrpc.Auth.SignIn

/-!
# A name the user has chosen

Requests of any users, interleaved statement by statement, and among them one `UpdateProfile` that
sets a name. `UpsertUser` assigns a handle to a user whose row had no name when it read the row;
by the time it writes, the user may have chosen one.

* `chosenName_kept` — if every handle is assigned while it can do no harm, the name chosen last is
  the one in the row in the end.
* `chosenName_overwritten` — a handle that replaces the name chosen.
-/

namespace SampleGrpc

open Prog

/-! ## Writing names -/

/-- The statement sets the name of the row `i`. -/
def Renames (i : Uuid) (q : Effect) : Prop :=
  ∃ text name, q = .sql (.update [.id text] [.username name]) ∧ Uuid.parse text = some i

/-- A statement that sets the name of the row `i` finds it without a name, or with this name, or
fails because another row has it. -/
def SparesName (i : Uuid) : Effect → UsersTable → Prop
  | .sql (.update [.id text] [.username name]), t =>
    Uuid.parse text = some i → ∀ r ∈ t.rows, r.id = i →
      r.username = none ∨ r.username = name ∨
        (name ≠ none ∧ ∃ r' ∈ t.rows, r'.id ≠ i ∧ r'.username = name)
  | _, _ => True

instance (i : Uuid) (q : Effect) (t : UsersTable) : Decidable (SparesName i q t) := by
  unfold SparesName
  split <;> infer_instance

theorem not_renames_of_readsOnly {q : Effect} (h : q.ReadsOnly) (i : Uuid) : ¬ Renames i q := by
  intro hrenames
  obtain ⟨text, name, rfl, -⟩ := hrenames
  exact h

/-- The row `i` is there and has the name. -/
def HasName (i : Uuid) (name : String) (t : UsersTable) : Prop :=
  ∃ r ∈ t.rows, r.id = i ∧ r.username = some name

/-- What every request keeps. -/
structure NameKept (i : Uuid) (name : String) (t t' : UsersTable) : Prop where
  hasId : HasId i t → HasId i t'
  hasName : HasName i name t → HasName i name t'

theorem NameKept.refl (i : Uuid) (name : String) (t : UsersTable) : NameKept i name t t := ⟨id, id⟩

theorem NameKept.trans {i : Uuid} {name : String} (t₁ t₂ t₃ : UsersTable)
    (h : NameKept i name t₁ t₂) (h' : NameKept i name t₂ t₃) : NameKept i name t₁ t₃ :=
  ⟨fun ht => h'.hasId (h.hasId ht), fun ht => h'.hasName (h.hasName ht)⟩

variable {i : Uuid} {name : String}

/-- An UPDATE that gives the row `i` a name that another row has fails. -/
theorem exec_rename_taken {text : String} {newName : Option String} (hvalid : ValidUsername newName)
    (hid : Uuid.parse text = some i) {t : UsersTable} (htaken : NameTaken i newName t) (e : Env) :
    (exec e (.sql (.update [.id text] [.username newName])) t).2 = t := by
  have hrenaming := execSql_renaming e text newName t
  show (execSql e (.update [.id text] [.username newName]) t).2 = t
  generalize execSql e (.update [.id text] [.username newName]) t = x at hrenaming
  cases hrenaming with
  | renamed hfault hid' hstored hrow' hfree =>
    obtain rfl := Option.some.inj (hid.symm.trans hid')
    obtain rfl := Except.ok.inj (hvalid.stored.symm.trans hstored)
    exact absurd htaken hfree
  | _ => rfl

/-- How a statement that leaves the name of the row `i` alone changes a row. -/
structure RowNameKept (i : Uuid) (name : String) (r r' : User) : Prop where
  id : r'.id = r.id
  username : r.id = i → r.username = some name → r'.username = some name

/-- A statement writes no other name to the row `i`, unless it is one that renames it. -/
theorem RpcEffect.writes_name {stmt : Stmt} (h : RpcEffect (.sql stmt))
    (hsame : ∀ text newName, stmt = .update [.id text] [.username newName] →
      Uuid.parse text = some i → newName = some name) :
    stmt.Writes (RowNameKept i name) fun _ => True := by
  refine h.writes_username (fun r r' hid hname => ⟨hid, fun _ h => hname.trans h⟩) ?_
  intro text newName r r' hstmt htext hid hname
  exact ⟨hid, fun hri _ => hname.trans (hsame text newName hstmt (hri ▸ htext))⟩

/-- A name that a handler writes is NULL or valid. -/
theorem RpcEffect.validName {conds : List Condition} {newName : Option String}
    (h : RpcEffect (.sql (.update conds [.username newName]))) : ValidUsername newName := by
  generalize hq : Effect.sql (.update conds [.username newName]) = q at h
  cases h with
  | read h => exact (hq ▸ h : Effect.ReadsOnly (.sql (.update _ _))).elim
  | create sub email displayName pic hpic => cases hq
  | refresh conds' email displayName pic hpic =>
    intro s hs
    obtain ⟨-, hset⟩ := Stmt.update.inj (Effect.sql.inj hq)
    refine absurd ?_ (nonZero_noUsername (u := { email, displayName, pictureURL := pic }) rfl s)
    rw [← hset, hs]
    exact List.mem_singleton.mpr rfl
  | rename id name hvalid =>
    cases hq
    exact hvalid

/-- **An action of a handler keeps the name**, if it does not set it or spares it. -/
theorem RpcEffect.nameKept {q : Effect} (h : RpcEffect q) {t : UsersTable}
    (hspares : HasName i name t → Renames i q → SparesName i q t) (e : Env) :
    NameKept i name t (exec e q t).2 where
  hasId := by
    intro ht
    obtain ⟨r, hr, hid⟩ := ht
    obtain ⟨r', hr', hedit⟩ := (exec_evolves h e t).exists_of_mem hr
    exact ⟨r', hr', hedit.id.trans hid⟩
  hasName := by
    intro ht
    obtain ⟨r, hr, hid, hname⟩ := ht
    have hkeep (hsame : ∀ text newName, q = .sql (.update [.id text] [.username newName]) →
        Uuid.parse text = some i → newName = some name) : HasName i name (exec e q t).2 := by
      have hevolves : Evolves (RowNameKept i name) (fun _ => True) t.rows (exec e q t).2.rows := by
        refine exec_writes (fun _ => ⟨rfl, fun _ h => h⟩) (fun stmt hstmt => ?_) e t
        subst hstmt
        exact h.writes_name fun text newName hstmt => hsame text newName (congrArg Effect.sql hstmt)
      obtain ⟨r', hr', hkept⟩ := hevolves.exists_of_mem hr
      exact ⟨r', hr', hkept.id.trans hid, hkept.username hid hname⟩
    by_cases hrenames : Renames i q
    · obtain ⟨text, newName, rfl, htext⟩ := id hrenames
      obtain hnone | hsame | ⟨hne, htaken⟩ := hspares ⟨r, hr, hid, hname⟩ hrenames htext r hr hid
      · rw [hname] at hnone
        cases hnone
      · -- The name is set to what it is.
        refine hkeep fun text' newName' hstmt _ => ?_
        cases hstmt
        exact hsame.symm.trans hname
      · rw [exec_rename_taken h.validName htext ⟨hne, htaken⟩ e]
        exact ⟨r, hr, hid, hname⟩
    · exact hkeep fun text newName hq htext => absurd ⟨text, newName, hq, htext⟩ hrenames

/-! ## The requests -/

/-- A sign-in, which assigns handles. -/
def IsSignIn : Request → Prop
  | .loginWithGoogle _ => True
  | _ => False

instance (req : Request) : Decidable (IsSignIn req) := by
  unfold IsSignIn
  split <;> infer_instance

/-- An `UpdateProfile` of the user `i`. -/
def UpdatesUser (i : Uuid) (ctx : Context) (req : Request) : Prop :=
  ∃ username claims, req = .updateProfile username ∧ claimsFromContext ctx = some claims ∧
    Uuid.parse claims.userID = some i

/-- What a request can do, and which requests rename the row `i`. -/
structure RequestEffect (i : Uuid) (ctx : Context) (req : Request) (q : Effect) : Prop where
  rpc : RpcEffect q
  renames : Renames i q → IsSignIn req ∨ UpdatesUser i ctx req

variable {J : GolangJwt} {s : Server} {ctx : Context}

theorem Effect.ReadsOnly.request {q : Effect} (h : q.ReadsOnly) (i : Uuid) (ctx : Context)
    (req : Request) : RequestEffect i ctx req q :=
  ⟨.read h, fun hrenames => absurd hrenames (not_renames_of_readsOnly h i)⟩

theorem handler_requestEffect (i : Uuid) (J : GolangJwt) (s : Server) (ctx : Context)
    (req : Request) : (handler J s ctx req).Uses (RequestEffect i ctx req) := by
  have hread (q : Effect) (h : q.ReadsOnly) : RequestEffect i ctx req q := h.request i ctx req
  cases req with
  | loginWithGoogle idToken =>
    have huses := (loginWithGoogle_uses J s idToken).mono fun q hq =>
      (⟨hq, fun _ => .inl trivial⟩ : RequestEffect i ctx (.loginWithGoogle idToken) q)
    exact huses.bind fun _ => trivial
  | updateProfile username =>
    refine (updateProfile_uses_of hread fun claims hclaims hvalid => ?_).bind fun _ => trivial
    refine ⟨.renameStmt hvalid, fun hrenames => .inr ⟨username, claims, rfl, hclaims, ?_⟩⟩
    obtain ⟨text, newName, hstmt, htext⟩ := hrenames
    cases hstmt
    exact htext
  | getCurrentUser => exact ((getCurrentUser_uses ctx).mono hread).bind fun _ => trivial
  | listUsers => exact (listUsers_uses.mono hread).bind fun _ => trivial

/-! ## The request that sets the name -/

/-- An UPDATE that sets the name sets it. -/
theorem hasName_of_exec {text : String} (hvalid : usernameRE name = true)
    (hid : Uuid.parse text = some i) {e : Env} {t t' : UsersTable} {stamp : Time}
    (hexec : execSql e (.update [.id text] [.username (some name)]) t = (.ok stamp, t'))
    (ht : HasId i t) : HasName i name t' := by
  have hstored : storedName (some name) = .ok (some name) :=
    ValidUsername.stored fun s hs => Option.some.inj hs ▸ hvalid
  have hrenaming := execSql_renaming e text (some name) t
  rw [hexec] at hrenaming
  cases hrenaming with
  | absent hfault hid' hstored' hrow =>
    obtain rfl := Option.some.inj (hid.symm.trans hid')
    exact absurd ht hrow
  | renamed hfault hid' hstored' hrow hfree =>
    obtain rfl := Option.some.inj (hid.symm.trans hid')
    obtain rfl := Except.ok.inj (hstored.symm.trans hstored')
    obtain ⟨r, hr, rfl⟩ := ht
    exact ⟨_, UsersTable.mem_rename hr e.now hfree, rfl, rfl⟩

theorem SparesName.of_hasName {text : String} {t : UsersTable} (h : HasName i name t) :
    SparesName i (.sql (.update [.id text] [.username (some name)])) t := by
  intro _ r hr hri
  obtain ⟨r₀, hr₀, hr₀i, hname⟩ := h
  obtain rfl : r₀ = r := UsersTable.eq_of_id hr₀ hr (hr₀i.trans hri.symm)
  exact .inr (.inl hname)

theorem updateUsername_eq_of_ne (text : String) (hname : name ≠ "") : updateUsername text name =
    .act (.sql (.update [.id text] [.username (some name)])) (updateReply text) := by
  simp only [updateUsername, if_pos hname]
  rfl

/-- An `UpdateUsername` that succeeds has set the name, and nobody has changed it since. -/
theorem updateUsername_nameKept {ok : Env → Effect → UsersTable → Prop} {text : String}
    (hname : name ≠ "") (hvalid : usernameRE name = true) (hid : Uuid.parse text = some i)
    {t : UsersTable} (ht : HasId i t) :
    (updateUsername text name).Safe exec ok (NameKept i name) (NameKept i name)
      (fun res t => ∀ u, res = .ok u → HasName i name t) t := by
  rw [updateUsername_eq_of_ne text hname]
  intro t₁ ht₁ e _
  have hrpc : RpcEffect (.sql (.update [.id text] [.username (some name)])) :=
    .rename text _ fun s hs => Option.some.inj hs ▸ hvalid
  refine ⟨hrpc.nameKept (fun h _ => SparesName.of_hasName h) e, ?_⟩
  obtain ⟨err, hexec⟩ | ⟨stamp, t₂, -, -, hexec⟩ :=
    execSql_cases e (.update [.id text] [.username (some name)]) t₁
  · rw [show exec e (.sql (.update [.id text] [.username (some name)])) t₁ = _ from hexec]
    show Prog.Safe exec ok _ _ _ (if isUniqueViolation err then _ else _) t₁
    split
    all_goals exact fun t₂ _ u hu => by cases hu
  · rw [show exec e (.sql (.update [.id text] [.username (some name)])) t₁ = _ from hexec]
    have hset := hasName_of_exec hvalid hid hexec (ht₁.hasId ht)
    have hread (e : Env) (q : Effect) (t : UsersTable) (_ : ok e q t) (hq : q.ReadsOnly) :
        NameKept i name t (exec e q t).2 := (exec_readsOnly hq e t).symm ▸ .refl i name t
    have hsafe := (getUserByID_uses text).safe (HasName i name) hread
      (fun _ _ => NameKept.hasName) (fun _ _ => NameKept.hasName) hset
    exact hsafe.weaken fun _ _ h _ _ => h

/-- An `UpdateProfile` that succeeds likewise. -/
theorem updateProfile_nameKept (ok : Env → Effect → UsersTable → Prop) {claims : Claims}
    (hname : name ≠ "") (hclaims : claimsFromContext ctx = some claims)
    (hid : Uuid.parse claims.userID = some i) {t : UsersTable} (ht : HasId i t) :
    (handler J s ctx (.updateProfile name)).Safe exec ok (NameKept i name) (NameKept i name)
      (fun res t => ∀ resp, res = .ok resp → HasName i name t) t := by
  by_cases hvalid : usernameRE name = true
  · show Prog.Safe exec ok _ _ _ (updateProfile ctx name >>= _) t
    rw [updateProfile_eq hclaims fun _ => hvalid, bind_assoc]
    refine Safe.bind (NameKept.refl i name) (updateUsername_nameKept hname hvalid hid ht) ?_
    intro res t₁ hpost
    cases res with
    | error err =>
      show Prog.Safe exec ok _ _ _ ((if err.is .errUsernameTaken then _ else _) >>= _) t₁
      split
      all_goals exact fun t₂ _ resp hresp => by cases hresp
    | ok u => exact fun t₂ ht₂ _ _ => ht₂.hasName (hpost u rfl)
  · obtain ⟨st, hinvalid⟩ : ∃ st, updateProfile ctx name = .ret (.error st) := by
      rw [updateProfile, hclaims]
      exact ⟨_, if_pos ⟨hname, hvalid⟩⟩
    show Prog.Safe exec ok _ _ _ (updateProfile ctx name >>= _) t
    rw [hinvalid]
    exact fun t₁ _ resp hresp => by cases hresp

/-! ## Any interleaving -/

section Pool

variable {ι : Type}

/-- Requests, before any of them has started. -/
def requests (J : GolangJwt) (s : Server) (ctx : ι → Context) (req : ι → Request) (t : UsersTable) :
    Pool ι Effect Effect.Reply (Except Status Response) UsersTable :=
  { thread := fun j => handler J s (ctx j) (req j), state := t }

/-- If the next action of request `j` assigns a handle to the user `i`, it spares the name. -/
abbrev HandleSpares (i : Uuid) (req : ι → Request)
    (c : Pool ι Effect Effect.Reply (Except Status Response) UsersTable) (j : ι) (e : Env) : Prop :=
  c.Admits (fun j _ q t => IsSignIn (req j) → SparesName i q t) j e

variable [DecidableEq ι]

/-- **A name that the user has chosen is kept**, if no sign-in assigns a handle over it. Requests of
any users are interleaved by any schedule. An `UpdateProfile` with a name starts after every other
one of its user has returned, and succeeds; every handle that a sign-in assigns to this user from
then on finds the row without a name, or with this name, or fails because another row has the
handle. Then the row has the name chosen. -/
theorem chosenName_kept {ctx : ι → Context} {req : ι → Request} {t : UsersTable}
    {before after : List (ι × Env)} {p : ι} {claims : Claims} {resp : Response}
    (hreq : req p = .updateProfile name) (hname : name ≠ "")
    (hclaims : claimsFromContext (ctx p) = some claims) (hid : Uuid.parse claims.userID = some i)
    (hexists : HasId i (Pool.exec exec (requests J s ctx req t) before).state)
    (hstart : ∀ x ∈ before, x.1 ≠ p)
    (hothers : ∀ j, j ≠ p → UpdatesUser i (ctx j) (req j) →
      ∃ res, (Pool.exec exec (requests J s ctx req t) before).Returned j res)
    (hspares : Pool.Along exec (HandleSpares i req)
      (Pool.exec exec (requests J s ctx req t) before) after)
    (hok : (Pool.exec exec (requests J s ctx req t) (before ++ after)).Returned p (.ok resp)) :
    ∃ r ∈ (Pool.exec exec (requests J s ctx req t) (before ++ after)).state.rows,
      r.id = i ∧ r.username = some name := by
  have huses (j : ι) : ((Pool.exec exec (requests J s ctx req t) before).thread j).Uses
      (RequestEffect i (ctx j) (req j)) :=
    Pool.exec_thread_uses (P := fun j => RequestEffect i (ctx j) (req j))
      (fun j => handler_requestEffect i J s (ctx j) (req j)) before j
  have hsafe (j : ι) : ((Pool.exec exec (requests J s ctx req t) before).thread j).Safe exec
      (fun _ q t => IsSignIn (req j) → SparesName i q t) (NameKept i name) (NameKept i name)
      (fun res t => j = p → ∀ resp, res = .ok resp → HasName i name t)
      (Pool.exec exec (requests J s ctx req t) before).state := by
    by_cases hj : j = p
    · subst hj
      rw [Pool.exec_thread_ne hstart]
      have hsafe := updateProfile_nameKept (J := J) (s := s)
        (fun _ q t => IsSignIn (req j) → SparesName i q t) hname hclaims hid hexists
      rw [← hreq] at hsafe
      exact hsafe.weaken fun res t h _ => h
    · by_cases hupdates : UpdatesUser i (ctx j) (req j)
      · obtain ⟨res, hres⟩ := hothers j hj hupdates
        rw [hres]
        exact fun _ _ h => absurd h hj
      · have hexec (e : Env) (q : Effect) (t : UsersTable)
            (hspares : IsSignIn (req j) → SparesName i q t)
            (hq : RequestEffect i (ctx j) (req j) q) : NameKept i name t (exec e q t).2 :=
          hq.rpc.nameKept (fun _ h => hspares ((hq.renames h).resolve_right hupdates)) e
        exact ((huses j).safe (fun _ => True) hexec (fun _ _ _ h => h) (fun _ _ _ h => h)
          trivial).weaken fun _ _ _ h => absurd h hj
  rw [Pool.exec_append] at hok ⊢
  exact Pool.exec_safe (fun _ => NameKept.refl i name) (fun _ => NameKept.trans)
    (fun _ _ _ _ _ h => h) hspares hsafe hok rfl resp rfl

end Pool

/-! ## A sign-in and an `UpdateProfile` -/

namespace Sample

/-- Ada, before she has a name. -/
def nameless : UsersTable where
  rows := [{ ada with username := none }]
  id_nodup := by simp
  googleSub_nodup := by simp
  username_nodup := by simp

def edits (chosen : String) : Bool → Request
  | false => .loginWithGoogle adaIDToken.text
  | true => .updateProfile chosen

/-- Ada signs in and chooses a name. -/
def editing (chosen : String) :
    Pool Bool Effect Effect.Reply (Except Status Response) UsersTable :=
  requests jwt server (fun _ => adaContext) (edits chosen) nameless

/-- Requests in the database layer. -/
abbrev Rows : Type := Pool Bool Effect Effect.Reply (Except DbLayerError User) UsersTable

/-- The same two requests, while they are in the database layer. -/
def editingRows (chosen : String) : Rows where
  thread
    | false => upsertUser "108176814619778123456" "ada@example.com" "Ada" "" generateUsername
    | true => updateUsername ada.id.text chosen
  state := nameless

/-- What the two requests do after the database layer. -/
def editReply : Bool → Except DbLayerError User → Srv (Except Status Response)
  | false, res => do return (← issueSession jwt server res).map .session
  | true, res => do return (← profileReply res).map .user

variable {chosen : String}

/-- The sign-in verifies the ID token before anything else happens. -/
theorem editing_verified (hchosen : usernameRE chosen = true) : ∃ sched : List (Bool × Env),
    (∀ x ∈ sched, x.1 = false ∧ Quiet x.2) ∧
      Pool.exec exec (editing chosen) sched = (editingRows chosen).bind editReply := by
  have hlogin : (editing chosen).thread false = verifyGoogleIDToken jwt adaIDToken.text
      server.jwksURL server.googleClientID >>= fun res => do
        return (← signInVerified jwt server res).map .session := by
    show loginWithGoogle jwt server adaIDToken.text >>= _ = _
    rw [loginWithGoogle_eq (ne_empty_of_parsed (adaIDToken_signed "").parsed), bind_assoc]
  obtain ⟨sched, hok, -, hexec⟩ := exists_verified hlogin
  refine ⟨sched, hok, ?_⟩
  rw [hexec, Pool.bind, Pool.mk.injEq]
  refine ⟨?_, rfl⟩
  funext j
  cases j with
  | false =>
    rw [Function.update_self]
    exact bind_assoc _ _ _
  | true =>
    rw [Function.update_of_ne (by decide)]
    show updateProfile adaContext chosen >>= _ = _
    have hclaims : claimsFromContext adaContext = some ⟨ada.id.text, true⟩ := rfl
    rw [updateProfile_eq hclaims fun _ => hchosen, bind_assoc]
    rfl

theorem signIn_reply {c : Rows} {u : User} (h : c.Returned false (.ok u)) :
    ∃ resp : Time → SessionResponse, (c.bind editReply).thread false =
      .act .timeNow fun now => .ret (.ok (.session (resp now))) := by
  obtain ⟨resp, hresp, -⟩ := issueSession_ok jwt server u
  refine ⟨resp, ?_⟩
  rw [Pool.bind]
  dsimp only
  rw [h]
  show issueSession jwt server (.ok u) >>= _ = _
  rw [hresp]
  rfl

theorem update_reply {c : Rows} {u : User} (h : c.Returned true (.ok u)) :
    (c.bind editReply).Returned true (.ok (.user (userToProto u))) := by
  rw [Pool.Returned, Pool.bind]
  dsimp only
  rw [h]
  rfl

theorem editing_of_verified {verify : List (Bool × Env)} {ts : List (Bool × Uuid)}
    (hverified : Pool.exec exec (editing chosen) verify = (editingRows chosen).bind editReply)
    (hmoves : Pool.Along exec (fun c i _ => c.Moves i) (editingRows chosen) (turns ts)) :
    Pool.exec exec (editing chosen) (verify ++ turns ts) =
      (Pool.exec exec (editingRows chosen) (turns ts)).bind editReply := by
  rw [Pool.exec_append, hverified, Pool.exec_bind hmoves]

/-- A schedule of the two requests while they are in the database layer is part of one of the two
requests, which both return. -/
theorem editing_of_editingRows (chosen : String) (hchosen : usernameRE chosen = true)
    (ts₁ ts₂ : List (Bool × Uuid)) (u u' : User)
    (hmoves : Pool.Along exec (fun c i _ => c.Moves i) (editingRows chosen) (turns (ts₁ ++ ts₂)))
    (hfirst : ∀ x ∈ ts₁, x.1 = false)
    (hsignIn : (Pool.exec exec (editingRows chosen) (turns (ts₁ ++ ts₂))).Returned false (.ok u))
    (hupdate : (Pool.exec exec (editingRows chosen) (turns (ts₁ ++ ts₂))).Returned true (.ok u')) :
    ∃ before after : List (Bool × Env), (∀ x ∈ before ++ after, Quiet x.2) ∧
      (∀ x ∈ before, x.1 ≠ true) ∧
      (Pool.exec exec (editing chosen) before).state =
        (Pool.exec exec (editingRows chosen) (turns ts₁)).state ∧
      (Pool.Along exec (fun c j e => c.Admits
        (fun j _ q t => IsSignIn (edits chosen j) → SparesName ada.id q t) j e)
        (Pool.exec exec (editingRows chosen) (turns ts₁)) (turns ts₂) →
        Pool.Along exec (HandleSpares ada.id (edits chosen))
          (Pool.exec exec (editing chosen) before) after) ∧
      (∃ resp, (Pool.exec exec (editing chosen) (before ++ after)).Returned true (.ok resp)) ∧
      (∃ res, (Pool.exec exec (editing chosen) (before ++ after)).Returned false res) ∧
      (Pool.exec exec (editing chosen) (before ++ after)).state =
        (Pool.exec exec (editingRows chosen) (turns (ts₁ ++ ts₂))).state := by
  have hturns : turns (ts₁ ++ ts₂) = turns ts₁ ++ turns ts₂ := List.map_append
  obtain ⟨verify, hverify, hverified⟩ := editing_verified hchosen
  obtain ⟨resp, hsession⟩ := signIn_reply hsignIn
  have hrows := editing_of_verified hverified hmoves
  rw [hturns] at hmoves
  obtain ⟨hmoves₁, hmoves₂⟩ := Pool.along_append.mp hmoves
  have hbefore := editing_of_verified hverified hmoves₁
  -- The last step of all is the sign-in's reading of the clock.
  have hafter : Pool.exec exec (editing chosen)
      (verify ++ turns ts₁ ++ (turns ts₂ ++ [(false, env)])) =
        ((Pool.exec exec (editingRows chosen) (turns (ts₁ ++ ts₂))).bind editReply).step exec
          false env := by
    rw [← hrows, hturns, ← List.append_assoc, Pool.exec_append, ← List.append_assoc]
    rfl
  refine ⟨verify ++ turns ts₁, turns ts₂ ++ [(false, env)], fun x hx => ?_, fun x hx => ?_, ?_,
    fun hspares => ?_, ?_, ?_, ?_⟩
  · simp only [List.mem_append, List.mem_cons, List.not_mem_nil, or_false] at hx
    obtain (hx | hx) | hx | rfl := hx
    · exact (hverify x hx).2
    · exact quiet_turns ts₁ x hx
    · exact quiet_turns ts₂ x hx
    · exact quiet_env 7
  · obtain hx | hx := List.mem_append.mp hx
    · simp [(hverify x hx).1]
    · obtain ⟨y, hy, rfl⟩ := List.mem_map.mp hx
      simp [hfirst y hy]
  · rw [hbefore]
    rfl
  · rw [hbefore, Pool.along_append]
    refine ⟨Pool.Along.bind hmoves₂ hspares editReply, ?_, trivial⟩
    rw [Pool.exec_bind hmoves₂, ← Pool.exec_append, ← hturns]
    simp [Pool.Admits, hsession, SparesName]
  · rw [hafter]
    exact ⟨_, (update_reply hupdate).step false env⟩
  · rw [hafter]
    exact ⟨_, Pool.step_thread_self hsession env⟩
  · rw [hafter, Pool.step_state hsession]
    rfl

/-- Ada's row after a sign-in, with the name `name`. -/
def adaNamed (name : String) : User := { ada with username := some name, updatedAt := env.now }

/-- The update, between the sign-in's reading of the row and its handle. -/
def handleLast : List (Bool × Uuid) × List (Bool × Uuid) :=
  ([(false, 7), (false, 7)],
   [(true, 7), (true, 7), (false, 7), (false, 7), (false, 7), (false, 7), (false, 7)])

end Sample

/-- Ada chooses the name that she is being given as a handle: the handle changes nothing. -/
theorem chosenName_kept_ada : ∃ before after : List (Bool × Env),
    Pool.Along exec (HandleSpares Sample.ada.id (Sample.edits "AmberAdder10"))
      (Pool.exec exec (Sample.editing "AmberAdder10") before) after ∧
    ∃ r ∈ (Pool.exec exec (Sample.editing "AmberAdder10") (before ++ after)).state.rows,
      r.id = Sample.ada.id ∧ r.username = some "AmberAdder10" := by
  obtain ⟨before, after, -, hstart, hstate, hspares, ⟨resp, hok⟩, -, -⟩ :=
    Sample.editing_of_editingRows "AmberAdder10" (by decide +kernel) Sample.handleLast.1
      Sample.handleLast.2 (Sample.adaNamed "AmberAdder10") (Sample.adaNamed "AmberAdder10")
      (by decide +kernel) (by simp [Sample.handleLast]) (by decide +kernel) (by decide +kernel)
  have hadmitted := hspares (by decide +kernel)
  refine ⟨before, after, hadmitted, chosenName_kept (p := true) rfl (by decide) rfl
    (Uuid.parse_text Sample.ada.id) ?_ hstart (fun j hj hupdates => ?_) hadmitted hok⟩
  · show HasId _ (Pool.exec exec (Sample.editing "AmberAdder10") before).state
    rw [hstate, HasId]
    decide +kernel
  · obtain ⟨username, claims, hreq, -⟩ := hupdates
    cases j with
    | false => cases hreq
    | true => exact absurd rfl hj

/-- Ada chooses a name while she is being signed in, and loses it to a handle. -/
theorem chosenName_overwritten : ∃ before after : List (Bool × Env),
    (∀ x ∈ before ++ after, x.2.fault = none) ∧ (∀ x ∈ before, x.1 ≠ true) ∧
    (∃ resp, (Pool.exec exec (Sample.editing "ada_l") (before ++ after)).Returned true
      (.ok resp)) ∧
    (∃ res, (Pool.exec exec (Sample.editing "ada_l") (before ++ after)).Returned false res) ∧
    (Pool.exec exec (Sample.editing "ada_l") (before ++ after)).state.rows.map
      (fun r => (r.id, r.username)) = [(Sample.ada.id, some "AmberAdder10")] := by
  obtain ⟨before, after, hquiet, hstart, -, -, hok, hdone, hstate⟩ :=
    Sample.editing_of_editingRows "ada_l" (by decide +kernel) Sample.handleLast.1
      Sample.handleLast.2 (Sample.adaNamed "AmberAdder10") (Sample.adaNamed "ada_l")
      (by decide +kernel) (by simp [Sample.handleLast]) (by decide +kernel) (by decide +kernel)
  refine ⟨before, after, fun x hx => (hquiet x hx).1, hstart, hok, hdone, ?_⟩
  rw [hstate]
  decide +kernel

end SampleGrpc
