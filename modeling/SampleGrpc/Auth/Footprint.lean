import SampleGrpc.Auth.Service
import SampleGrpc.Db.Rename

/-!
# What the handlers do to the rows

Every action that a handler can perform reads, creates a row, refreshes the cached profile columns
of a row, or sets a username (`RpcEffect`). From this follows, once for all handlers, how a row can
change in one action (`RowEdit`) and what a new row looks like (`RowCreated`).

* `exec_evolves` — one action.
* `runs_evolves` — any handler, run alone.
-/

namespace SampleGrpc

open Prog

/-! ## The actions of the handlers -/

def Effect.ReadsOnly : Effect → Prop
  | .sql (.insert _) => False
  | .sql (.update _ _) => False
  | _ => True

/-- NULL, or a name that matches the pattern. -/
def ValidUsername (name : Option String) : Prop := ∀ s, name = some s → usernameRE s = true

/-- A valid name is stored as it is. -/
theorem ValidUsername.stored {name : Option String} (h : ValidUsername name) :
    storedName name = .ok name := by
  cases name with
  | none => rfl
  | some s => exact storedName_of_length (usernameRE_length (h s rfl)).2

theorem ValidUsername.coerce {name : Option String} (h : ValidUsername name) :
    [Column.username name].mapM Column.coerce = .ok [.username name] := by
  rw [mapM_coerce_storedName, h.stored]
  rfl

/-- What a handler can do. -/
inductive RpcEffect : Effect → Prop where
  | read {q : Effect} (h : q.ReadsOnly) : RpcEffect q
  | create (sub email displayName : String) (pic : Option String) (hpic : pic ≠ some "") :
      RpcEffect (.sql (.insert { googleSub := sub, email, displayName, pictureURL := pic }))
  | refresh (conds : List Condition) (email displayName : String) (pic : Option String)
      (hpic : pic ≠ some "") :
      RpcEffect (.sql (.update conds
        (UserFields.nonZero { email, displayName, pictureURL := pic })))
  | rename (id : String) (name : Option String) (hname : ValidUsername name) :
      RpcEffect (.sql (.update [.id id] [.username name]))

section Uses

variable {α : Type}

theorem Effect.ReadsOnly.rpc {p : Srv α} (h : p.Uses Effect.ReadsOnly) : p.Uses RpcEffect :=
  h.mono fun _ => .read

theorem getUserByID_uses (id : String) : (getUserByID id).Uses Effect.ReadsOnly := by
  refine ⟨trivial, fun r => ?_⟩
  rcases r with err | _ | u <;> trivial

theorem updateUsername_uses_of {P : Effect → Prop} {id username : String}
    (hread : ∀ q : Effect, q.ReadsOnly → P q) (hrename : P (.sql (renameStmt id username))) :
    (updateUsername id username).Uses P := by
  refine ⟨hrename, fun r => ?_⟩
  cases r with
  | error err =>
    show Uses P (if isUniqueViolation err then _ else _)
    split <;> trivial
  | ok stamp => exact (getUserByID_uses id).mono hread

theorem RpcEffect.renameStmt {id username : String}
    (h : username ≠ "" → usernameRE username = true) :
    RpcEffect (.sql (renameStmt id username)) := by
  refine .rename id _ fun s hs => ?_
  split at hs
  · next hne => exact Option.some.inj hs ▸ h hne
  · cases hs

theorem updateUsername_uses {id username : String}
    (h : username ≠ "" → usernameRE username = true) :
    (updateUsername id username).Uses RpcEffect :=
  updateUsername_uses_of (fun _ => .read) (.renameStmt h)

theorem generateUsername_uses : generateUsername.Uses Effect.ReadsOnly :=
  ⟨trivial, fun _ => ⟨trivial, fun _ => ⟨trivial, fun _ => trivial⟩⟩⟩

/-- The generator followed by anything that is good for every handle it can draw. -/
theorem generateUsername_bind_uses {f : String → Srv α}
    (hf : ∀ s, usernameRE s = true → (f s).Uses RpcEffect) :
    (generateUsername >>= f).Uses RpcEffect :=
  ⟨.read trivial, fun a => ⟨.read trivial, fun n => ⟨.read trivial, fun num =>
    hf _ (generateUsername_valid a n num)⟩⟩⟩

theorem assignHandle_uses (id : String) (n : Nat) :
    (assignHandle generateUsername id n).Uses RpcEffect := by
  induction n with
  | zero => exact Effect.ReadsOnly.rpc (getUserByID_uses id)
  | succ n ih =>
    refine generateUsername_bind_uses fun s hs => (updateUsername_uses fun _ => hs).bind fun r => ?_
    cases r with
    | error err => exact ih
    | ok u => trivial

theorem refuse_uses (format : String) (args : List LogArg) :
    (refuse format args).Uses Effect.ReadsOnly := ⟨trivial, fun _ => trivial⟩

theorem verifyGoogleIDToken_uses (J : GolangJwt) (raw url clientID : String) :
    (verifyGoogleIDToken J raw url clientID).Uses Effect.ReadsOnly := by
  obtain ⟨format, args, heq⟩ | ⟨tok, -, heq⟩ := verifyGoogleIDToken_cases J raw url clientID
  · exact heq ▸ refuse_uses format args
  · rw [heq]
    refine ⟨trivial, fun reply => ?_⟩
    obtain ⟨format, args, heq⟩ | ⟨pubKey, -, heq⟩ :=
      withRSAKey_cases J raw clientID (tok.header.getString "kid") reply
    · exact heq ▸ refuse_uses format args
    · rw [heq]
      refine ⟨trivial, fun now => ?_⟩
      obtain ⟨format, args, heq⟩ | ⟨tok, -, -, -, heq⟩ :=
        checkGoogleIDToken_cases J raw clientID pubKey now
      · exact heq ▸ refuse_uses format args
      · rw [heq]
        trivial

/-- On a miss, the record inserted is the one the caller filled in. -/
theorem setFields_profile (sub email displayName : String) (pic : Option String) :
    setFields (UserFields.nonZero { googleSub := sub } ++
        UserFields.nonZero { email, displayName, pictureURL := pic })
      { googleSub := sub, email, displayName, pictureURL := pic } =
      { googleSub := sub, email, displayName, pictureURL := pic } := by
  by_cases hsub : sub = "" <;> by_cases hemail : email = "" <;>
    by_cases hname : displayName = "" <;> by_cases hpic : pic = none <;>
    simp [setFields, UserFields.nonZero, Column.setField, hsub, hemail, hname, hpic]

theorem firstOrCreate_uses (sub email displayName : String) {pic : Option String}
    (hpic : pic ≠ some "") :
    (firstOrCreate { googleSub := sub } { email, displayName, pictureURL := pic }
      { googleSub := sub, email, displayName, pictureURL := pic }).Uses RpcEffect := by
  refine ⟨.read trivial, fun r => ?_⟩
  rcases r with err | _ | row
  · trivial
  · show RpcEffect _ ∧ _
    rw [setFields_profile]
    exact ⟨.create sub email displayName pic hpic, fun _ => trivial⟩
  · refine ⟨.refresh _ email displayName pic hpic, fun stamp => ?_⟩
    rcases stamp with err | stamp <;> trivial

theorem pic_ne_empty (s : String) : (if s ≠ "" then some s else none) ≠ some "" := by
  split
  · next h => simpa using h
  · simp

theorem upsertUser_uses (sub email displayName picture : String) :
    (upsertUser sub email displayName picture generateUsername).Uses RpcEffect := by
  refine (firstOrCreate_uses sub email displayName (pic_ne_empty picture)).bind fun u => ?_
  rcases u with err | u
  · trivial
  · show Uses RpcEffect (if u.username = none then _ else _)
    split
    · exact assignHandle_uses _ _
    · trivial

theorem issueSession_uses (J : GolangJwt) (s : Server) (res : Except DbLayerError User) :
    (issueSession J s res).Uses Effect.ReadsOnly := by
  cases res with
  | error err => trivial
  | ok user =>
    obtain ⟨resp, hresp, -⟩ := issueSession_ok J s user
    rw [hresp]
    exact ⟨trivial, fun _ => trivial⟩

theorem loginWithGoogle_uses (J : GolangJwt) (s : Server) (idToken : String) :
    (loginWithGoogle J s idToken).Uses RpcEffect := by
  by_cases hne : idToken = ""
  · subst hne
    trivial
  · rw [loginWithGoogle_eq hne]
    refine (Effect.ReadsOnly.rpc (verifyGoogleIDToken_uses _ _ _ _)).bind fun g => ?_
    cases g with
    | error err => exact ⟨.read trivial, fun _ => trivial⟩
    | ok g =>
      exact (upsertUser_uses _ _ _ _).bind fun user =>
        Effect.ReadsOnly.rpc (issueSession_uses J s user)

theorem updateProfile_uses_of {P : Effect → Prop} {ctx : Context} {username : String}
    (hread : ∀ q : Effect, q.ReadsOnly → P q)
    (hrename : ∀ claims, claimsFromContext ctx = some claims →
      (username ≠ "" → usernameRE username = true) → P (.sql (renameStmt claims.userID username))) :
    (updateProfile ctx username).Uses P := by
  unfold updateProfile
  split
  · trivial
  · next claims hclaims =>
    split
    · trivial
    · next hvalid =>
      have hname : username ≠ "" → usernameRE username = true := fun hne => by
        simpa [hne] using hvalid
      refine (updateUsername_uses_of hread (hrename claims hclaims hname)).bind fun r => ?_
      rcases r with err | user
      · show Uses P (if err.is .errUsernameTaken then _ else _)
        split <;> trivial
      · trivial

theorem updateProfile_uses (ctx : Context) (username : String) :
    (updateProfile ctx username).Uses RpcEffect :=
  updateProfile_uses_of (fun _ => .read) fun _ _ h => .renameStmt h

theorem getCurrentUser_uses (ctx : Context) : (getCurrentUser ctx).Uses Effect.ReadsOnly := by
  unfold getCurrentUser
  split
  · trivial
  · refine (getUserByID_uses _).bind fun r => ?_
    rcases r with err | user <;> trivial

theorem listUsers_uses : listUsers.Uses Effect.ReadsOnly := by
  refine ⟨trivial, fun r => ?_⟩
  rcases r with err | users <;> trivial

end Uses

/-! ## How rows change -/

/-- How an action of a handler can change a row. -/
structure RowEdit (r r' : User) : Prop where
  id : r'.id = r.id
  googleSub : r'.googleSub = r.googleSub
  isAdmin : r'.isAdmin = r.isAdmin
  createdAt : r'.createdAt = r.createdAt
  username : r'.username = r.username ∨ ValidUsername r'.username
  pictureURL : r'.pictureURL = r.pictureURL ∨ r'.pictureURL ≠ some ""

/-- What a row that a handler creates looks like from then on. -/
structure RowCreated (r : User) : Prop where
  isAdmin : r.isAdmin = false
  username : ValidUsername r.username
  pictureURL : r.pictureURL ≠ some ""

theorem RowEdit.refl (r : User) : RowEdit r r := ⟨rfl, rfl, rfl, rfl, .inl rfl, .inl rfl⟩

theorem RowEdit.trans (r₁ r₂ r₃ : User) (h : RowEdit r₁ r₂) (h' : RowEdit r₂ r₃) :
    RowEdit r₁ r₃ where
  id := h'.id.trans h.id
  googleSub := h'.googleSub.trans h.googleSub
  isAdmin := h'.isAdmin.trans h.isAdmin
  createdAt := h'.createdAt.trans h.createdAt
  username := by
    rcases h'.username with heq | hvalid
    · exact heq ▸ h.username
    · exact .inr hvalid
  pictureURL := by
    rcases h'.pictureURL with heq | hne
    · exact heq ▸ h.pictureURL
    · exact .inr hne

theorem RowEdit.validUsername {r r' : User} (h : RowEdit r r') (hr : ValidUsername r.username) :
    ValidUsername r'.username := by
  rcases h.username with heq | hvalid
  · exact heq ▸ hr
  · exact hvalid

theorem RowEdit.pictureURL_ne {r r' : User} (h : RowEdit r r') (hr : r.pictureURL ≠ some "") :
    r'.pictureURL ≠ some "" := by
  rcases h.pictureURL with heq | hne
  · exact heq ▸ hr
  · exact hne

theorem RowCreated.edit (r r' : User) (h : RowCreated r) (h' : RowEdit r r') : RowCreated r' where
  isAdmin := h'.isAdmin.trans h.isAdmin
  username := h'.validUsername h.username
  pictureURL := h'.pictureURL_ne h.pictureURL

/-- The columns that a refresh assigns. -/
theorem assignAll_profile (email displayName : String) (pic : Option String) (r : User) :
    assignAll (UserFields.nonZero { email, displayName, pictureURL := pic }) r =
      { r with
        email := if email ≠ "" then email else r.email
        displayName := if displayName ≠ "" then displayName else r.displayName
        pictureURL := if pic ≠ none then pic else r.pictureURL } := by
  by_cases hemail : email = "" <;> by_cases hname : displayName = "" <;>
    by_cases hpic : pic = none <;>
    simp [assignAll, UserFields.nonZero, Column.assign, hemail, hname, hpic]

/-- What a refresh makes of a row. -/
theorem rewrites_refresh {conds : List Condition} {email displayName : String} {pic : Option String}
    {r r' : User} (h : Stmt.Rewrites conds
      (UserFields.nonZero { email, displayName, pictureURL := pic }) r r') :
    ∃ now, r' = { r with
      email := if email ≠ "" then email else r.email
      displayName := if displayName ≠ "" then displayName else r.displayName
      pictureURL := if pic ≠ none then pic else r.pictureURL
      updatedAt := now } := by
  obtain ⟨-, set', now, hset, rfl⟩ := h
  rw [mapM_coerce_of_noUsername (nonZero_noUsername rfl)] at hset
  rw [← Except.ok.inj hset, assignAll_profile]
  exact ⟨now, rfl⟩

/-- What setting a name makes of a row. -/
theorem rewrites_rename {text : String} {name : Option String} (hname : ValidUsername name)
    {r r' : User} (h : Stmt.Rewrites [.id text] [.username name] r r') :
    Uuid.parse text = some r.id ∧ ∃ now, r' = { r with username := name, updatedAt := now } := by
  obtain ⟨hsat, set', now, hset, rfl⟩ := h
  rw [hname.coerce] at hset
  obtain rfl := Except.ok.inj hset
  exact ⟨satisfies_idText.mp hsat, now, rfl⟩

/-- **What one action of a handler writes.** -/
theorem RpcEffect.writes {q : Stmt} (h : RpcEffect (.sql q)) : q.Writes RowEdit RowCreated := by
  cases h with
  | read h =>
    cases q with
    | selectFirst conds => trivial
    | selectAll => trivial
    | insert u => exact h.elim
    | update conds set => exact h.elim
  | create sub email displayName pic hpic =>
    intro newID now
    exact ⟨rfl, fun s hs => (by cases hs), hpic⟩
  | refresh conds email displayName pic hpic =>
    intro r r' hrewrite
    obtain ⟨now, rfl⟩ := rewrites_refresh hrewrite
    refine ⟨rfl, rfl, rfl, rfl, .inl rfl, ?_⟩
    dsimp only
    split
    · exact .inr hpic
    · exact .inl rfl
  | rename id name hname =>
    intro r r' hrewrite
    obtain ⟨-, now, rfl⟩ := rewrites_rename hname hrewrite
    exact ⟨rfl, rfl, rfl, rfl, .inr hname, .inl rfl⟩

/-- What one action of a handler writes, as far as names go: a refresh keeps them, and the rest is
the UPDATE of `UpdateUsername`. -/
theorem RpcEffect.writes_username {q : Stmt} (h : RpcEffect (.sql q)) {rel : User → User → Prop}
    (hkept : ∀ r r' : User, r'.id = r.id → r'.username = r.username → rel r r')
    (hrename : ∀ text name, ∀ r r' : User, q = .update [.id text] [.username name] →
      Uuid.parse text = some r.id → r'.id = r.id → r'.username = name → rel r r') :
    q.Writes rel fun _ => True := by
  cases h with
  | read h =>
    cases q with
    | selectFirst conds => trivial
    | selectAll => trivial
    | insert u => exact h.elim
    | update conds set => exact h.elim
  | create sub email displayName pic hpic => exact fun _ _ => trivial
  | refresh conds email displayName pic hpic =>
    intro r r' hrewrite
    obtain ⟨now, rfl⟩ := rewrites_refresh hrewrite
    exact hkept _ _ rfl rfl
  | rename text name hvalid =>
    intro r r' hrewrite
    obtain ⟨htext, now, rfl⟩ := rewrites_rename hvalid hrewrite
    exact hrename text name _ _ rfl htext rfl rfl

/-- What an action writes, whatever the relation it is measured by. -/
theorem exec_writes {rel : User → User → Prop} {fresh : User → Prop} (hrel : ∀ r, rel r r)
    {q : Effect} (h : ∀ stmt, q = .sql stmt → stmt.Writes rel fresh) (e : Env) (t : UsersTable) :
    Evolves rel fresh t.rows (exec e q t).2.rows := by
  cases q with
  | sql q =>
    rcases execSql_cases e q t with ⟨err, hexec⟩ | ⟨r, t', -, hquery, hexec⟩
    · rw [show exec e (.sql q) t = _ from hexec]
      exact .refl hrel _
    · rw [show exec e (.sql q) t = _ from hexec]
      exact query_evolves hrel (h q rfl) hquery
  | timeNow => exact .refl hrel _
  | httpGet url => exact .refl hrel _
  | randIntN n hn => exact .refl hrel _
  | logPrintf format args => exact .refl hrel _

theorem exec_evolves {q : Effect} (h : RpcEffect q) (e : Env) (t : UsersTable) :
    Evolves RowEdit RowCreated t.rows (exec e q t).2.rows :=
  exec_writes RowEdit.refl (fun _ hq => (hq ▸ h).writes) e t

/-- **What any handler writes**, run alone. -/
theorem runs_evolves {α : Type} {ok : Env → Effect → UsersTable → Prop} {p : Srv α}
    {t t' : UsersTable} {a : α} (h : Runs exec ok p t a t') (hp : p.Uses RpcEffect) :
    Evolves RowEdit RowCreated t.rows t'.rows :=
  h.preserves (fun t t' => Evolves RowEdit RowCreated t.rows t'.rows)
    (fun t => .refl RowEdit.refl t.rows) (fun _ _ _ => .trans RowEdit.trans RowCreated.edit)
    (fun e _ t _ hq => exec_evolves hq e t) hp

/-- An action that only reads leaves the table as it is. -/
theorem exec_readsOnly {q : Effect} (h : q.ReadsOnly) (e : Env) (t : UsersTable) :
    (exec e q t).2 = t := by
  cases q with
  | sql q =>
    rcases execSql_cases e q t with ⟨err, hexec⟩ | ⟨r, t', -, hquery, hexec⟩
    · rw [show exec e (.sql q) t = _ from hexec]
    · rw [show exec e (.sql q) t = _ from hexec]
      cases q with
      | selectFirst conds => exact (UsersTable.query_selectFirst hquery).2
      | selectAll => exact (UsersTable.query_selectAll hquery).2
      | insert u => exact h.elim
      | update conds set => exact h.elim
  | _ => rfl

/-- A program that only reads leaves the table as it is. -/
theorem runs_readsOnly {α : Type} {ok : Env → Effect → UsersTable → Prop} {p : Srv α}
    {t t' : UsersTable} {a : α} (h : Runs exec ok p t a t') (hp : p.Uses Effect.ReadsOnly) :
    t' = t :=
  h.preserves (fun t t' => t' = t) (fun _ => rfl) (fun _ _ _ h₁ h₂ => h₂.trans h₁)
    (fun e _ t _ hq => exec_readsOnly hq e t) hp

end SampleGrpc
