import SampleGrpc.Db.Timestamps
import SampleGrpc.Server.Logging
import SampleGrpc.Auth.SignIn

/-!
# What the log discloses

Two sign-ins side by side: the same users table, database, JWKS answers and random draws, tokens
that verify to the same claims or fail at the same check, any signing secrets, clocks that may
differ.

The log holds the ID token, as the request's field, and the session token, as the response's. What
else it holds of the tokens is what the line of a failed check quotes. With these and the durations
left out, the two logs are equal.

* `loginWithGoogle_matched` — the two sign-ins, whatever their outcome.
* `redacted_logs_eq` — their logs.
-/

namespace SampleGrpc

open Prog

/-! ## What is left out -/

/-- The attribute without the bearer tokens and the time it took. -/
def Attr.redact : Attr → Attr
  | .request (.loginWithGoogle _) => .request (.loginWithGoogle "")
  | .response (.session r) => .response (.session { r with jwt := "" })
  | .duration _ => .duration 0
  | a => a

/-- The argument without what it quotes of a token, or of the error a token has led to. -/
def LogArg.redact : LogArg → LogArg
  | .text _ => .text ""
  | .json _ => .json none
  | .jwks _ => .jwks (.kidNotFound "")
  | .auth err => .auth err

/-- The record without what it discloses of tokens. -/
def LogRecord.redact : LogRecord → LogRecord
  | .slog level msg attrs => .slog level msg (attrs.map fun kv => (kv.1, kv.2.redact))
  | .printf format args => .printf format (args.map LogArg.redact)

/-! ## Actions that are alike -/

/-- The environments differ in their clocks only. -/
structure SameButClock (e e' : Env) : Prop where
  newID : e.newID = e'.newID
  fault : e.fault = e'.fault
  http : e.http = e'.http
  rand : e.rand = e'.rand

/-- Log lines are alike up to what they quote of a token. -/
inductive Effect.Alike : Effect → Effect → Prop where
  | sql {q : Stmt} (hq : q ≠ .selectAll) : Effect.Alike (.sql q) (.sql q)
  | timeNow : Effect.Alike .timeNow .timeNow
  | httpGet (url : String) : Effect.Alike (.httpGet url) (.httpGet url)
  | randIntN (n : ℕ) (hn : 0 < n) : Effect.Alike (.randIntN n hn) (.randIntN n hn)
  | logPrintf (format : String) {args args' : List LogArg}
    (h : args.map LogArg.redact = args'.map LogArg.redact) :
    Effect.Alike (.logPrintf format args) (.logPrintf format args')

/-- Clock readings are alike, whatever they read. -/
inductive Effect.ReplyAlike : (q q' : Effect) → q.Reply → q'.Reply → Prop where
  | sqlError {q : Stmt} (err : DbError) :
    Effect.ReplyAlike (.sql q) (.sql q) (.error err) (.error err)
  | sqlOk {q : Stmt} {x x' : q.Result} (h : resultUntimed q x x') :
    Effect.ReplyAlike (.sql q) (.sql q) (.ok x) (.ok x')
  | timeNow (n n' : Time) : Effect.ReplyAlike .timeNow .timeNow n n'
  | httpGet {url : String} (r : HttpReply) : Effect.ReplyAlike (.httpGet url) (.httpGet url) r r
  | randIntN {n : ℕ} {hn : 0 < n} (i : Fin n) :
    Effect.ReplyAlike (.randIntN n hn) (.randIntN n hn) i i
  | logPrintf {f f' : String} {a a' : List LogArg} :
    Effect.ReplyAlike (.logPrintf f a) (.logPrintf f' a') () ()

def effectLikeness : Likeness Effect Effect.Reply := ⟨Effect.Alike, Effect.ReplyAlike⟩

/-- **The actions of a sign-in respect likeness.** -/
theorem effectLikeness_respects : effectLikeness.Respects exec SameButClock SameButTimes := by
  intro e e' q q' t t' he hq ht
  cases hq with
  | @sql q hne =>
    show Effect.ReplyAlike (.sql q) (.sql q) (execSql e q t).1 (execSql e' q t').1 ∧
      SameButTimes (execSql e q t).2 (execSql e' q t').2
    unfold execSql
    rw [← he.fault, ← he.newID]
    cases hfault : e.fault with
    | some err => exact ⟨.sqlError err, ht⟩
    | none =>
      rcases query_untimed ht e.now e'.now e.newID hne with
        ⟨err, h₁, h₂⟩ | ⟨x, x', t₁, t₁', h₁, h₂, hx, hsame⟩
      · simp only [e.db.query_eq, e'.db.query_eq, h₁, h₂]
        exact ⟨.sqlError err, ht⟩
      · simp only [e.db.query_eq, e'.db.query_eq, h₁, h₂]
        exact ⟨.sqlOk hx, hsame⟩
  | timeNow => exact ⟨.timeNow _ _, ht⟩
  | httpGet url =>
    refine ⟨?_, ht⟩
    show Effect.ReplyAlike (.httpGet url) (.httpGet url) (e.http url) (e'.http url)
    rw [he.http]
    exact .httpGet _
  | randIntN n hn =>
    refine ⟨?_, ht⟩
    show Effect.ReplyAlike (.randIntN n hn) (.randIntN n hn) ⟨e.rand % n, _⟩ ⟨e'.rand % n, _⟩
    simp only [he.rand]
    exact .randIntN _
  | logPrintf format h => exact ⟨.logPrintf, ht⟩

/-! ## The database layer, twice -/

/-- The same error, or records that differ in timestamps. -/
inductive RecordAlike {ε : Type} : Except ε User → Except ε User → Prop where
  | error (err : ε) : RecordAlike (.error err) (.error err)
  | ok {u u' : User} (h : u.untimed = u'.untimed) : RecordAlike (.ok u) (.ok u')

theorem getUserByID_alike (id : String) :
    Alike effectLikeness RecordAlike (getUserByID id) (getUserByID id) := by
  apply Alike.act (Effect.Alike.sql (by simp))
  intro r r' h
  cases h with
  | sqlError err => exact .ret (.error _)
  | @sqlOk _ x x' h =>
    rcases x with _ | u <;> rcases x' with _ | u'
    · exact .ret (.error _)
    · cases h
    · cases h
    · exact .ret (.ok (Option.some.inj h))

theorem updateUsername_alike (id name : String) :
    Alike effectLikeness RecordAlike (updateUsername id name) (updateUsername id name) := by
  apply Alike.act (Effect.Alike.sql (by simp))
  intro r r' h
  cases h with
  | sqlError err =>
    show Alike effectLikeness RecordAlike (if isUniqueViolation err then .ret _ else .ret _)
      (if isUniqueViolation err then .ret _ else .ret _)
    split
    · exact .ret (.error _)
    · exact .ret (.error _)
  | sqlOk h => exact getUserByID_alike id

theorem generateUsername_alike : Alike effectLikeness Eq generateUsername generateUsername := by
  apply Alike.act (Effect.Alike.randIntN _ _)
  intro a a' ha
  cases ha
  apply Alike.act (Effect.Alike.randIntN _ _)
  intro n n' hn
  cases hn
  apply Alike.act (Effect.Alike.randIntN _ _)
  intro k k' hk
  cases hk
  exact .ret rfl

theorem assignHandle_alike (id : String) (n : ℕ) : Alike effectLikeness RecordAlike
    (assignHandle generateUsername id n) (assignHandle generateUsername id n) := by
  induction n with
  | zero => exact getUserByID_alike id
  | succ n ih =>
    apply generateUsername_alike.bind
    intro name name' hname
    rw [hname]
    apply (updateUsername_alike id name').bind
    intro r r' h
    cases h with
    | error err => exact ih
    | ok h => exact .ret (.ok h)

theorem firstOrCreate_alike (cond assign dest : UserFields) : Alike effectLikeness RecordAlike
    (firstOrCreate cond assign dest) (firstOrCreate cond assign dest) := by
  apply Alike.act (Effect.Alike.sql (by simp))
  intro r r' h
  cases h with
  | sqlError err => exact .ret (.error _)
  | @sqlOk _ x x' h =>
    rcases x with _ | u <;> rcases x' with _ | u'
    · -- not there: the INSERT
      apply Alike.act (Effect.Alike.sql (by simp))
      intro r r' h
      cases h with
      | sqlError err => exact .ret (.error _)
      | sqlOk h => exact .ret (.ok h)
    · cases h
    · cases h
    · -- there: the UPDATE of that row, by its id
      have hu : u.untimed = u'.untimed := Option.some.inj h
      have hid : u.id = u'.id := User.id_of_untimed hu
      show Alike effectLikeness RecordAlike (.act (.sql (.update (_ ++ [.id u.id.text]) _)) _)
        (.act (.sql (.update (_ ++ [.id u'.id.text]) _)) _)
      rw [hid]
      apply Alike.act (Effect.Alike.sql (by simp))
      intro r r' h
      cases h with
      | sqlError err => exact .ret (.error _)
      | @sqlOk _ stamp stamp' h =>
        apply Alike.ret
        apply RecordAlike.ok
        show (assignAll assign.nonZero u).untimed = (assignAll assign.nonZero u').untimed
        rw [assignAll_untimed, assignAll_untimed, hu]

/-- **`UpsertUser` on tables that differ in timestamps.** -/
theorem upsertUser_alike (sub email name picture : String) : Alike effectLikeness RecordAlike
    (upsertUser sub email name picture generateUsername)
    (upsertUser sub email name picture generateUsername) := by
  apply (firstOrCreate_alike _ _ _).bind
  intro r r' h
  cases h with
  | error err => exact .ret (.error _)
  | @ok u u' h =>
    have hid : u.id = u'.id := User.id_of_untimed h
    have hname : u.username = u'.username := User.username_of_untimed h
    show Alike effectLikeness RecordAlike
      (if u.username = none then assignHandle generateUsername u.id.text 10 else .ret (.ok u))
      (if u'.username = none then assignHandle generateUsername u'.id.text 10 else .ret (.ok u'))
    rw [hid, hname]
    split
    · exact assignHandle_alike _ _
    · exact .ret (.ok h)

/-- The results are alike up to the session token. -/
inductive SessionAlike :
    Except Status SessionResponse → Except Status SessionResponse → Prop where
  | error (st : Status) : SessionAlike (.error st) (.error st)
  | ok {r r' : SessionResponse} (h : r.user = r'.user) : SessionAlike (.ok r) (.ok r')

variable {J : GolangJwt} {s s' : Server}

theorem issueSession_alike {r r' : Except DbLayerError User} (h : RecordAlike r r') :
    Alike effectLikeness SessionAlike (issueSession J s r) (issueSession J s' r') := by
  cases h with
  | error err => exact .ret (.error _)
  | @ok u u' h =>
    obtain ⟨resp, hprog, hresp⟩ := issueSession_ok J s u
    obtain ⟨resp', hprog', hresp'⟩ := issueSession_ok J s' u'
    rw [hprog, hprog']
    apply Alike.act Effect.Alike.timeNow
    intro n n' _
    apply Alike.ret
    apply SessionAlike.ok
    rw [(hresp n).1, (hresp' n').1]
    show userToProto u.untimed = userToProto u'.untimed
    rw [h]

/-! ## Sign-ins with a log, twice -/

/-- The results of requests are alike up to the session token. -/
inductive ResponseAlike : Except Status Response → Except Status Response → Prop where
  | error (st : Status) : ResponseAlike (.error st) (.error st)
  | session {r r' : SessionResponse} (h : r.user = r'.user) :
    ResponseAlike (.ok (.session r)) (.ok (.session r'))

/-- The tables differ in timestamps, the logs in what redaction leaves out. -/
def LoggedAlike (x y : Logged) : Prop :=
  SameButTimes x.table y.table ∧ x.log.map LogRecord.redact = y.log.map LogRecord.redact

inductive LogEffect.Alike : LogEffect → LogEffect → Prop where
  | server {q q' : Effect} (h : Effect.Alike q q') : LogEffect.Alike (.server q) (.server q')
  | write {r r' : LogRecord} (h : r.redact = r'.redact) : LogEffect.Alike (.write r) (.write r')

inductive LogEffect.ReplyAlike : (q q' : LogEffect) → q.Reply → q'.Reply → Prop where
  | server {q q' : Effect} {r : q.Reply} {r' : q'.Reply} (h : Effect.ReplyAlike q q' r r') :
    LogEffect.ReplyAlike (.server q) (.server q') r r'
  | write {r r' : LogRecord} : LogEffect.ReplyAlike (.write r) (.write r') () ()

def logLikeness : Likeness LogEffect LogEffect.Reply := ⟨LogEffect.Alike, LogEffect.ReplyAlike⟩

theorem redact_records {q q' : Effect} (h : Effect.Alike q q') :
    q.records.map LogRecord.redact = q'.records.map LogRecord.redact := by
  cases h with
  | logPrintf format h =>
    show [LogRecord.printf format _] = [LogRecord.printf format _]
    rw [h]
  | _ => rfl

theorem logLikeness_respects : logLikeness.Respects execLogged SameButClock LoggedAlike := by
  intro e e' q q' x x' he hq hx
  cases hq with
  | @server q q' h =>
    obtain ⟨hreply, hstate⟩ := effectLikeness_respects e e' q q' x.table x'.table he h hx.1
    refine ⟨.server hreply, hstate, ?_⟩
    show (x.log ++ q.records).map _ = (x'.log ++ q'.records).map _
    rw [List.map_append, List.map_append, hx.2, redact_records h]
  | @write r r' h =>
    refine ⟨.write, hx.1, ?_⟩
    show (x.log ++ [r]).map _ = (x'.log ++ [r']).map _
    simp [hx.2, h]

/-- Programs that are alike stay so on a server with a log. -/
theorem liftLogged_alike {α β : Type} {post : α → β → Prop} {p : Srv α} {p' : Srv β}
    (h : Alike effectLikeness post p p') :
    Alike logLikeness post (liftLogged p) (liftLogged p') := by
  induction h with
  | ret h => exact .ret h
  | act hq _ ih =>
    apply Alike.act (LogEffect.Alike.server hq)
    intro r r' hr
    cases hr with
    | server hr => exact ih r r' hr

theorem liftLogged_bind {α β : Type} (p : Srv α) (f : α → Srv β) :
    liftLogged (p >>= f) = liftLogged p >>= fun a => liftLogged (f a) := by
  induction p with
  | ret a => rfl
  | act q k ih =>
    simp only [act_bind, liftLogged]
    congr 1
    funext r
    exact ih r

/-- Run on these environments, from like states, the programs end alike. -/
def MatchedAt {α β : Type} (post : α → β → Prop) (es es' : ℕ → Env) (p : Srv α) (p' : Srv β) :
    Prop :=
  ∀ x x', LoggedAlike x x' → Matched post SameButClock LoggedAlike
    (play execLogged (liftLogged p) es x) (play execLogged (liftLogged p') es' x')

section MatchedAt

variable {α β : Type} {post : α → β → Prop} {es es' : ℕ → Env} {p : Srv α} {p' : Srv β}

theorem matchedAt_of_alike (hes : ∀ i, SameButClock (es i) (es' i))
    (h : Alike effectLikeness post p p') : MatchedAt post es es' p p' := by
  intro x x' hx
  exact (liftLogged_alike h).play logLikeness_respects hes hx

theorem LoggedAlike.append_nil {x x' : Logged} (h : LoggedAlike x x') :
    LoggedAlike ⟨x.table, x.log ++ []⟩ ⟨x'.table, x'.log ++ []⟩ := by
  simpa [LoggedAlike] using h

/-- The download: both programs continue with their answer. -/
theorem matchedAt_httpGet {url : String} {k : HttpReply → Srv α} {k' : HttpReply → Srv β}
    (h : MatchedAt post (fun i => es (i + 1)) (fun i => es' (i + 1)) (k ((es 0).http url))
      (k' ((es' 0).http url))) :
    MatchedAt post es es' (.act (.httpGet url) k) (.act (.httpGet url) k') := by
  intro x x' hx
  exact h _ _ hx.append_nil

/-- The clock: each program continues with its reading. -/
theorem matchedAt_timeNow {k : Time → Srv α} {k' : Time → Srv β}
    (h : MatchedAt post (fun i => es (i + 1)) (fun i => es' (i + 1)) (k (es 0).now)
      (k' (es' 0).now)) :
    MatchedAt post es es' (.act .timeNow k) (.act .timeNow k') := by
  intro x x' hx
  exact h _ _ hx.append_nil

end MatchedAt

/-! ## The verification -/

/-- Where a sign-in can fail before the database is asked. -/
inductive Check where
  | missing
  | parse
  | key
  | signature
  | issuer
  | audience
  deriving DecidableEq

/-- With this answer of the JWKS URL and this clock reading, the token verifies to claims or fails
at a check. -/
inductive Verdict (J : GolangJwt) (clientID raw : String) (reply : HttpReply) (now : Time) :
    Except Check GoogleClaims → Prop where
  | missing (h : raw = "") : Verdict J clientID raw reply now (.error .missing)
  | parse {err : String} (hne : raw ≠ "") (h : J.parseUnverified raw = .error err) :
    Verdict J clientID raw reply now (.error .parse)
  | key {tok : Token} {err : JwksError} (hp : J.parseUnverified raw = .ok tok)
    (h : selectRSAKey (tok.header.getString "kid") reply = .error err) :
    Verdict J clientID raw reply now (.error .key)
  | signature {tok : Token} {pubKey : RSAPublicKey} {err : String}
    (hp : J.parseUnverified raw = .ok tok)
    (hk : selectRSAKey (tok.header.getString "kid") reply = .ok pubKey)
    (h : J.parseWithClaims now raw (rsaKeyFunc pubKey) = .error err) :
    Verdict J clientID raw reply now (.error .signature)
  | issuer {tok tok' : Token} {pubKey : RSAPublicKey} (hp : J.parseUnverified raw = .ok tok)
    (hk : selectRSAKey (tok.header.getString "kid") reply = .ok pubKey)
    (hv : J.parseWithClaims now raw (rsaKeyFunc pubKey) = .ok tok')
    (h : ¬ issuerOk tok'.claims = true) : Verdict J clientID raw reply now (.error .issuer)
  | audience {tok tok' : Token} {pubKey : RSAPublicKey} (hp : J.parseUnverified raw = .ok tok)
    (hk : selectRSAKey (tok.header.getString "kid") reply = .ok pubKey)
    (hv : J.parseWithClaims now raw (rsaKeyFunc pubKey) = .ok tok')
    (hi : issuerOk tok'.claims = true)
    (h : clientID ≠ "" ∧ ¬ audMatch tok'.claims clientID = true) :
    Verdict J clientID raw reply now (.error .audience)
  | verified {tok tok' : Token} {pubKey : RSAPublicKey} {g : GoogleClaims}
    (hp : J.parseUnverified raw = .ok tok)
    (hk : selectRSAKey (tok.header.getString "kid") reply = .ok pubKey)
    (hv : J.parseWithClaims now raw (rsaKeyFunc pubKey) = .ok tok')
    (hi : issuerOk tok'.claims = true)
    (ha : clientID ≠ "" → audMatch tok'.claims clientID = true)
    (hg : g = googleClaims tok'.claims) : Verdict J clientID raw reply now (.ok g)

/-- Every token gets a verdict. -/
theorem exists_verdict (J : GolangJwt) (clientID raw : String) (reply : HttpReply) (now : Time) :
    ∃ v, Verdict J clientID raw reply now v := by
  by_cases hne : raw = ""
  · exact ⟨_, .missing hne⟩
  cases hp : J.parseUnverified raw with
  | error err => exact ⟨_, .parse hne hp⟩
  | ok tok =>
    cases hk : selectRSAKey (tok.header.getString "kid") reply with
    | error err => exact ⟨_, .key hp hk⟩
    | ok pubKey =>
      cases hv : J.parseWithClaims now raw (rsaKeyFunc pubKey) with
      | error err => exact ⟨_, .signature hp hk hv⟩
      | ok tok' =>
        by_cases hi : issuerOk tok'.claims = true
        · by_cases ha : clientID ≠ "" ∧ ¬ audMatch tok'.claims clientID = true
          · exact ⟨_, .audience hp hk hv hi ha⟩
          · exact ⟨_, .verified hp hk hv hi (by simpa using ha) rfl⟩
        · exact ⟨_, .issuer hp hk hv hi⟩

theorem refused_alike (format : String) {args args' : List LogArg}
    (h : args.map LogArg.redact = args'.map LogArg.redact) :
    Alike effectLikeness SessionAlike (refuse format args >>= signInVerified J s)
      (refuse format args' >>= signInVerified J s') := by
  apply Alike.act (Effect.Alike.logPrintf format h)
  intro r r' _
  apply Alike.act (Effect.Alike.logPrintf _ rfl)
  intro r r' _
  exact .ret (.error _)

theorem loginWithGoogle_empty (J : GolangJwt) (s : Server) :
    loginWithGoogle J s "" = .ret (.error ⟨.invalidArgument, "id_token is required"⟩) := by
  rw [loginWithGoogle, if_pos rfl]
  rfl

/-- A sign-in with a token that parses starts with the download. -/
theorem loginWithGoogle_of_parsed {raw : String} {tok : Token}
    (hp : J.parseUnverified raw = .ok tok) :
    loginWithGoogle J s raw = .act (.httpGet s.jwksURL) fun reply =>
      withRSAKey J raw s.googleClientID (tok.header.getString "kid") reply >>=
        signInVerified J s := by
  rw [loginWithGoogle_eq (ne_empty_of_parsed hp), verifyGoogleIDToken_of_parsed hp]
  rfl

/-- With the key at hand, the clock is read and the checks are made. -/
theorem withRSAKey_bind_of_key {raw kid : String} {reply : HttpReply} {pubKey : RSAPublicKey}
    (hk : selectRSAKey kid reply = .ok pubKey) :
    withRSAKey J raw s.googleClientID kid reply >>= signInVerified J s =
      .act .timeNow fun now =>
        checkGoogleIDToken J raw s.googleClientID pubKey now >>= signInVerified J s := by
  rw [withRSAKey_of_key hk]
  rfl

/-- Two sign-ins whose keys are found are compared from the second parse on. -/
theorem matchedAt_of_check {es es' : ℕ → Env} {raw raw' : String} {tok tok' : Token}
    {key key' : RSAPublicKey} (hurl : s.jwksURL = s'.jwksURL)
    (hp : J.parseUnverified raw = .ok tok) (hp' : J.parseUnverified raw' = .ok tok')
    (hk : selectRSAKey (tok.header.getString "kid") ((es 0).http s.jwksURL) = .ok key)
    (hk' : selectRSAKey (tok'.header.getString "kid") ((es' 0).http s'.jwksURL) = .ok key')
    (h : MatchedAt SessionAlike (fun i => es (i + 2)) (fun i => es' (i + 2))
      (checkGoogleIDToken J raw s.googleClientID key (es 1).now >>= signInVerified J s)
      (checkGoogleIDToken J raw' s'.googleClientID key' (es' 1).now >>= signInVerified J s')) :
    MatchedAt SessionAlike es es' (loginWithGoogle J s raw) (loginWithGoogle J s' raw') := by
  rw [loginWithGoogle_of_parsed hp, loginWithGoogle_of_parsed hp', ← hurl]
  rw [← hurl] at hk'
  apply matchedAt_httpGet
  rw [withRSAKey_bind_of_key hk, withRSAKey_bind_of_key hk']
  exact matchedAt_timeNow h

/-- **Two sign-ins with the same verdict end alike.** -/
theorem loginWithGoogle_matched (hurl : s.jwksURL = s'.jwksURL) {es es' : ℕ → Env}
    (hes : ∀ i, SameButClock (es i) (es' i)) {raw raw' : String} {v : Except Check GoogleClaims}
    (hv : Verdict J s.googleClientID raw ((es 0).http s.jwksURL) (es 1).now v)
    (hv' : Verdict J s'.googleClientID raw' ((es' 0).http s'.jwksURL) (es' 1).now v) :
    MatchedAt SessionAlike es es' (loginWithGoogle J s raw) (loginWithGoogle J s' raw') := by
  have hes₁ : ∀ i, SameButClock (es (i + 1)) (es' (i + 1)) := fun i => hes (i + 1)
  have hes₂ : ∀ i, SameButClock (es (i + 2)) (es' (i + 2)) := fun i => hes (i + 2)
  cases hv with
  | missing h =>
    cases hv' with
    | missing h' =>
      rw [h, h', loginWithGoogle_empty, loginWithGoogle_empty]
      exact matchedAt_of_alike hes (.ret (.error _))
  | parse hne h =>
    cases hv' with
    | parse hne' h' =>
      rw [loginWithGoogle_eq hne, loginWithGoogle_eq hne', verifyGoogleIDToken_of_malformed h,
        verifyGoogleIDToken_of_malformed h']
      exact matchedAt_of_alike hes (refused_alike _ rfl)
  | key hp h =>
    cases hv' with
    | key hp' h' =>
      rw [loginWithGoogle_of_parsed hp, loginWithGoogle_of_parsed hp', ← hurl]
      rw [← hurl] at h'
      apply matchedAt_httpGet
      rw [withRSAKey_of_noKey h, withRSAKey_of_noKey h']
      exact matchedAt_of_alike hes₁ (refused_alike _ rfl)
  | signature hp hk h =>
    cases hv' with
    | signature hp' hk' h' =>
      apply matchedAt_of_check hurl hp hp' hk hk'
      rw [checkGoogleIDToken_of_invalid h, checkGoogleIDToken_of_invalid h']
      exact matchedAt_of_alike hes₂ (refused_alike _ rfl)
  | issuer hp hk hverified h =>
    cases hv' with
    | issuer hp' hk' hverified' h' =>
      apply matchedAt_of_check hurl hp hp' hk hk'
      rw [checkGoogleIDToken_of_issuer hverified h, checkGoogleIDToken_of_issuer hverified' h']
      exact matchedAt_of_alike hes₂ (refused_alike _ rfl)
  | audience hp hk hverified hi h =>
    cases hv' with
    | audience hp' hk' hverified' hi' h' =>
      apply matchedAt_of_check hurl hp hp' hk hk'
      rw [checkGoogleIDToken_of_audience hverified hi h,
        checkGoogleIDToken_of_audience hverified' hi' h']
      exact matchedAt_of_alike hes₂ (refused_alike _ rfl)
  | @verified tok tok' pubKey g hp hk hverified hi ha hg =>
    cases hv' with
    | verified hp' hk' hverified' hi' ha' hg' =>
      apply matchedAt_of_check hurl hp hp' hk hk'
      rw [checkGoogleIDToken_of_valid hverified hi ha,
        checkGoogleIDToken_of_valid hverified' hi' ha', ← hg, ← hg']
      apply matchedAt_of_alike hes₂
      apply (upsertUser_alike g.sub g.email g.displayName g.picture).bind
      intro r r' hr
      exact issueSession_alike hr

/-! ## The logs -/

theorem redact_requestDone (info : UnaryServerInfo) (d d' : ℕ) {r r' : Except Status Response}
    (h : ResponseAlike r r') :
    (requestDone info d r).redact = (requestDone info d' r').redact := by
  cases h with
  | error st =>
    unfold requestDone
    dsimp only
    split <;> rfl
  | @session r r' h => simp [requestDone, LogRecord.redact, Attr.redact, h]

theorem finishCall_alike (info : UnaryServerInfo) (start start' : Time)
    {r r' : Except Status Response} (h : ResponseAlike r r') :
    Alike logLikeness ResponseAlike (finishCall info start r) (finishCall info start' r') := by
  apply Alike.act (LogEffect.Alike.server Effect.Alike.timeNow)
  intro n n' _
  apply Alike.act (LogEffect.Alike.write (redact_requestDone info _ _ h))
  intro _ _ _
  exact .ret h

/-- A sign-in is public: the auth interceptor passes it on. -/
theorem serveLogged_login (J : GolangJwt) (env : Environ) (s : Server) (now : Time) (ctx : Context)
    (raw : String) : serveLogged J env s now ctx (.loginWithGoogle raw) =
      loggingInterceptor ctx (.loginWithGoogle raw) ⟨"/greeter.AuthService/LoginWithGoogle"⟩
        (handler J s) := by
  have hpublic : (Request.loginWithGoogle raw).fullMethod ∈ publicRPCs := by
    show "/greeter.AuthService/LoginWithGoogle" ∈ publicRPCs
    decide
  rw [serveLogged, unaryAuthInterceptor, if_pos hpublic]
  rfl

theorem handler_matched {es es' : ℕ → Env} {raw raw' : String} (ctx : Context)
    (h : MatchedAt SessionAlike es es' (loginWithGoogle J s raw) (loginWithGoogle J s' raw')) :
    MatchedAt ResponseAlike es es' (handler J s ctx (.loginWithGoogle raw))
      (handler J s' ctx (.loginWithGoogle raw')) := by
  intro x x' hx
  obtain ⟨hr, hstate, hes⟩ := h x x' hx
  show Matched _ _ _ (play execLogged (liftLogged (loginWithGoogle J s raw >>= _)) es x)
    (play execLogged (liftLogged (loginWithGoogle J s' raw' >>= _)) es' x')
  rw [liftLogged_bind, liftLogged_bind, play_bind, play_bind]
  refine ⟨?_, hstate, hes⟩
  show ResponseAlike (Except.map Response.session (play execLogged _ es x).1)
    (Except.map Response.session (play execLogged _ es' x').1)
  generalize (play execLogged (liftLogged (loginWithGoogle J s raw)) es x).1 = r at hr ⊢
  generalize (play execLogged (liftLogged (loginWithGoogle J s' raw')) es' x').1 = r' at hr ⊢
  cases hr with
  | error st => exact .error st
  | ok h => exact .session h

/-- The record without the time the call took. -/
def LogRecord.undated : LogRecord → LogRecord
  | .slog level msg attrs => .slog level msg (attrs.map fun kv =>
      (kv.1, match kv.2 with
        | .duration _ => .duration 0
        | a => a))
  | r => r

/-- **The log of a sign-in starts with the ID token.** -/
theorem log_starts_with_token (J : GolangJwt) (env : Environ) (s : Server) (now : Time)
    (ctx : Context) (raw : String) (es : ℕ → Env) (t : UsersTable) :
    ∃ rest, (play execLogged (serveLogged J env s now ctx (.loginWithGoogle raw)) es
      ⟨t, []⟩).2.1.log =
        requestReceived ⟨"/greeter.AuthService/LoginWithGoogle"⟩ (.loginWithGoogle raw) ::
          rest := by
  obtain ⟨lines, duration, rest, -, hplay⟩ := play_loggingInterceptor ctx (.loginWithGoogle raw)
    ⟨"/greeter.AuthService/LoginWithGoogle"⟩ (handler J s) es ⟨t, []⟩
  rw [serveLogged_login, hplay]
  exact ⟨_, by
    simp only [List.nil_append, List.cons_append]
    rfl⟩

/-- The log of a sign-in that succeeds ends with the session token. -/
theorem log_ends_with_session (J : GolangJwt) (env : Environ) (s : Server) (now : Time)
    (ctx : Context) (raw : String) (es : ℕ → Env) (t : UsersTable) {r : SessionResponse}
    (h : (play execLogged (serveLogged J env s now ctx (.loginWithGoogle raw)) es ⟨t, []⟩).1 =
      .ok (.session r)) :
    ∃ init duration, (play execLogged (serveLogged J env s now ctx (.loginWithGoogle raw)) es
      ⟨t, []⟩).2.1.log = init ++ [requestDone ⟨"/greeter.AuthService/LoginWithGoogle"⟩ duration
        (.ok (.session r))] := by
  obtain ⟨lines, duration, rest, -, hplay⟩ := play_loggingInterceptor ctx (.loginWithGoogle raw)
    ⟨"/greeter.AuthService/LoginWithGoogle"⟩ (handler J s) es ⟨t, []⟩
  rw [serveLogged_login, hplay] at h ⊢
  exact ⟨_, duration, by rw [← h]⟩

namespace Sample

theorem adaIDToken_verdict : Verdict jwt server.googleClientID adaIDToken.text
    (env.http server.jwksURL) env.now (.ok (googleClaims adaToken.claims)) := by
  obtain ⟨hparsed, ⟨key, hkey, hverified⟩, hissuer⟩ := adaIDToken_signed server.jwksURL
  exact .verified hparsed hkey hverified hissuer (fun _ => sample_audience (.inl rfl)) rfl

/-- A Google ID token of the table with a line break behind it, which the decoder skips. -/
theorem googleSigned_break {e : TableEntry} (he : e ∈ table.entries)
    (hmethod : e.method = .rsa .sha256) (hkid : e.header.getString "kid" = "k1")
    (hkey : e.key = .rsa publicKey) {now : Time}
    (hexp : MapClaims.expOk Int.floor now (readClaims e.claims) = true)
    (hnbf : MapClaims.nbfOk Int.floor now (readClaims e.claims) = true)
    (hissuer : issuerOk (readClaims e.claims) = true) :
    GoogleSigned jwt (.body (.ok ⟨[jwk]⟩)) now (e.text ++ "\n")
      (e.token (Base64Url.encode e.signature ++ "\n")) where
  parsed := TokenTable.parseUnverified_break he
  verified := by
    refine ⟨publicKey, ?_, TokenTable.parseWithClaims_break he ?_ hexp hnbf⟩
    · show selectRSAKey (MapClaims.getString e.header "kid") _ = _
      rw [hkid]
      exact selectRSAKey_jwk
    · show rsaKeyFunc publicKey { method := e.method, .. } = .ok e.key
      rw [hkey, hmethod]
      rfl
  issuer := hissuer

theorem adaIDToken_break_verdict : Verdict jwt server.googleClientID (adaIDToken.text ++ "\n")
    (env.http server.jwksURL) env.now (.ok (googleClaims adaToken.claims)) := by
  have hsigned : GoogleSigned jwt (.body (.ok ⟨[jwk]⟩)) env.now (adaIDToken.text ++ "\n") _ :=
    googleSigned_break (e := adaIDToken) (by simp [table]) rfl rfl rfl (by decide +kernel)
      (by decide +kernel) (by decide +kernel)
  obtain ⟨hparsed, ⟨key, hkey, hverified⟩, hissuer⟩ := hsigned
  have hclaims : googleClaims adaToken.claims =
      googleClaims (adaIDToken.token (Base64Url.encode adaIDToken.signature ++ "\n")).claims := by
    show googleClaims (readClaims adaIDToken.claims) = googleClaims (readClaims adaIDToken.claims)
    rfl
  exact .verified hparsed hkey hverified hissuer (fun _ => sample_audience (.inl rfl)) hclaims

/-- The sample server, signing with the empty key. -/
def openServer : Server := { server with jwtSecret := [] }

theorem sameButClock_env (i : ℕ) : SameButClock ((fun _ => env) i) ((fun _ => env) i) :=
  ⟨rfl, rfl, rfl, rfl⟩

end Sample

end SampleGrpc
