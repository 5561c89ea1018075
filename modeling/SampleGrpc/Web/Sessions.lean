import SampleGrpc.Interaction.History
import SampleGrpc.Web.AuthContext

/-!
# When a browser keeps its session

A restore runs its continuation after an arbitrary delay and looks neither at the error it got nor
at what `localStorage` holds by then.

**Across tabs.** Any failed restore removes whatever JWT is cached. The cached JWT is only ever
discarded for cause as long as each restore that fails does so with an `AuthError` for the JWT that
is still cached.

**In one tab.** A provider's `user` and `jwt` are always set together. They agree with
`localStorage` as long as no restore settles behind a `signIn` or `signOut`: a success finds its
own JWT still cached, a failure finds nobody signed in.

Main results: `discardedForCause_iff` and `sessionAgrees_of_timely`, with the runs that go wrong.
-/

namespace SampleGrpc.Web

open Browser

variable {Tab User : Type} [DecidableEq Tab]

/-- The history of a browser. -/
abbrev BrowserHistory (Tab User : Type) := List (Entry (Browser Tab User) (Event Tab User))

/-! ## Across tabs -/

/-- Some tab cached `jwt` by `signIn`. -/
def SignedIn (hist : BrowserHistory Tab User) (jwt : String) : Prop :=
  ∃ e ∈ hist, ∃ i u, e.event = .signIn i jwt u

/-- The step removes `jwt` from `localStorage`. -/
def Removes (e : Entry (Browser Tab User) (Event Tab User)) (jwt : String) : Prop :=
  e.before.cachedJwt = some jwt ∧ e.after.cachedJwt = none

/-- A cause for discarding `jwt`: a `signOut`, or a restore of `jwt` failing with `AuthError`. -/
def Cause (jwt : String) : Event Tab User → Prop
  | .signOut _ => True
  | .settled _ cached answer =>
    cached = jwt ∧ ∃ err, readResponse answer = .error err ∧ err.isAuthError
  | _ => False

/-- Every JWT that `signIn` cached is removed only for cause. -/
def DiscardedForCause (hist : BrowserHistory Tab User) : Prop :=
  ∀ pre e post, hist = pre ++ e :: post →
    ∀ jwt, SignedIn pre jwt → Removes e jwt → Cause jwt e.event

/-- A restore that fails while a JWT from `signIn` is cached was made with that JWT, and the failure
is an `AuthError`. -/
def FailsForCause (hist : BrowserHistory Tab User) : Prop :=
  ∀ pre e post, hist = pre ++ e :: post → ∀ i cached answer err,
    e.event = .settled i cached answer → readResponse answer = .error err →
      ∀ jwt, SignedIn pre jwt → e.before.cachedJwt = some jwt → cached = jwt ∧ err.isAuthError

/-- **What removes a cached JWT.** Only a `signOut` and a failed restore leave nothing cached. -/
theorem removes_cases {e : Entry (Browser Tab User) (Event Tab User)}
    (hs : e.before.Steps e.event e.after) {jwt : String} (hr : Removes e jwt) :
    (∃ i, e.event = .signOut i) ∨ ∃ i cached answer err,
      e.event = .settled i cached answer ∧ readResponse answer = .error err := by
  have hbefore := hr.1
  have hafter := hr.2
  cases hev : e.event with
  | mount i =>
    rw [hev, steps_mount] at hs
    rw [hs, cachedJwt_mount, hbefore] at hafter
    simp at hafter
  | settled i cached answer =>
    right
    rw [hev, steps_settled] at hs
    cases hres : readResponse answer with
    | ok u =>
      rw [hs.2, hres, cachedJwt_settle_ok, hbefore] at hafter
      simp at hafter
    | error err => exact ⟨i, cached, answer, err, rfl, hres⟩
  | signIn i newJwt newUser =>
    rw [hev, steps_signIn] at hs
    rw [hs, cachedJwt_signIn] at hafter
    simp at hafter
  | signOut i => exact Or.inl ⟨i, rfl⟩

/-- A failed restore removes whatever is cached. -/
theorem removes_of_failed {e : Entry (Browser Tab User) (Event Tab User)}
    (hs : e.before.Steps e.event e.after) {i : Tab} {cached jwt : String} {answer : Fetched User}
    {err : ApiError} (hev : e.event = .settled i cached answer)
    (hres : readResponse answer = .error err) (hj : e.before.cachedJwt = some jwt) :
    Removes e jwt := by
  rw [hev, steps_settled] at hs
  refine ⟨hj, ?_⟩
  rw [hs.2, hres, cachedJwt_settle_error]

/-- **In every run of any number of tabs, the cached session is discarded only for cause exactly
when each restore that fails, fails with an `AuthError` for the JWT still cached.** -/
theorem discardedForCause_iff {s : LocalStorage} {hist : BrowserHistory Tab User}
    {b : Browser Tab User} (h : Run Steps (opened s) hist b) :
    DiscardedForCause hist ↔ FailsForCause hist := by
  have hstep : ∀ pre e post, hist = pre ++ e :: post → e.before.Steps e.event e.after := by
    intro pre e post hx
    exact h.step_of_mem (by simp [hx])
  constructor
  · intro hdis pre e post hx i cached answer err hev hres jwt hin hj
    have hrem : Removes e jwt := removes_of_failed (hstep pre e post hx) hev hres hj
    have hcause := hdis pre e post hx jwt hin hrem
    rw [hev] at hcause
    obtain ⟨hc, err', herr', hauth⟩ := hcause
    rw [hres] at herr'
    rw [Except.error.inj herr']
    exact ⟨hc, hauth⟩
  · intro hfails pre e post hx jwt hin hrem
    rcases removes_cases (hstep pre e post hx) hrem with
      ⟨i, hev⟩ | ⟨i, cached, answer, err, hev, hres⟩
    · rw [hev]
      trivial
    · obtain ⟨hc, hauth⟩ := hfails pre e post hx i cached answer err hev hres jwt hin hrem.1
      rw [hev]
      exact ⟨hc, err, hres, hauth⟩

namespace Sample

def empty : Browser Bool Unit := opened fun _ => none

def signedIn : Browser Bool Unit := empty.signIn false "token" ()

def restoring : Browser Bool Unit := signedIn.mount true

def answered (answer : Fetched Unit) : Browser Bool Unit :=
  restoring.settle true "token" (readResponse answer)

/-- One tab signs in, another restores the session and is answered. -/
def history (answer : Fetched Unit) : BrowserHistory Bool Unit :=
  [⟨empty, .signIn false "token" (), signedIn⟩, ⟨signedIn, .mount true, restoring⟩,
    ⟨restoring, .settled true "token" answer, answered answer⟩]

theorem history_run (answer : Fetched Unit) :
    Run Steps empty (history answer) (answered answer) := by
  have h₁ : Run Steps empty _ signedIn := Run.nil.snoc (steps_signIn.mpr rfl)
  have h₂ : Run Steps empty _ restoring := h₁.snoc (steps_mount.mpr rfl)
  exact h₂.snoc (steps_settled.mpr ⟨by decide, rfl⟩)

def expired : Fetched Unit := .response 401 (.ok "token expired") (.error "not JSON")

def unavailable : Fetched Unit := .response 503 (.ok "upstream down") (.error "not JSON")

end Sample

/-- A restore answered 401. -/
theorem discardedForCause_expired :
    DiscardedForCause (Sample.history Sample.expired) ↔
      FailsForCause (Sample.history Sample.expired) :=
  discardedForCause_iff (Sample.history_run Sample.expired)

/-- A 503 to one tab discards the session of another tab's `signIn`. -/
theorem not_discardedForCause :
    ¬ ∀ (hist : BrowserHistory Bool Unit) (b : Browser Bool Unit),
      Run Steps Sample.empty hist b → DiscardedForCause hist := by
  intro h
  have hdis := h _ _ (Sample.history_run Sample.unavailable)
  have hin : SignedIn ((Sample.history Sample.unavailable).take 2) "token" :=
    ⟨_, List.mem_cons_self, false, (), rfl⟩
  have hcause := hdis _ _ [] rfl "token" hin ⟨by decide, by decide⟩
  obtain ⟨-, err, herr, hauth⟩ := hcause
  obtain rfl := Except.error.inj herr
  exact absurd hauth (by decide)

/-! ## In one tab -/

/-- `user` and `jwt` of the provider are set together. -/
def Paired (b : Browser Unit User) : Prop :=
  (b.provider ()).user ≠ none ↔ (b.provider ()).jwt ≠ none

/-- The last `signIn` or `signOut` of the history is a `signOut`. -/
def SignedOut (hist : BrowserHistory Unit User) : Prop :=
  ∃ pre e post, hist = pre ++ e :: post ∧ e.event = .signOut () ∧
    ∀ x ∈ post, ∀ newJwt newUser, x.event ≠ .signIn () newJwt newUser

/-- The session state of the provider agrees with `localStorage`. -/
structure SessionAgrees (hist : BrowserHistory Unit User) (b : Browser Unit User) : Prop where
  paired : Paired b
  cached : b.pending () = [] → (b.provider ()).jwt = b.cachedJwt
  signedOut : SignedOut hist → (b.provider ()).user = none ∧ (b.provider ()).jwt = none

/-- A restore that settles is not late: on success its JWT is still the cached one, on failure
nobody is signed in. -/
def Timely (e : Entry (Browser Unit User) (Event Unit User)) : Prop :=
  ∀ cached answer, e.event = .settled () cached answer →
    match readResponse answer with
    | .ok _ => e.before.cachedJwt = some cached
    | .error _ => (e.before.provider ()).jwt = none

theorem signedOut_snoc {hist : BrowserHistory Unit User}
    {x : Entry (Browser Unit User) (Event Unit User)} (h : SignedOut (hist ++ [x])) :
    x.event = .signOut () ∨
      SignedOut hist ∧ ∀ newJwt newUser, x.event ≠ .signIn () newJwt newUser := by
  obtain ⟨pre, e, post, hx, hout, hpost⟩ := h
  rcases List.eq_nil_or_concat post with rfl | ⟨post', y, rfl⟩
  · left
    obtain ⟨-, hlast⟩ := List.append_inj' hx rfl
    rw [(List.cons.inj hlast).1, hout]
  · right
    rw [List.concat_eq_append, ← List.cons_append, ← List.append_assoc] at hx
    obtain ⟨hhist, hlast⟩ := List.append_inj' hx rfl
    obtain rfl : x = y := (List.cons.inj hlast).1
    refine ⟨⟨pre, e, post', hhist, hout, fun z hz => hpost z (by simp [hz])⟩, hpost x (by simp)⟩

/-- `user` and `jwt` are set together by every event. -/
theorem paired_step {b b' : Browser Unit User} {e : Event Unit User} (hs : b.Steps e b')
    (h : Paired b) : Paired b' := by
  cases e with
  | mount i =>
    rw [steps_mount] at hs
    rw [hs]
    rcases mount_cases b () with ⟨-, hb⟩ | ⟨cached, -, -, hb⟩ <;> rw [hb]
    · simpa [Paired, setProvider] using h
    · simpa [Paired, setPending] using h
  | settled i cached answer =>
    rw [steps_settled] at hs
    rw [hs.2]
    cases readResponse answer with
    | ok u => simp [Paired, Provider.restored]
    | error err => simpa [Paired, Provider.restored] using h
  | signIn i newJwt newUser =>
    rw [steps_signIn] at hs
    simp [hs, Paired, Provider.signIn]
  | signOut i =>
    rw [steps_signOut] at hs
    simp [hs, Paired, Provider.signOut]

/-- **`user` is set exactly when `jwt` is, in every state of every run.** -/
theorem paired_of_run {s : LocalStorage} {hist : BrowserHistory Unit User}
    {b : Browser Unit User} (h : Run Steps ((opened s).mount ()) hist b) : Paired b := by
  apply Run.invariant (fun _ b => Paired b) _ _ h
  · rcases mount_cases (opened s : Browser Unit User) () with ⟨-, hb⟩ | ⟨cached, -, -, hb⟩ <;>
      rw [hb] <;> simp [Paired, opened, setProvider, setPending, Provider.mounted]
  · intro hist c e c' hc hs
    exact paired_step hs hc

/-- While restores are timely: nobody is signed in with a JWT that is not cached, and a cached JWT
nobody is signed in with is being restored. -/
structure Restorable (b : Browser Unit User) : Prop where
  signedIn : ∀ jwt, (b.provider ()).jwt = some jwt → b.cachedJwt = some jwt
  cached : ∀ jwt, b.cachedJwt = some jwt → (b.provider ()).jwt = some jwt ∨ b.pending () ≠ []

theorem restorable_mount {b : Browser Unit User} (h : Restorable b) : Restorable (b.mount ()) := by
  rcases mount_cases b () with ⟨-, hb⟩ | ⟨cached, -, -, hb⟩ <;> rw [hb]
  · exact ⟨by simpa [setProvider, cachedJwt] using h.signedIn,
      by simpa [setProvider, cachedJwt] using h.cached⟩
  · exact ⟨by simpa [setPending, cachedJwt] using h.signedIn, by simp [setPending]⟩

theorem restorable_step {e : Entry (Browser Unit User) (Event Unit User)}
    (hs : e.before.Steps e.event e.after) (ht : Timely e) (h : Restorable e.before) :
    Restorable e.after := by
  cases hev : e.event with
  | mount i =>
    rw [hev, steps_mount] at hs
    rw [hs]
    exact restorable_mount h
  | settled i cached answer =>
    have hlate := ht cached answer hev
    rw [hev, steps_settled] at hs
    rw [hs.2]
    cases hres : readResponse answer with
    | ok u =>
      have hc : e.before.cachedJwt = some cached := by simpa [hres] using hlate
      constructor <;> simp [Provider.restored, hc]
    | error err =>
      have hj : (e.before.provider ()).jwt = none := by simpa [hres] using hlate
      constructor <;> simp [Provider.restored, hj]
  | signIn i newJwt newUser =>
    rw [hev, steps_signIn] at hs
    rw [hs]
    constructor <;> simp [Provider.signIn]
  | signOut i =>
    rw [hev, steps_signOut] at hs
    rw [hs]
    constructor <;> simp [Provider.signOut]

/-- Nobody is signed in and nothing is cached. -/
def LoggedOut (b : Browser Unit User) : Prop :=
  (b.provider ()).jwt = none ∧ b.cachedJwt = none

theorem loggedOut_signOut {e : Entry (Browser Unit User) (Event Unit User)}
    (hs : e.before.Steps e.event e.after) (hev : e.event = .signOut ()) : LoggedOut e.after := by
  rw [hev, steps_signOut] at hs
  simp [hs, LoggedOut, Provider.signOut]

theorem loggedOut_step {e : Entry (Browser Unit User) (Event Unit User)}
    (hs : e.before.Steps e.event e.after) (ht : Timely e)
    (hin : ∀ newJwt newUser, e.event ≠ .signIn () newJwt newUser) (h : LoggedOut e.before) :
    LoggedOut e.after := by
  cases hev : e.event with
  | mount i =>
    rw [hev, steps_mount] at hs
    rw [hs]
    rcases mount_cases e.before () with ⟨-, hb⟩ | ⟨cached, -, hc, -⟩
    · rw [hb]
      simpa [LoggedOut, setProvider, cachedJwt] using h
    · rw [h.2] at hc
      simp at hc
  | settled i cached answer =>
    have hlate := ht cached answer hev
    rw [hev, steps_settled] at hs
    rw [hs.2]
    cases hres : readResponse answer with
    | ok u =>
      -- a timely success finds its JWT cached
      have hc : e.before.cachedJwt = some cached := by simpa [hres] using hlate
      rw [h.2] at hc
      simp at hc
    | error err => simp [LoggedOut, Provider.restored, h.1]
  | signIn i newJwt newUser => exact absurd hev (hin newJwt newUser)
  | signOut i => exact loggedOut_signOut hs hev

/-- What timely restores keep along a run. -/
theorem restorable_of_run {s : LocalStorage} {hist : BrowserHistory Unit User}
    {b : Browser Unit User} (h : Run Steps ((opened s).mount ()) hist b)
    (hs : s.getItem STORAGE_KEY ≠ some "") (ht : ∀ e ∈ hist, Timely e) :
    Restorable b ∧ (SignedOut hist → LoggedOut b) := by
  revert ht
  apply Run.invariant
    (fun hist b => (∀ e ∈ hist, Timely e) → Restorable b ∧ (SignedOut hist → LoggedOut b)) _ _ h
  · intro _
    constructor
    · rcases mount_cases (opened s : Browser Unit User) () with ⟨hc, hb⟩ | ⟨cached, -, -, hb⟩ <;>
        rw [hb]
      · rcases hc with hc | hc
        · constructor <;> simp_all [setProvider, opened, Provider.mounted, cachedJwt]
        · exact absurd hc hs
      · constructor <;> simp [setPending, opened, Provider.mounted]
    · intro hout
      obtain ⟨pre, e, post, hx, -⟩ := hout
      simp at hx
  · intro hist c e c' ih hstep ht
    have hlast : Timely ⟨c, e, c'⟩ := ht _ (by simp)
    obtain ⟨hrest, hout⟩ := ih fun x hx => ht x (by simp [hx])
    refine ⟨restorable_step hstep hlast hrest, fun hso => ?_⟩
    rcases signedOut_snoc hso with hev | ⟨hprev, hin⟩
    · exact loggedOut_signOut hstep hev
    · exact loggedOut_step hstep hlast hin (hout hprev)

/-- **While no restore settles late, the provider agrees with `localStorage`, and stays signed out
after a `signOut`.** -/
theorem sessionAgrees_of_timely {s : LocalStorage} {hist : BrowserHistory Unit User}
    {b : Browser Unit User} (h : Run Steps ((opened s).mount ()) hist b)
    (hs : s.getItem STORAGE_KEY ≠ some "") (ht : ∀ e ∈ hist, Timely e) : SessionAgrees hist b := by
  have hpair := paired_of_run h
  obtain ⟨hrest, hout⟩ := restorable_of_run h hs ht
  refine ⟨hpair, fun hp => ?_, fun hso => ?_⟩
  · -- with nothing pending, what is cached is what somebody is signed in with
    cases hc : b.cachedJwt with
    | none =>
      cases hj : (b.provider ()).jwt with
      | none => rfl
      | some jwt => simpa [hc] using hrest.signedIn jwt hj
    | some jwt => simpa [hp] using hrest.cached jwt hc
  · have hj : (b.provider ()).jwt = none := (hout hso).1
    refine ⟨?_, hj⟩
    by_contra hu
    exact (hpair.mp hu) hj

namespace Sample

def stored : LocalStorage := LocalStorage.setItem (fun _ => none) STORAGE_KEY "token"

def mounted : Browser Unit Unit := (opened stored).mount ()

def welcome : Fetched Unit := .response 200 (.ok "profile") (.ok ())

end Sample

/-- A restore that settles with nothing in between. -/
theorem sessionAgrees_restored :
    ∃ b, SessionAgrees [⟨Sample.mounted, .settled () "token" Sample.welcome, b⟩] b := by
  have hrun : Run Steps Sample.mounted [⟨_, .settled () "token" Sample.welcome, _⟩] _ :=
    Run.nil.snoc (steps_settled.mpr ⟨by decide, rfl⟩)
  refine ⟨_, sessionAgrees_of_timely hrun (by decide) ?_⟩
  intro e he cached answer hev
  rw [List.mem_singleton.mp he] at hev ⊢
  cases hev
  rfl

/-- A restore that succeeds behind a `signOut` signs the user in again. -/
theorem not_sessionAgrees :
    ¬ ∀ (s : LocalStorage) (hist : BrowserHistory Unit Unit) (b : Browser Unit Unit),
      s.getItem STORAGE_KEY ≠ some "" → Run Steps ((opened s).mount ()) hist b →
        SessionAgrees hist b := by
  intro h
  have h₁ : Run Steps Sample.mounted _ (Sample.mounted.signOut ()) :=
    Run.nil.snoc (steps_signOut.mpr rfl)
  have h₂ := h₁.snoc (e := .settled () "token" Sample.welcome) (steps_settled.mpr ⟨by decide, rfl⟩)
  have hagrees := h Sample.stored _ _ (by decide) h₂
  have hout := hagrees.signedOut ⟨[], _, _, rfl, rfl, by simp⟩
  exact absurd hout.2 (by decide)

end SampleGrpc.Web
