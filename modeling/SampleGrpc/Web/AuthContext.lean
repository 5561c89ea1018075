import Mathlib.Logic.Function.Basic
import Mathlib.Data.List.Basic
import SampleGrpc.Web.Api

/-!
# The web client's session

`AuthProvider` keeps the session of one browser tab; every tab of the browser shares
`localStorage`, where `signIn` caches the session JWT. On mount a provider reads the cached JWT and
validates it with `getCurrentUser`; the continuation runs when that call settles, by when
`localStorage`, the provider and the other tabs may have moved on.

**The state** (`Browser`). `localStorage`, the provider of each tab, and for each tab the restores
whose call has not settled, each with the JWT it read on mount.

Main results: `steps_mount`, `steps_settled`, `steps_signIn`, `steps_signOut`, what each event does,
and `mount_cases`.
-/

namespace SampleGrpc.Web

/-! ## `localStorage` -/

/-- The strings under each key. -/
abbrev LocalStorage := String → Option String

namespace LocalStorage

def getItem (s : LocalStorage) (key : String) : Option String := s key

def setItem (s : LocalStorage) (key value : String) : LocalStorage :=
  Function.update s key (some value)

def removeItem (s : LocalStorage) (key : String) : LocalStorage := Function.update s key none

@[simp] theorem getItem_setItem (s : LocalStorage) (key value : String) :
    (s.setItem key value).getItem key = some value := by
  simp [getItem, setItem]

@[simp] theorem getItem_removeItem (s : LocalStorage) (key : String) :
    (s.removeItem key).getItem key = none := by
  simp [getItem, removeItem]

end LocalStorage

def STORAGE_KEY : String := "sample_grpc_session_jwt"

/-! ## One provider -/

/-- The state of an `AuthProvider`. -/
structure Provider (User : Type) where
  user : Option User
  jwt : Option String
  loading : Bool
  sessionExpired : Bool

namespace Provider

variable {User : Type}

/-- The `useState` defaults. -/
def mounted : Provider User where
  user := none
  jwt := none
  loading := true
  sessionExpired := false

/-- The state after a restore of `cached` settled. -/
def restored (p : Provider User) (cached : String) : Except ApiError User → Provider User
  | .ok u => { p with jwt := some cached, user := some u, loading := false }
  | .error err =>
    { p with sessionExpired := p.sessionExpired || err.isAuthError, loading := false }

def signIn (p : Provider User) (newJwt : String) (newUser : User) : Provider User :=
  { p with jwt := some newJwt, user := some newUser, sessionExpired := false }

def signOut (p : Provider User) : Provider User := { p with jwt := none, user := none }

end Provider

/-! ## The tabs of a browser -/

/-- The tabs of a browser over one `localStorage`. -/
structure Browser (Tab User : Type) where
  storage : LocalStorage
  provider : Tab → Provider User
  /-- The JWT of each `getCurrentUser` call that has not settled. -/
  pending : Tab → List String

/-- What can happen: the mount effect runs, a `getCurrentUser` call made with `cached` settles, or a
consumer of the context calls `signIn` or `signOut`. -/
inductive Event (Tab User : Type) where
  | mount (i : Tab)
  | settled (i : Tab) (cached : String) (answer : Fetched User)
  | signIn (i : Tab) (newJwt : String) (newUser : User)
  | signOut (i : Tab)

namespace Browser

variable {Tab User : Type}

/-- The cached session JWT. -/
def cachedJwt (b : Browser Tab User) : Option String := b.storage.getItem STORAGE_KEY

/-- A browser with nothing mounted yet. -/
def opened (s : LocalStorage) : Browser Tab User where
  storage := s
  provider := fun _ => .mounted
  pending := fun _ => []

@[simp] theorem cachedJwt_opened (s : LocalStorage) :
    (opened s : Browser Tab User).cachedJwt = s.getItem STORAGE_KEY := rfl

variable [DecidableEq Tab]

def setProvider (b : Browser Tab User) (i : Tab) (p : Provider User) : Browser Tab User :=
  { b with provider := Function.update b.provider i p }

def setPending (b : Browser Tab User) (i : Tab) (l : List String) : Browser Tab User :=
  { b with pending := Function.update b.pending i l }

/-- The mount effect: `!cached` holds of a missing and of an empty value. -/
def mount (b : Browser Tab User) (i : Tab) : Browser Tab User :=
  match b.cachedJwt with
  | none => b.setProvider i { b.provider i with loading := false }
  | some cached =>
    if cached = "" then b.setProvider i { b.provider i with loading := false }
    else b.setPending i (cached :: b.pending i)

/-- The continuation of a restore. Whatever the error, the cached JWT is removed. -/
def settle (b : Browser Tab User) (i : Tab) (cached : String) (result : Except ApiError User) :
    Browser Tab User :=
  let b := { b.setPending i ((b.pending i).erase cached) with
    provider := Function.update b.provider i ((b.provider i).restored cached result) }
  match result with
  | .ok _ => b
  | .error _ => { b with storage := b.storage.removeItem STORAGE_KEY }

def signIn (b : Browser Tab User) (i : Tab) (newJwt : String) (newUser : User) :
    Browser Tab User :=
  { b.setProvider i ((b.provider i).signIn newJwt newUser) with
    storage := b.storage.setItem STORAGE_KEY newJwt }

def signOut (b : Browser Tab User) (i : Tab) : Browser Tab User :=
  { b.setProvider i (b.provider i).signOut with storage := b.storage.removeItem STORAGE_KEY }

/-- One event. Only a call that is pending can settle. -/
def step (b : Browser Tab User) : Event Tab User → Option (Browser Tab User)
  | .mount i => some (b.mount i)
  | .settled i cached answer =>
    if cached ∈ b.pending i then
      some (b.settle i cached ((getCurrentUser User cached).settle answer))
    else none
  | .signIn i newJwt newUser => some (b.signIn i newJwt newUser)
  | .signOut i => some (b.signOut i)

/-- The events of the browser as a step relation. -/
def Steps (b : Browser Tab User) (e : Event Tab User) (b' : Browser Tab User) : Prop :=
  b.step e = some b'

/-! ## What each event does -/

@[simp] theorem cachedJwt_setProvider (b : Browser Tab User) (i : Tab) (p : Provider User) :
    (b.setProvider i p).cachedJwt = b.cachedJwt := rfl

@[simp] theorem cachedJwt_setPending (b : Browser Tab User) (i : Tab) (l : List String) :
    (b.setPending i l).cachedJwt = b.cachedJwt := rfl

@[simp] theorem cachedJwt_mount (b : Browser Tab User) (i : Tab) :
    (b.mount i).cachedJwt = b.cachedJwt := by
  unfold mount
  split
  · simp
  · split <;> simp

@[simp] theorem cachedJwt_settle_ok (b : Browser Tab User) (i : Tab) (cached : String) (u : User) :
    (b.settle i cached (.ok u)).cachedJwt = b.cachedJwt := rfl

@[simp] theorem cachedJwt_settle_error (b : Browser Tab User) (i : Tab) (cached : String)
    (err : ApiError) : (b.settle i cached (.error err)).cachedJwt = none := by
  simp [settle, cachedJwt]

@[simp] theorem cachedJwt_signIn (b : Browser Tab User) (i : Tab) (newJwt : String)
    (newUser : User) : (b.signIn i newJwt newUser).cachedJwt = some newJwt := by
  simp [signIn, cachedJwt]

@[simp] theorem cachedJwt_signOut (b : Browser Tab User) (i : Tab) :
    (b.signOut i).cachedJwt = none := by
  simp [signOut, cachedJwt]

@[simp] theorem provider_settle (b : Browser Tab User) (i : Tab) (cached : String)
    (result : Except ApiError User) :
    (b.settle i cached result).provider i = (b.provider i).restored cached result := by
  cases result <;> simp [settle, setPending]

@[simp] theorem provider_signIn (b : Browser Tab User) (i : Tab) (newJwt : String)
    (newUser : User) :
    (b.signIn i newJwt newUser).provider i = (b.provider i).signIn newJwt newUser := by
  simp [signIn, setProvider]

@[simp] theorem provider_signOut (b : Browser Tab User) (i : Tab) :
    (b.signOut i).provider i = (b.provider i).signOut := by
  simp [signOut, setProvider]

/-- Mounting signs nobody in or out; it leaves a restore pending exactly when a JWT is cached. -/
theorem mount_cases (b : Browser Tab User) (i : Tab) :
    (b.cachedJwt = none ∨ b.cachedJwt = some "") ∧
        b.mount i = b.setProvider i { b.provider i with loading := false } ∨
      ∃ cached, cached ≠ "" ∧ b.cachedJwt = some cached ∧
        b.mount i = b.setPending i (cached :: b.pending i) := by
  unfold mount
  cases hj : b.cachedJwt with
  | none => simp
  | some cached =>
    by_cases hc : cached = ""
    · simp [hc]
    · simp [hc]

theorem steps_mount {b b' : Browser Tab User} {i : Tab} :
    b.Steps (.mount i) b' ↔ b' = b.mount i := by
  simp [Steps, step, eq_comm]

theorem steps_settled {b b' : Browser Tab User} {i : Tab} {cached : String}
    {answer : Fetched User} :
    b.Steps (.settled i cached answer) b' ↔
      cached ∈ b.pending i ∧ b' = b.settle i cached (readResponse answer) := by
  simp [Steps, step, eq_comm]

theorem steps_signIn {b b' : Browser Tab User} {i : Tab} {newJwt : String} {newUser : User} :
    b.Steps (.signIn i newJwt newUser) b' ↔ b' = b.signIn i newJwt newUser := by
  simp [Steps, step, eq_comm]

theorem steps_signOut {b b' : Browser Tab User} {i : Tab} :
    b.Steps (.signOut i) b' ↔ b' = b.signOut i := by
  simp [Steps, step, eq_comm]

end Browser

end SampleGrpc.Web
