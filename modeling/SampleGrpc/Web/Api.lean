import Mathlib.Data.List.Basic

/-!
# The web client's calls to the API

`request` wraps `fetch`: it sends the session JWT as a bearer token, and turns the answer into a
value or an error. HTTP 401 is an `AuthError`; every other failure is a plain `Error`.

Main result: `readResponse_authError`, which answers make a call fail with `AuthError`.
-/

namespace SampleGrpc.Web

/-- What a failed call throws. -/
inductive ApiError where
  | authError (message : String)
  | error (message : String)
  deriving DecidableEq

/-- `err instanceof AuthError`. -/
def ApiError.isAuthError : ApiError → Bool
  | .authError _ => true
  | .error _ => false

/-- A request, its path below `API_BASE`. -/
structure HttpRequest where
  method : String
  path : String
  headers : List (String × String)
  body : Option String
  deriving DecidableEq

/-- What becomes of a `fetch`: it rejects, or it answers with a status and a body. Reading the body,
as text or as JSON, can itself reject. -/
inductive Fetched (T : Type) where
  | rejected (message : String)
  | response (status : ℕ) (text : Except String String) (json : Except String T)

/-- `res.ok`. -/
def isOk (status : ℕ) : Bool := 200 ≤ status && status ≤ 299

/-- What `request` sends. -/
def requestInit (method path : String) (headers : List (String × String)) (body : Option String)
    (jwt : Option String) : HttpRequest where
  method := method
  path := path
  headers := [("Content-Type", "application/json")] ++ headers ++
    match jwt with
    | some j => if j = "" then [] else [("Authorization", "Bearer " ++ j)]
    | none => []
  body := body

/-- What `request` makes of the answer. -/
def readResponse {T : Type} : Fetched T → Except ApiError T
  | .rejected message => .error (.error message)
  | .response status text json =>
    if status = 401 then
      -- `new AuthError(await res.text())`: an unreadable body rejects with an error of its own
      match text with
      | .ok body => .error (.authError body)
      | .error message => .error (.error message)
    else if !isOk status then
      match text with
      | .ok body => .error (.error (toString status ++ ": " ++ body))
      | .error message => .error (.error message)
    else
      match json with
      | .ok value => .ok value
      | .error message => .error (.error message)

/-- A call: what it sends, and what it makes of the answer. -/
structure Call (T : Type) where
  sent : HttpRequest
  settle : Fetched T → Except ApiError T

def request (T : Type) (method path : String) (body jwt : Option String) : Call T where
  sent := requestInit method path [] body jwt
  settle := readResponse

/-- Fetch the current user. -/
def getCurrentUser (User : Type) (jwt : String) : Call User :=
  request User "GET" "/auth/me" none (some jwt)

@[simp] theorem getCurrentUser_settle {User : Type} (jwt : String) (answer : Fetched User) :
    (getCurrentUser User jwt).settle answer = readResponse answer := rfl

/-- The call carries the JWT it was made with. -/
theorem getCurrentUser_authorization {User : Type} {jwt : String} (h : jwt ≠ "") :
    ("Authorization", "Bearer " ++ jwt) ∈ (getCurrentUser User jwt).sent.headers := by
  simp [getCurrentUser, request, requestInit, h]

/-- **A call fails with `AuthError` exactly on a readable 401.** -/
theorem readResponse_authError {T : Type} {answer : Fetched T} :
    (∃ err, readResponse answer = .error err ∧ err.isAuthError) ↔
      ∃ body json, answer = .response 401 (.ok body) json := by
  constructor
  · intro h
    obtain ⟨err, herr, hauth⟩ := h
    cases answer with
    | rejected message =>
      simp only [readResponse, Except.error.injEq] at herr
      simp [← herr, ApiError.isAuthError] at hauth
    | response status text json =>
      simp only [readResponse] at herr
      split at herr
      · rename_i hstatus
        cases text with
        | ok body => exact ⟨body, json, by rw [hstatus]⟩
        | error message =>
          simp only [Except.error.injEq] at herr
          simp [← herr, ApiError.isAuthError] at hauth
      · split at herr
        · cases text <;> simp only [Except.error.injEq] at herr <;>
            simp [← herr, ApiError.isAuthError] at hauth
        · cases json <;> simp only [Except.error.injEq, reduceCtorEq] at herr
          simp [← herr, ApiError.isAuthError] at hauth
  · intro h
    obtain ⟨body, json, rfl⟩ := h
    exact ⟨.authError body, by simp [readResponse], rfl⟩

end SampleGrpc.Web
