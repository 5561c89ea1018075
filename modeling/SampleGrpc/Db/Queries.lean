import Mathlib.Data.List.Infix
import SampleGrpc.Server.Effect

/-!
# The user methods of the database layer

`internal/db/db.go` above the table: `UpsertUser`, `GetUserByID`, `ListUsers`, `UpdateUsername`
and the GORM call `FirstOrCreate` they rest on, each as the statements it issues, in order.

`FirstOrCreate` is a SELECT, then either an INSERT of the destination record or an UPDATE of the
row found. The WHERE clause and the assigned columns come from the non-zero fields of the structs
given to `Where` and `Assign`. What is granted of it are the laws of `Gorm`; they determine it.
-/

namespace SampleGrpc

/-- The error values of the database layer. -/
inductive DbLayerError where
  /-- `username already taken` -/
  | errUsernameTaken
  /-- `record not found` -/
  | errRecordNotFound
  | driver (err : DbError)
  /-- `fmt.Errorf("msg: %w", cause)` -/
  | wrap (msg : String) (cause : DbLayerError)
  deriving DecidableEq

/-- `errors.Is`: the error or one it wraps. -/
def DbLayerError.is : DbLayerError → DbLayerError → Bool
  | .wrap msg cause, target => .wrap msg cause = target || cause.is target
  | err, target => err = target

/-- `strings.Contains` -/
def containsText (s sub : String) : Bool := decide (sub.toList <:+: s.toList)

def isUniqueViolation (err : DbError) : Bool :=
  containsText err.message "23505" || containsText err.message "unique"

def getUserByID (id : String) : Srv (Except DbLayerError User) := do
  match ← selectFirst [.id id] with
  | .error err => return .error (.wrap ("get user " ++ id) (.driver err))
  | .ok none => return .error (.wrap ("get user " ++ id) .errRecordNotFound)
  | .ok (some u) => return .ok u

def listAllUsers : Srv (Except DbLayerError (List User)) := do
  match ← selectAll with
  | .error err => return .error (.wrap "list users" (.driver err))
  | .ok users => return .ok users

/-- `UpdateUsername`; the empty string clears the name. -/
def updateUsername (userID username : String) : Srv (Except DbLayerError User) := do
  let newUsername := if username ≠ "" then some username else none
  match ← updateUsers [.id userID] [.username newUsername] with
  | .error err =>
    if isUniqueViolation err then return .error .errUsernameTaken
    else return .error (.wrap "update username" (.driver err))
  | .ok _ => getUserByID userID

/-- The UPDATE of `UpdateUsername`. -/
def renameStmt (id username : String) : Stmt :=
  .update [.id id] [.username (if username ≠ "" then some username else none)]

/-- `UpdateUsername` after its UPDATE. -/
def updateReply (userID : String) : Except DbError Time → Srv (Except DbLayerError User)
  | .error err =>
    if isUniqueViolation err then return .error .errUsernameTaken
    else return .error (.wrap "update username" (.driver err))
  | .ok _ => getUserByID userID

theorem updateUsername_eq (userID username : String) : updateUsername userID username =
    .act (.sql (renameStmt userID username)) (updateReply userID) := rfl

/-- `GetUserByID` after its SELECT. -/
def getReply (id : String) : Except DbError (Option User) → Except DbLayerError User
  | .error err => .error (.wrap ("get user " ++ id) (.driver err))
  | .ok none => .error (.wrap ("get user " ++ id) .errRecordNotFound)
  | .ok (some u) => .ok u

theorem getUserByID_eq (id : String) : getUserByID id =
    .act (.sql (.selectFirst [.id id])) fun res => .ret (getReply id res) := by
  rw [getUserByID, selectFirst_bind]
  congr 1
  funext res
  rcases res with err | _ | u <;> rfl

/-! ## FirstOrCreate -/

def Column.setField : Column → UserFields → UserFields
  | .googleSub s, u => { u with googleSub := s }
  | .email s, u => { u with email := s }
  | .displayName s, u => { u with displayName := s }
  | .pictureURL s, u => { u with pictureURL := s }
  | .username s, u => { u with username := s }
  | .isAdmin b, u => { u with isAdmin := b }

def setFields (set : List Column) (u : UserFields) : UserFields :=
  set.foldl (fun u c => c.setField u) u

/-- `Where(cond).Assign(assign).FirstOrCreate(&dest)`. On a hit the assigned values are written
back into the record returned. -/
def firstOrCreate (cond assign dest : UserFields) : Srv (Except DbError User) := do
  match ← selectFirst (cond.nonZero.map .column) with
  | .error err => return .error err
  | .ok none => insertUser (setFields (cond.nonZero ++ assign.nonZero) dest)
  | .ok (some row) =>
    match ← updateUsers (cond.nonZero.map .column ++ [.id row.id.text]) assign.nonZero with
    | .error err => return .error err
    | .ok stamp => return .ok { assignAll assign.nonZero row with updatedAt := stamp }

/-- `FirstOrCreate` after its UPDATE. -/
def writeBack (assign : UserFields) (row : User) : Except DbError Time → Except DbError User
  | .error err => .error err
  | .ok stamp => .ok { assignAll assign.nonZero row with updatedAt := stamp }

/-- `FirstOrCreate` after its SELECT. -/
def createOrUpdate (cond assign dest : UserFields) :
    Except DbError (Option User) → Srv (Except DbError User)
  | .error err => return .error err
  | .ok none => insertUser (setFields (cond.nonZero ++ assign.nonZero) dest)
  | .ok (some row) => do
    let res ← updateUsers (cond.nonZero.map .column ++ [.id row.id.text]) assign.nonZero
    return writeBack assign row res

theorem createOrUpdate_some (cond assign dest : UserFields) (row : User) :
    createOrUpdate cond assign dest (.ok (some row)) =
      .act (.sql (.update (cond.nonZero.map .column ++ [.id row.id.text]) assign.nonZero))
        fun res => .ret (writeBack assign row res) := rfl

theorem firstOrCreate_eq (cond assign dest : UserFields) : firstOrCreate cond assign dest =
    .act (.sql (.selectFirst (cond.nonZero.map .column))) (createOrUpdate cond assign dest) := by
  rw [firstOrCreate, selectFirst_bind]
  congr 1
  funext res
  rcases res with err | _ | row
  · rfl
  · rfl
  · dsimp only
    rw [createOrUpdate]
    congr 1
    funext res
    rcases res with err | stamp <;> rfl

/-- What is granted of GORM's `FirstOrCreate`: the statements of a call and what it returns. -/
structure Gorm where
  firstOrCreate : UserFields → UserFields → UserFields → Srv (Except DbError User)
  /-- A call after its SELECT. -/
  selected : UserFields → UserFields → UserFields →
    Except DbError (Option User) → Srv (Except DbError User)
  /-- The conditions are the non-zero fields given to `Where`. -/
  selects : ∀ {cond assign dest}, firstOrCreate cond assign dest =
    .act (.sql (.selectFirst (cond.nonZero.map .column))) (selected cond assign dest)
  fails : ∀ {cond assign dest err}, selected cond assign dest (.error err) = .ret (.error err)
  /-- The record gets the values of the conditions, then the assigned ones. -/
  creates : ∀ {cond assign dest}, selected cond assign dest (.ok none) =
    .act (.sql (.insert (setFields (cond.nonZero ++ assign.nonZero) dest))) .ret
  /-- Only the non-zero fields given to `Assign` are written. -/
  updates : ∀ {cond assign dest row}, selected cond assign dest (.ok (some row)) =
    .act (.sql (.update (cond.nonZero.map .column ++ [.id row.id.text]) assign.nonZero))
      fun res => .ret (writeBack assign row res)

theorem Gorm.firstOrCreate_eq (gorm : Gorm) : gorm.firstOrCreate = SampleGrpc.firstOrCreate := by
  funext cond assign dest
  rw [gorm.selects, SampleGrpc.firstOrCreate_eq]
  congr 1
  funext res
  rcases res with err | _ | row
  · exact gorm.fails
  · exact gorm.creates
  · rw [gorm.updates, createOrUpdate_some]

def Gorm.library : Gorm where
  firstOrCreate := SampleGrpc.firstOrCreate
  selected := createOrUpdate
  selects := SampleGrpc.firstOrCreate_eq _ _ _
  fails := rfl
  creates := rfl
  updates := createOrUpdate_some _ _ _ _

/-! ## UpsertUser -/

/-- The attempts at an initial handle; the user can pick one later if all collide. -/
def assignHandle (generateUsername : Srv String) (id : String) :
    Nat → Srv (Except DbLayerError User)
  | 0 => getUserByID id
  | n + 1 => do
    let candidate ← generateUsername
    match ← updateUsername id candidate with
    | .ok updated => return .ok updated
    | .error _ => assignHandle generateUsername id n

def upsertUser (googleSub email displayName pictureURL : String) (generateUsername : Srv String)
    (gorm : Gorm := .library) : Srv (Except DbLayerError User) := do
  let pic := if pictureURL ≠ "" then some pictureURL else none
  let u ← gorm.firstOrCreate { googleSub } { email, displayName, pictureURL := pic }
    { googleSub, email, displayName, pictureURL := pic }
  match u with
  | .error err => return .error (.wrap "upsert user" (.driver err))
  | .ok u =>
    if u.username = none then assignHandle generateUsername u.id.text 10
    else return .ok u

/-- An attempt at a handle after its `UpdateUsername`. -/
def retryReply (generateUsername : Srv String) (id : String) (n : Nat) :
    Except DbLayerError User → Srv (Except DbLayerError User)
  | .ok updated => return .ok updated
  | .error _ => assignHandle generateUsername id n

theorem assignHandle_succ (generateUsername : Srv String) (id : String) (n : Nat) :
    assignHandle generateUsername id (n + 1) = generateUsername >>= fun candidate =>
      updateUsername id candidate >>= retryReply generateUsername id n := rfl

/-- `UpsertUser` after `FirstOrCreate`. -/
def handleReply (generateUsername : Srv String) :
    Except DbError User → Srv (Except DbLayerError User)
  | .error err => return .error (.wrap "upsert user" (.driver err))
  | .ok u =>
    if u.username = none then assignHandle generateUsername u.id.text 10
    else return .ok u

/-- What `UpsertUser` assigns. -/
def profile (email displayName pictureURL : String) : UserFields :=
  { email, displayName, pictureURL := if pictureURL ≠ "" then some pictureURL else none }

theorem upsertUser_eq (googleSub email displayName pictureURL : String)
    (generateUsername : Srv String) :
    upsertUser googleSub email displayName pictureURL generateUsername =
      firstOrCreate { googleSub } (profile email displayName pictureURL)
        { profile email displayName pictureURL with googleSub } >>=
      handleReply generateUsername := rfl

/-- `UpsertUser` is the same program over any GORM with the laws. -/
theorem upsertUser_gorm (googleSub email displayName pictureURL : String)
    (generateUsername : Srv String) (gorm : Gorm) :
    upsertUser googleSub email displayName pictureURL generateUsername gorm =
      upsertUser googleSub email displayName pictureURL generateUsername := by
  unfold upsertUser
  rw [gorm.firstOrCreate_eq]
  rfl

end SampleGrpc
