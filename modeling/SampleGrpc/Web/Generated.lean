import SampleGrpc.Auth.Service
import SampleGrpc.Server.Greeter
import SampleGrpc.Wire.Base128

/-!
# The generated messages

The messages of `web/src/generated` on the wire. Every message type has an `encode`, which writes
the fields that are not at their default, and a `decode`, which starts from the defaults, sets the
fields it knows as they come, and skips what it does not know.

**Unknown records.** A peer whose protocol has gained fields writes records that these decoders do
not know, among the others and inside nested messages, and no peer has to keep to the order of the
fields. `MessageType.Written` says which bytes may be written for a message.

Main result: `messages_cross`, what is written for a message is decoded to it.
-/

namespace SampleGrpc.Web.Generated

open Wire
open Greeter (EchoRequest EchoReply)

/-! ## The message types -/

structure GoogleLoginRequest where
  idToken : String
  deriving DecidableEq

abbrev User := PbUser

structure SessionResponse where
  jwt : String
  user : Option User
  deriving DecidableEq

structure UpdateProfileRequest where
  username : String
  deriving DecidableEq

structure GetCurrentUserRequest where
  deriving DecidableEq

structure ListUsersRequest where
  deriving DecidableEq

structure ListUsersResponse where
  users : List User
  deriving DecidableEq

/-- What a message type comes with: the default, the records that `encode` writes, and what `decode`
does with the tags it knows. -/
structure MessageFns (M : Type) where
  createBase : M
  records : BinaryWriter → M → List (List UInt8)
  fields : BinaryReader → Fields M

namespace MessageFns

variable {M : Type}

def encode (F : MessageFns M) (w : BinaryWriter) (message : M) : List UInt8 :=
  (F.records w message).flatten

def decode (F : MessageFns M) (R : BinaryReader) (length : Option ℕ) : Read M :=
  Wire.decode R (F.fields R) F.createBase length

/-- `decode` of a whole buffer. -/
def decodeBytes (F : MessageFns M) (R : BinaryReader) (bytes : List UInt8) : Except Halt M :=
  (F.decode R none).run' ⟨0, bytes⟩

/-- The bytes are the records of the message, in any order, with unknown records between them. -/
def Written (F : MessageFns M) (W : Binary) (message : M) (bytes : List UInt8) : Prop :=
  Scatters W (F.fields W.reader) (F.records W.writer message) bytes

end MessageFns

/-- A message type whose one field is a string with the tag 10. -/
def stringMessage {M : Type} (get : M → String) (make : String → M) : MessageFns M where
  createBase := make ""
  records w message := stringRecord w 10 (get message)
  fields R
    | 10 => some (setField R.string fun _ s => make s)
    | _ => none

/-- A message type without fields. -/
def emptyMessage {M : Type} (make : M) : MessageFns M where
  createBase := make
  records _ _ := []
  fields _ _ := none

def googleLoginRequest : MessageFns GoogleLoginRequest :=
  stringMessage GoogleLoginRequest.idToken GoogleLoginRequest.mk

def updateProfileRequest : MessageFns UpdateProfileRequest :=
  stringMessage UpdateProfileRequest.username UpdateProfileRequest.mk

def getCurrentUserRequest : MessageFns GetCurrentUserRequest :=
  emptyMessage GetCurrentUserRequest.mk

def listUsersRequest : MessageFns ListUsersRequest := emptyMessage ListUsersRequest.mk

def echoRequest : MessageFns EchoRequest := stringMessage EchoRequest.message EchoRequest.mk

def echoReply : MessageFns EchoReply := stringMessage EchoReply.message EchoReply.mk

def user : MessageFns User where
  createBase :=
    { id := "", email := "", displayName := "", username := "", pictureUrl := "", isAdmin := false }
  records w message :=
    stringRecord w 10 message.id ++ stringRecord w 18 message.email ++
      stringRecord w 26 message.displayName ++ stringRecord w 34 message.username ++
      stringRecord w 42 message.pictureUrl ++ boolRecord w 48 message.isAdmin
  fields R
    | 10 => some (setField R.string fun message s => { message with id := s })
    | 18 => some (setField R.string fun message s => { message with email := s })
    | 26 => some (setField R.string fun message s => { message with displayName := s })
    | 34 => some (setField R.string fun message s => { message with username := s })
    | 42 => some (setField R.string fun message s => { message with pictureUrl := s })
    | 48 => some (setField R.bool fun message b => { message with isAdmin := b })
    | _ => none

def userStrings (u : User) : List String :=
  [u.id, u.email, u.displayName, u.username, u.pictureUrl]

/-- `User.decode(reader, reader.uint32())`. -/
def readUser (R : BinaryReader) : Read User := do user.decode R (some (← R.uint32))

/-- The records of a session, its user as it was written. -/
def sessionRecords (w : BinaryWriter) (jwt : String) (written : Option (List UInt8)) :
    List (List UInt8) :=
  stringRecord w 10 jwt ++ (written.map (messageRecord w 18)).toList

def sessionResponse : MessageFns SessionResponse where
  createBase := { jwt := "", user := none }
  records w message := sessionRecords w message.jwt (message.user.map (user.encode w))
  fields R
    | 10 => some (setField R.string fun message s => { message with jwt := s })
    | 18 => some (setField (readUser R) fun message u => { message with user := some u })
    | _ => none

/-- The records of a list of users, as they were written. -/
def listRecords (w : BinaryWriter) (written : List (List UInt8)) : List (List UInt8) :=
  written.map (messageRecord w 10)

def listUsersResponse : MessageFns ListUsersResponse where
  createBase := { users := [] }
  records w message := listRecords w (message.users.map (user.encode w))
  fields R
    | 10 => some (setField (readUser R) fun message u =>
      { message with users := message.users ++ [u] })
    | _ => none

/-- A session as a peer may write it: the user in it may have unknown records of its own. -/
def SessionWritten (W : Binary) (message : SessionResponse) (bytes : List UInt8) : Prop :=
  ∃ written, Option.Rel (user.Written W) message.user written ∧
    Scatters W (sessionResponse.fields W.reader) (sessionRecords W.writer message.jwt written) bytes

/-- A list as a peer may write it, its users in order. -/
def ListWritten (W : Binary) (message : ListUsersResponse) (bytes : List UInt8) : Prop :=
  ∃ written, List.Forall₂ (user.Written W) message.users written ∧
    Extends W (listUsersResponse.fields W.reader) (listRecords W.writer written) bytes

/-! ## All of them -/

inductive MessageType where
  | googleLoginRequest
  | sessionResponse
  | user
  | updateProfileRequest
  | getCurrentUserRequest
  | listUsersRequest
  | listUsersResponse
  | echoRequest
  | echoReply
  deriving DecidableEq

namespace MessageType

/-- The messages of a type. -/
abbrev Of : MessageType → Type
  | .googleLoginRequest => GoogleLoginRequest
  | .sessionResponse => SessionResponse
  | .user => User
  | .updateProfileRequest => UpdateProfileRequest
  | .getCurrentUserRequest => GetCurrentUserRequest
  | .listUsersRequest => ListUsersRequest
  | .listUsersResponse => ListUsersResponse
  | .echoRequest => EchoRequest
  | .echoReply => EchoReply

def fns : (T : MessageType) → MessageFns T.Of
  | .googleLoginRequest => Generated.googleLoginRequest
  | .sessionResponse => Generated.sessionResponse
  | .user => Generated.user
  | .updateProfileRequest => Generated.updateProfileRequest
  | .getCurrentUserRequest => Generated.getCurrentUserRequest
  | .listUsersRequest => Generated.listUsersRequest
  | .listUsersResponse => Generated.listUsersResponse
  | .echoRequest => Generated.echoRequest
  | .echoReply => Generated.echoReply

/-- The bytes that a peer may write for a message. -/
def Written (W : Binary) : (T : MessageType) → T.Of → List UInt8 → Prop
  | .sessionResponse => SessionWritten W
  | .listUsersResponse => ListWritten W
  | .googleLoginRequest => Generated.googleLoginRequest.Written W
  | .user => Generated.user.Written W
  | .updateProfileRequest => Generated.updateProfileRequest.Written W
  | .getCurrentUserRequest => Generated.getCurrentUserRequest.Written W
  | .listUsersRequest => Generated.listUsersRequest.Written W
  | .echoRequest => Generated.echoRequest.Written W
  | .echoReply => Generated.echoReply.Written W

/-- The strings of a message. -/
def strings : (T : MessageType) → T.Of → List String
  | .googleLoginRequest => fun m => [m.idToken]
  | .sessionResponse => fun m => m.jwt :: m.user.elim [] userStrings
  | .user => userStrings
  | .updateProfileRequest => fun m => [m.username]
  | .getCurrentUserRequest => fun _ => []
  | .listUsersRequest => fun _ => []
  | .listUsersResponse => fun m => m.users.flatMap userStrings
  | .echoRequest => fun m => [m.message]
  | .echoReply => fun m => [m.message]

end MessageType

/-! ## `encode` -/

theorem MessageFns.written_encode {M : Type} (F : MessageFns M) (W : Binary) (message : M) :
    F.Written W message (F.encode W.writer message) := scatters_flatten W _ _

/-- **What `encode` writes is written for the message.** -/
theorem written_encode (W : Binary) (T : MessageType) (m : T.Of) :
    T.Written W m (T.fns.encode W.writer m) := by
  cases T with
  | sessionResponse =>
    refine ⟨m.user.map (user.encode W.writer), ?_, scatters_flatten W _ _⟩
    cases hu : m.user with
    | none => exact .none
    | some u => exact .some (user.written_encode W u)
  | listUsersResponse =>
    refine ⟨m.users.map (user.encode W.writer), ?_, extends_flatten W _ _⟩
    rw [List.forall₂_map_right_iff, List.forall₂_same]
    exact fun u _ => user.written_encode W u
  | _ => exact MessageFns.written_encode _ W m

/-! ## `decode` -/

variable {W : Binary}

theorem carries_stringMessage {M : Type} {get : M → String} {make : String → M} {m : M}
    (hmake : make (get m) = m) (hs : Unmarked (get m))
    (hsize : ∀ record ∈ (stringMessage get make).records W.writer m, record.length < 2 ^ 32) :
    Carries W ((stringMessage get make).fields W.reader)
      ((stringMessage get make).records W.writer m) [fun _ => make (get m)]
      (stringMessage get make).createBase m := by
  have hc : Carries W ((stringMessage get make).fields W.reader) _ _ (make "") _ :=
    carries_string (fun _ s => make s) hs hsize (by decide) rfl rfl
  rwa [hmake] at hc ⊢

def userUpdates (u : User) : List (User → User) :=
  [fun m => { m with id := u.id }, fun m => { m with email := u.email },
    fun m => { m with displayName := u.displayName }, fun m => { m with username := u.username },
    fun m => { m with pictureUrl := u.pictureUrl }, fun m => { m with isAdmin := u.isAdmin }]

theorem userUpdates_swap (u : User) : (userUpdates u).Pairwise Swap := by
  simp [userUpdates, Swap]

theorem carries_user {u : User} (hs : ∀ s ∈ userStrings u, Unmarked s)
    (hsize : ∀ record ∈ user.records W.writer u, record.length < 2 ^ 32) :
    Carries W (user.fields W.reader) (user.records W.writer u) (userUpdates u) user.createBase
      u := by
  simp only [user, List.forall_mem_append] at hsize
  obtain ⟨⟨⟨⟨⟨hid, hemail⟩, hdisplayName⟩, husername⟩, hpictureUrl⟩, -⟩ := hsize
  simp only [userStrings, List.forall_mem_cons] at hs
  obtain ⟨sid, semail, sdisplayName, susername, spictureUrl, -⟩ := hs
  have h₁ : Carries W (user.fields W.reader) _ _ user.createBase _ :=
    carries_string (fun m s => { m with id := s }) sid hid (by decide) rfl rfl
  have h₂ := h₁.append
    (carries_string (fun m s => { m with email := s }) semail hemail (by decide) rfl rfl)
  have h₃ := h₂.append (carries_string (fun m s => { m with displayName := s }) sdisplayName
    hdisplayName (by decide) rfl rfl)
  have h₄ := h₃.append
    (carries_string (fun m s => { m with username := s }) susername husername (by decide) rfl rfl)
  have h₅ := h₄.append (carries_string (fun m s => { m with pictureUrl := s }) spictureUrl
    hpictureUrl (by decide) rfl rfl)
  have h₆ : Carries W (user.fields W.reader) (boolRecord W.writer 48 u.isAdmin) _
      { u with isAdmin := false } _ :=
    carries_bool (fun m b => { m with isAdmin := b }) (by decide) rfl rfl
  exact h₅.append h₆

/-- A user within a message. -/
theorem reads_user {u : User} {bytes : List UInt8} (h : user.Written W u bytes)
    (hs : ∀ s ∈ userStrings u, Unmarked s) (hsize : bytes.length < 2 ^ 32) :
    Reads (readUser W.reader) (W.writer.join bytes) u := by
  have hc := carries_user (W := W) hs (h.length_lt hsize)
  have hread : Reads (user.decode W.reader (some bytes.length)) bytes u :=
    reads_scattered hc (userUpdates_swap u) h
  exact reads_message (fun length => user.decode W.reader (some length)) hsize hread

theorem length_lt_of_record {w : BinaryWriter} {tag : ℕ} {bytes : List UInt8}
    (h : (messageRecord w tag bytes).length < 2 ^ 32) : bytes.length < 2 ^ 32 := by
  rw [messageRecord, BinaryWriter.join, List.length_append, List.length_append] at h
  omega

def sessionUpdates (m : SessionResponse) : List (SessionResponse → SessionResponse) :=
  [fun m' => { m' with jwt := m.jwt }] ++ (m.user.map fun u m' => { m' with user := some u }).toList

theorem sessionUpdates_swap (m : SessionResponse) : (sessionUpdates m).Pairwise Swap := by
  cases hu : m.user with
  | none => simp [sessionUpdates, hu]
  | some u => simp [sessionUpdates, hu, Swap]

theorem carries_session {m : SessionResponse} {written : Option (List UInt8)}
    (hw : Option.Rel (user.Written W) m.user written)
    (hs : ∀ s ∈ m.jwt :: m.user.elim [] userStrings, Unmarked s)
    (hsize : ∀ record ∈ sessionRecords W.writer m.jwt written, record.length < 2 ^ 32) :
    Carries W (sessionResponse.fields W.reader) (sessionRecords W.writer m.jwt written)
      (sessionUpdates m) sessionResponse.createBase m := by
  obtain ⟨jwt, u⟩ := m
  rw [sessionRecords, List.forall_mem_append] at hsize
  rw [List.forall_mem_cons] at hs
  have hjwt : Carries W (sessionResponse.fields W.reader) _ _ sessionResponse.createBase _ :=
    carries_string (fun m s => { m with jwt := s }) hs.1 hsize.1 (by decide) rfl rfl
  refine hjwt.append ?_
  cases hw with
  | none => exact carries_nil _ _
  | some hwritten =>
    have hlength := length_lt_of_record (hsize.2 _ (List.mem_singleton.mpr rfl))
    have huser := reads_user hwritten hs.2 hlength
    have hrecord : Carries W (sessionResponse.fields W.reader) [messageRecord W.writer 18 _] _
        { jwt := jwt, user := none } _ :=
      carries_field (fun m u => { m with user := some u }) (by decide) rfl huser _
    exact hrecord

def listUpdates (users : List User) : List (ListUsersResponse → ListUsersResponse) :=
  users.map fun u m => { m with users := m.users ++ [u] }

theorem carries_list {users : List User} {written : List (List UInt8)}
    (hw : List.Forall₂ (user.Written W) users written)
    (hs : ∀ s ∈ users.flatMap userStrings, Unmarked s)
    (hsize : ∀ record ∈ listRecords W.writer written, record.length < 2 ^ 32)
    (m : ListUsersResponse) :
    Carries W (listUsersResponse.fields W.reader) (listRecords W.writer written)
      (listUpdates users) m { users := m.users ++ users } := by
  induction hw generalizing m with
  | nil =>
    rw [List.append_nil]
    exact carries_nil _ m
  | @cons u bytes users written hwritten hw ih =>
    rw [List.flatMap_cons, List.forall_mem_append] at hs
    rw [listRecords, List.map_cons, List.forall_mem_cons] at hsize
    have hu := reads_user hwritten hs.1 (length_lt_of_record hsize.1)
    have hfirst : Carries W (listUsersResponse.fields W.reader) [messageRecord W.writer 10 bytes] _
        m { users := m.users ++ [u] } :=
      carries_field (fun m u => { m with users := m.users ++ [u] }) (by decide) rfl hu m
    have hrest := ih hs.2 hsize.2 { users := m.users ++ [u] }
    rw [List.append_assoc] at hrest
    exact hfirst.append hrest

/-! ## Every message -/

theorem decodeBytes_of_decode {M : Type} {F : MessageFns M} {bytes : List UInt8} {m : M}
    {r : Reader}
    (h : Wire.decode W.reader (F.fields W.reader) F.createBase none ⟨0, bytes⟩ = .ok (m, r)) :
    F.decodeBytes W.reader bytes = .ok m := by
  show Except.map Prod.fst (F.decode W.reader none ⟨0, bytes⟩) = _
  rw [MessageFns.decode, h]
  rfl

theorem decode_stringMessage {M : Type} {get : M → String} {make : String → M} {m : M}
    {bytes : List UInt8} (h : (stringMessage get make).Written W m bytes) (hmake : make (get m) = m)
    (hs : ∀ s ∈ [get m], Unmarked s) (hsize : bytes.length < 2 ^ 32) :
    (stringMessage get make).decodeBytes W.reader bytes = .ok m := by
  have hc := carries_stringMessage hmake (hs _ (List.mem_singleton.mpr rfl)) (h.length_lt hsize)
  exact decodeBytes_of_decode (decode_scattered hc (List.pairwise_singleton _ _) h)

theorem decode_emptyMessage {M : Type} {make : M} {bytes : List UInt8}
    (h : (emptyMessage make).Written W make bytes) :
    (emptyMessage make).decodeBytes W.reader bytes = .ok make :=
  decodeBytes_of_decode (decode_scattered (carries_nil [] make) .nil h)

/-- **`decode` takes a message from whatever is written for it.** -/
theorem decode_written {T : MessageType} {m : T.Of} {bytes : List UInt8} (h : T.Written W m bytes)
    (hs : ∀ s ∈ T.strings m, Unmarked s) (hsize : bytes.length < 2 ^ 32) :
    T.fns.decodeBytes W.reader bytes = .ok m := by
  cases T with
  | sessionResponse =>
    obtain ⟨written, hw, hscatters⟩ := h
    have hc := carries_session hw hs (hscatters.length_lt hsize)
    exact decodeBytes_of_decode (decode_scattered hc (sessionUpdates_swap m) hscatters)
  | listUsersResponse =>
    obtain ⟨written, hw, hextends⟩ := h
    have hc := carries_list hw hs (hextends.length_lt hsize) { users := [] }
    exact decodeBytes_of_decode (decode_carries hc hextends)
  | user =>
    have hc := carries_user hs (h.length_lt hsize)
    exact decodeBytes_of_decode (decode_scattered hc (userUpdates_swap m) h)
  | getCurrentUserRequest => exact decode_emptyMessage h
  | listUsersRequest => exact decode_emptyMessage h
  | googleLoginRequest => exact decode_stringMessage h rfl hs hsize
  | updateProfileRequest => exact decode_stringMessage h rfl hs hsize
  | echoRequest => exact decode_stringMessage h rfl hs hsize
  | echoReply => exact decode_stringMessage h rfl hs hsize

theorem forward_stringMessage {M : Type} (get : M → String) (make : String → M) :
    Forward ((stringMessage get make).fields W.reader) := by
  intro tag field hfield message
  simp only [stringMessage] at hfield
  split at hfield <;> cases hfield
  exact passes_setField W.passes_string _ message

theorem forward_emptyMessage {M : Type} (make : M) :
    Forward ((emptyMessage make).fields W.reader) :=
  fun _ _ hfield => by cases hfield

theorem forward_user : Forward (user.fields W.reader) := by
  intro tag field hfield message
  simp only [user] at hfield
  split at hfield <;> cases hfield
  case h_6 => exact passes_setField W.passes_bool _ message
  all_goals exact passes_setField W.passes_string _ message

theorem passes_readUser : Passes (readUser W.reader) 0 :=
  (W.passes_uint32.bind (m := 0) fun length => passes_decode W forward_user _ (some length)).mono
    (Nat.zero_le _)

theorem forward_fields (W : Binary) (T : MessageType) : Forward (T.fns.fields W.reader) := by
  cases T with
  | sessionResponse =>
    intro tag field hfield message
    simp only [MessageType.fns, sessionResponse] at hfield
    split at hfield <;> cases hfield
    · exact passes_setField W.passes_string _ message
    · exact passes_setField passes_readUser _ message
  | listUsersResponse =>
    intro tag field hfield message
    simp only [MessageType.fns, listUsersResponse] at hfield
    split at hfield <;> cases hfield
    exact passes_setField passes_readUser _ message
  | user => exact forward_user
  | getCurrentUserRequest | listUsersRequest => exact forward_emptyMessage _
  | googleLoginRequest | updateProfileRequest | echoRequest | echoReply =>
    exact forward_stringMessage _ _

/-- **The messages cross the wire.** `encode` writes the message; `decode` takes it from the bytes,
in whatever order the fields come and whatever records it does not know are among them; and
whatever the bytes, `decode` ends, with a message or an error, and more fuel changes nothing.

Groups are not among the unknown records. `base128`, which the example below reads with, is stricter
than the library on groups and on bytes that are not UTF-8. -/
theorem messages_cross (W : Binary) (T : MessageType) (m : T.Of) :
    T.Written W m (T.fns.encode W.writer m) ∧
      (∀ bytes, T.Written W m bytes → (∀ s ∈ T.strings m, Unmarked s) → bytes.length < 2 ^ 32 →
        T.fns.decodeBytes W.reader bytes = .ok m) ∧
      ∀ bytes, T.fns.decode W.reader none ⟨0, bytes⟩ ≠ .error .outOfFuel ∧
        ∀ fuel, bytes.length < fuel →
          decodeLoop W.reader (T.fns.fields W.reader) bytes.length fuel T.fns.createBase
            ⟨0, bytes⟩ = T.fns.decode W.reader none ⟨0, bytes⟩ := by
  have hfields := forward_fields W T
  refine ⟨written_encode W T m, fun bytes h hs hsize => decode_written h hs hsize, fun bytes => ?_⟩
  refine ⟨(passes_decode W hfields _ none).ends _, fun fuel hfuel => ?_⟩
  have hloop := decodeLoop_fuel W hfields bytes.length T.fns.createBase (r := ⟨0, bytes⟩) hfuel
    (Nat.lt_succ_self _)
  rw [hloop, MessageFns.decode, Wire.decode, Option.getD_none, Nat.zero_add]

namespace Peer

def ada : User where
  id := "7"
  email := "ada@example.com"
  displayName := ""
  username := "ada"
  pictureUrl := ""
  isAdmin := true

def session : SessionResponse where
  jwt := "token"
  user := some ada

/-- A user from a peer that knows a seventh field. -/
def adaBytes : List UInt8 := base128.writer.uint32 56 ++ [5] ++ user.encode base128.writer ada

/-- A session from a peer that knows a third field, and writes the user before the token. -/
def sessionBytes : List UInt8 :=
  base128.writer.uint32 24 ++ [1] ++
    (sessionRecords base128.writer "token" (some adaBytes)).reverse.flatten

theorem unknown_varint {M : Type} {fields : Fields M} {tag : ℕ} (htag : tag < 2 ^ 32)
    (hfield : fields tag = none) (hne : tag ≠ 0) (htype : tag % 8 = 0) {b : UInt8}
    (hb : b.toNat < 128) : Unknown base128 fields (base128.writer.uint32 tag ++ [b]) := by
  refine .mk htag hfield hne ?_
  rw [htype]
  have hnone : ∀ c ∈ ([] : List UInt8), 128 ≤ c.toNat := by simp
  exact .varint hnone hb

theorem session_written : MessageType.Written base128 .sessionResponse session sessionBytes := by
  have huser : user.Written base128 ada adaBytes :=
    ⟨_, .refl _, .unknown (unknown_varint (by decide) rfl (by decide) rfl (by decide))
      (extends_flatten base128 _ _)⟩
  exact ⟨some adaBytes, .some huser, _, List.reverse_perm _,
    .unknown (unknown_varint (by decide) rfl (by decide) rfl (by decide))
      (extends_flatten base128 _ _)⟩

theorem sessionBytes_length : sessionBytes.length < 2 ^ 32 := by decide

end Peer

open Peer in
theorem messages_cross_ada :
    sessionResponse.decodeBytes base128.reader sessionBytes = .ok session := by
  have hcross := messages_cross base128 .sessionResponse session
  exact hcross.2.1 sessionBytes session_written (by decide) sessionBytes_length

end SampleGrpc.Web.Generated
