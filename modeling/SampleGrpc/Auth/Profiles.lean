import SampleGrpc.Auth.Requests
import SampleGrpc.Interaction.Pool

/-!
# Stored profiles

Whatever the interleaving of requests, a stored username is NULL or matches the pattern, and a
stored picture URL is NULL or not empty. So the protobuf `User`, which writes NULL as the empty
text, loses nothing.

* `stored_profiles` — the invariant, and what it gives for `userToProto`.
-/

namespace SampleGrpc

open Prog

/-- A row whose optional columns hold no empty text and whose name matches the pattern. -/
structure GoodProfile (r : User) : Prop where
  username : ValidUsername r.username
  pictureURL : r.pictureURL ≠ some ""

theorem GoodProfile.edit {r r' : User} (h : GoodProfile r) (h' : RowEdit r r') :
    GoodProfile r' where
  username := h'.validUsername h.username
  pictureURL := h'.pictureURL_ne h.pictureURL

theorem GoodProfile.evolve {t t' : UsersTable} (h : ∀ r ∈ t.rows, GoodProfile r)
    (h' : Evolves RowEdit RowCreated t.rows t'.rows) : ∀ r ∈ t'.rows, GoodProfile r := by
  intro r hr
  rcases h'.of_mem hr with ⟨r₀, hr₀, hedit⟩ | hnew
  · exact (h r₀ hr₀).edit hedit
  · exact ⟨hnew.username, hnew.pictureURL⟩

/-! ## The protobuf user -/

theorem ValidUsername.ne_empty {name : Option String} (h : ValidUsername name) :
    name ≠ some "" := by
  intro hname
  have := usernameRE_length (h "" hname)
  simp at this

/-- Writing NULL as the empty text loses nothing on columns that never hold it. -/
theorem getD_empty_inj {a b : Option String} (ha : a ≠ some "") (hb : b ≠ some "")
    (h : a.getD "" = b.getD "") : a = b := by
  cases a <;> cases b <;> simp_all

theorem getD_empty_iff {a : Option String} (ha : a ≠ some "") : a.getD "" = "" ↔ a = none := by
  cases a <;> simp_all

theorem GoodProfile.userToProto_inj {r r' : User} (h : GoodProfile r) (h' : GoodProfile r')
    (heq : userToProto r = userToProto r') :
    r.id = r'.id ∧ r.email = r'.email ∧ r.displayName = r'.displayName ∧
      r.username = r'.username ∧ r.pictureURL = r'.pictureURL ∧ r.isAdmin = r'.isAdmin := by
  simp only [userToProto, PbUser.mk.injEq] at heq
  obtain ⟨hid, hemail, hname, husername, hpic, hadmin⟩ := heq
  exact ⟨Uuid.text_injective hid, hemail, hname,
    getD_empty_inj h.username.ne_empty h'.username.ne_empty husername,
    getD_empty_inj h.pictureURL h'.pictureURL hpic, hadmin⟩

/-! ## Any interleaving -/

/-- The table that requests, interleaved by a schedule, make of the empty one. -/
def tableAfter {ι : Type} [DecidableEq ι] (J : GolangJwt) (s : Server) (ctx : ι → Context)
    (req : ι → Request) (sched : List (ι × Env)) : UsersTable :=
  (Pool.exec exec ⟨fun i => handler J s (ctx i) (req i), .empty⟩ sched).state

theorem goodProfile_tableAfter {ι : Type} [DecidableEq ι] (J : GolangJwt) (s : Server)
    (ctx : ι → Context) (req : ι → Request) (sched : List (ι × Env)) :
    ∀ r ∈ (tableAfter J s ctx req sched).rows, GoodProfile r := by
  have hstep (_ : ι) (e : Env) (q : Effect) (t : UsersTable) (_ : True) (hq : RpcEffect q)
      (ht : ∀ r ∈ t.rows, GoodProfile r) : ∀ r ∈ (exec e q t).2.rows, GoodProfile r :=
    .evolve ht (exec_evolves hq e t)
  refine (Pool.exec_uses hstep (Pool.along_admits_true _ _) (fun i => handler_uses J s _ _) ?_).2
  simp [UsersTable.empty]

/-- **The stored-profile invariant.** In every table that interleaved requests make of the empty
one, a username is NULL or matches the pattern and so fits its column, and a picture URL is NULL
or not empty. On such rows the empty text in the protobuf `User` means NULL, and equal messages
come from rows equal in every column they show, also across tables. -/
theorem stored_profiles {ι ι' : Type} [DecidableEq ι] [DecidableEq ι'] (J J' : GolangJwt)
    (s s' : Server) (ctx : ι → Context) (ctx' : ι' → Context) (req : ι → Request)
    (req' : ι' → Request) (sched : List (ι × Env)) (sched' : List (ι' × Env)) :
    (∀ r ∈ (tableAfter J s ctx req sched).rows,
      (∀ name, r.username = some name → usernameRE name = true ∧ name.length ≤ 30) ∧
      r.pictureURL ≠ some "" ∧
      ((userToProto r).username = "" ↔ r.username = none) ∧
      ((userToProto r).pictureUrl = "" ↔ r.pictureURL = none)) ∧
    ∀ r ∈ (tableAfter J s ctx req sched).rows, ∀ r' ∈ (tableAfter J' s' ctx' req' sched').rows,
      userToProto r = userToProto r' →
        r.id = r'.id ∧ r.email = r'.email ∧ r.displayName = r'.displayName ∧
          r.username = r'.username ∧ r.pictureURL = r'.pictureURL ∧ r.isAdmin = r'.isAdmin := by
  have hgood := goodProfile_tableAfter J s ctx req sched
  have hgood' := goodProfile_tableAfter J' s' ctx' req' sched'
  refine ⟨fun r hr => ?_, fun r hr r' hr' heq => (hgood r hr).userToProto_inj (hgood' r' hr') heq⟩
  have hr := hgood r hr
  refine ⟨fun name hname => ?_, hr.pictureURL, getD_empty_iff hr.username.ne_empty,
    getD_empty_iff hr.pictureURL⟩
  exact ⟨hr.username name hname, (usernameRE_length (hr.username name hname)).2⟩

end SampleGrpc
