import Mathlib.Algebra.Group.Nat.Defs
import Mathlib.Data.List.Pairwise
import Mathlib.Data.List.Perm.Basic

/-!
# Messages of tagged records

A message on the wire is a sequence of records, each a tag and a payload. A decoder reads a tag,
hands the payload of a tag that it knows to the field's reader, and skips the payload of any other;
so what it makes of a sequence of records is the updates of those it knows, one after the other.

The operations on single values are a parameter (`Binary`), with what is documented of them.

* `Reads` — a reader takes these bytes for this value, wherever they stand.
* `Carries` — records whose updates take one message to another.
* `Scatters` — the records in any order, with records that the decoder skips between them.
* `decode_scattered` — the decoder takes the message from its records however they are scattered.
* `decodeLoop_ends` — no input keeps the decoder from ending.
-/

namespace SampleGrpc.Wire

/-! ## Readers -/

/-- A reader: how far it has come, and what is left. -/
structure Reader where
  pos : ℕ
  rest : List UInt8

/-- How a read stops short: it throws, or the model's fuel has run out before it ends. -/
inductive Halt where
  | thrown (message : String)
  | outOfFuel
  deriving DecidableEq

abbrev Read (α : Type) := StateT Reader (Except Halt) α

variable {α β : Type}

/-- Wherever the bytes stand, the value is read and they are passed. -/
def Reads (read : Read α) (bytes : List UInt8) (a : α) : Prop :=
  ∀ pos rest, read ⟨pos, bytes ++ rest⟩ = .ok (a, ⟨pos + bytes.length, rest⟩)

/-- The read ends, whatever the bytes; when it succeeds it has passed `n` bytes at least. -/
structure Passes (read : Read α) (n : ℕ) : Prop where
  ends : ∀ r, read r ≠ .error .outOfFuel
  ahead : ∀ r a r', read r = .ok (a, r') → r'.rest.length + n ≤ r.rest.length

theorem reads_pure (a : α) : Reads (pure a) [] a := fun _ _ => rfl

theorem Reads.bind {read : Read α} {f : α → Read β} {bytes bytes' : List UInt8} {a : α} {b : β}
    (h : Reads read bytes a) (h' : Reads (f a) bytes' b) :
    Reads (read >>= f) (bytes ++ bytes') b := by
  intro pos rest
  show Except.bind (read ⟨pos, bytes ++ bytes' ++ rest⟩) (fun x => f x.1 x.2) = _
  rw [List.append_assoc, h, List.length_append, ← Nat.add_assoc]
  exact h' _ _

theorem Reads.map {read : Read α} {bytes : List UInt8} {a : α} (h : Reads read bytes a)
    (f : α → β) : Reads (do return f (← read)) bytes (f a) := by
  have hpure : Reads (pure (f a) : Read β) [] (f a) := reads_pure (f a)
  have hbind := Reads.bind (f := fun a => pure (f a)) h hpure
  rwa [List.append_nil] at hbind

theorem passes_pure (a : α) : Passes (pure a) 0 where
  ends r h := by cases h
  ahead := by
    rintro r a' r' h
    cases h
    exact Nat.le_refl _

theorem Passes.mono {read : Read α} {n m : ℕ} (h : Passes read n) (hm : m ≤ n) :
    Passes read m where
  ends := h.ends
  ahead r a r' hr := Nat.le_trans (Nat.add_le_add_left hm r'.rest.length) (h.ahead r a r' hr)

theorem bind_ok {read : Read α} {f : α → Read β} {r r'' : Reader} {b : β}
    (h : (read >>= f) r = .ok (b, r'')) :
    ∃ a r', read r = .ok (a, r') ∧ f a r' = .ok (b, r'') := by
  replace h : Except.bind (read r) (fun x => f x.1 x.2) = .ok (b, r'') := h
  cases hr : read r with
  | error e =>
    rw [hr] at h
    cases h
  | ok x =>
    rw [hr] at h
    exact ⟨x.1, x.2, rfl, h⟩

theorem bind_congr_ok {read : Read α} {f f' : α → Read β} {r : Reader}
    (h : ∀ a r', read r = .ok (a, r') → f a r' = f' a r') : (read >>= f) r = (read >>= f') r := by
  show Except.bind (read r) (fun x => f x.1 x.2) = Except.bind (read r) fun x => f' x.1 x.2
  cases hr : read r with
  | error e => rfl
  | ok x => exact h x.1 x.2 hr

/-- Two reads end where the first does, and the second does behind it. -/
theorem bind_ends {read : Read α} {f : α → Read β} {r : Reader} (h : read r ≠ .error .outOfFuel)
    (h' : ∀ a r', read r = .ok (a, r') → f a r' ≠ .error .outOfFuel) :
    (read >>= f) r ≠ .error .outOfFuel := by
  show Except.bind (read r) (fun x => f x.1 x.2) ≠ _
  cases hr : read r with
  | error e =>
    intro herr
    exact h (hr.trans (congrArg Except.error (Except.error.inj herr)))
  | ok x => exact h' x.1 x.2 hr

theorem Passes.bind {read : Read α} {f : α → Read β} {n m : ℕ} (h : Passes read n)
    (h' : ∀ a, Passes (f a) m) : Passes (read >>= f) (n + m) where
  ends r := bind_ends (h.ends r) fun a r' _ => (h' a).ends r'
  ahead := by
    intro r b r'' hr
    obtain ⟨a, r', hread, hf⟩ := bind_ok hr
    have hn := h.ahead r a r' hread
    have hm := (h' a).ahead r' b r'' hf
    omega

/-! ## Single values -/

structure BinaryWriter where
  uint32 : ℕ → List UInt8
  string : String → List UInt8
  bool : Bool → List UInt8

structure BinaryReader where
  uint32 : Read ℕ
  string : Read String
  bool : Read Bool
  /-- Skip the payload of a wire type. -/
  skip : ℕ → Read Unit

/-- A payload, by its wire type: a number in bytes of which all but the last have the high bit set,
eight bytes, a length and so many bytes, or four bytes. -/
inductive Payload (w : BinaryWriter) : ℕ → List UInt8 → Prop where
  | varint {bytes : List UInt8} {last : UInt8} (hbytes : ∀ b ∈ bytes, 128 ≤ b.toNat)
      (hlast : last.toNat < 128) : Payload w 0 (bytes ++ [last])
  | bit64 {bytes : List UInt8} (h : bytes.length = 8) : Payload w 1 bytes
  | lengthDelimited {bytes : List UInt8} (h : bytes.length < 2 ^ 32) :
      Payload w 2 (w.uint32 bytes.length ++ bytes)
  | bit32 {bytes : List UInt8} (h : bytes.length = 4) : Payload w 5 bytes

/-- No byte order mark at the front, which the decoding of UTF-8 would drop. -/
def Unmarked (s : String) : Prop := s.toList.head? ≠ some '\ufeff'

instance (s : String) : Decidable (Unmarked s) := inferInstanceAs (Decidable (_ ≠ _))

/-- The writer and the reader: what one writes, the other reads. -/
structure Binary where
  writer : BinaryWriter
  reader : BinaryReader
  reads_uint32 : ∀ n < 2 ^ 32, Reads reader.uint32 (writer.uint32 n) n
  reads_string : ∀ s, Unmarked s → (writer.string s).length < 2 ^ 32 →
    Reads reader.string (writer.string s) s
  reads_bool : ∀ b, Reads reader.bool (writer.bool b) b
  reads_skip : ∀ {wireType bytes}, Payload writer wireType bytes →
    Reads (reader.skip wireType) bytes ()
  passes_uint32 : Passes reader.uint32 1
  passes_string : Passes reader.string 0
  passes_bool : Passes reader.bool 0
  passes_skip : ∀ wireType, Passes (reader.skip wireType) 0

/-- `fork` and `join`: the bytes, after their length. -/
def BinaryWriter.join (w : BinaryWriter) (bytes : List UInt8) : List UInt8 :=
  w.uint32 bytes.length ++ bytes

/-! ## The decoder -/

section Decoder

variable {M : Type}

/-- What the decoder does with the payload of a tag, given the message so far. -/
abbrev Fields (M : Type) := ℕ → Option (M → Read M)

/-- One turn of the decoder: a known field, the end of a group, or a field to be skipped. -/
def turn (R : BinaryReader) (fields : Fields M) (again : M → Read M) (message : M) : Read M := do
  let tag ← R.uint32
  match fields tag with
  | some field => again (← field message)
  | none =>
    if tag % 8 = 4 ∨ tag = 0 then pure message
    else do
      R.skip (tag % 8)
      again message

/-- The loop of the decoder, up to the position `stop`. -/
def decodeLoop (R : BinaryReader) (fields : Fields M) (stop : ℕ) : ℕ → M → Read M
  | 0, message => fun r => if r.pos < stop then .error .outOfFuel else .ok (message, r)
  | fuel + 1, message => fun r =>
    if r.pos < stop then turn R fields (decodeLoop R fields stop fuel) message r
    else .ok (message, r)

/-- Decode from the reader: so many bytes, or all that are left. -/
def decode (R : BinaryReader) (fields : Fields M) (base : M) (length : Option ℕ) : Read M :=
  fun r => decodeLoop R fields (r.pos + length.getD r.rest.length) (r.rest.length + 1) base r

/-! ## Sequences of records -/

variable (W : Binary) (fields : Fields M)

/-- The bytes are a record that the decoder knows, which changes the message by `update`. -/
inductive Known : List UInt8 → (M → M) → Prop where
  | mk {tag : ℕ} {field : M → Read M} {payload : List UInt8} {update : M → M} (htag : tag < 2 ^ 32)
      (hfield : fields tag = some field)
      (hreads : ∀ message, Reads (field message) payload (update message)) :
      Known (W.writer.uint32 tag ++ payload) update

/-- The bytes are a record that the decoder skips. -/
inductive Unknown : List UInt8 → Prop where
  | mk {tag : ℕ} {payload : List UInt8} (htag : tag < 2 ^ 32) (hfield : fields tag = none)
      (hne : tag ≠ 0) (hpayload : Payload W.writer (tag % 8) payload) :
      Unknown (W.writer.uint32 tag ++ payload)

/-- The bytes are records, of which the known ones make these updates. -/
inductive Serial : List UInt8 → List (M → M) → Prop where
  | nil : Serial [] []
  | known {record bytes : List UInt8} {update : M → M} {updates : List (M → M)}
      (h : Known W fields record update) (hs : Serial bytes updates) :
      Serial (record ++ bytes) (update :: updates)
  | unknown {record bytes : List UInt8} {updates : List (M → M)} (h : Unknown W fields record)
      (hs : Serial bytes updates) : Serial (record ++ bytes) updates

/-- The records, with records that the decoder skips anywhere between them. -/
inductive Extends : List (List UInt8) → List UInt8 → Prop where
  | nil : Extends [] []
  | known {record bytes : List UInt8} {records : List (List UInt8)} (h : Extends records bytes) :
      Extends (record :: records) (record ++ bytes)
  | unknown {record bytes : List UInt8} {records : List (List UInt8)}
      (hrecord : Unknown W fields record) (h : Extends records bytes) :
      Extends records (record ++ bytes)

theorem extends_flatten (records : List (List UInt8)) :
    Extends W fields records records.flatten := by
  induction records with
  | nil => exact .nil
  | cons record records ih => exact .known ih

variable {W fields}

theorem Extends.length_le {records : List (List UInt8)} {bytes record : List UInt8}
    (h : Extends W fields records bytes) (hrecord : record ∈ records) :
    record.length ≤ bytes.length := by
  induction h with
  | nil => cases hrecord
  | known h ih =>
    rw [List.length_append]
    cases hrecord with
    | head => exact Nat.le_add_right _ _
    | tail _ hrest => exact Nat.le_add_left_of_le (ih hrest)
  | unknown _ _ ih =>
    rw [List.length_append]
    exact Nat.le_add_left_of_le (ih hrecord)

theorem Extends.length_lt {records : List (List UInt8)} {bytes : List UInt8} {n : ℕ}
    (h : Extends W fields records bytes) (hsize : bytes.length < n) :
    ∀ record ∈ records, record.length < n :=
  fun _ hrecord => Nat.lt_of_le_of_lt (h.length_le hrecord) hsize

theorem Extends.serial {records : List (List UInt8)} {bytes : List UInt8} {updates : List (M → M)}
    (h : Extends W fields records bytes)
    (hknown : List.Forall₂ (Known W fields) records updates) : Serial W fields bytes updates := by
  induction h generalizing updates with
  | nil =>
    cases hknown
    exact .nil
  | known h ih =>
    cases hknown with
    | cons hrecord hrest => exact .known hrecord (ih hrest)
  | unknown hrecord h ih => exact .unknown hrecord (ih hknown)

theorem uint32_ne_nil {tag : ℕ} (htag : tag < 2 ^ 32) : W.writer.uint32 tag ≠ [] := by
  intro hnil
  have hread := W.reads_uint32 tag htag 0 []
  rw [hnil] at hread
  have hpass := W.passes_uint32.ahead _ _ _ hread
  simp at hpass

theorem bind_of_reads {α β : Type} {read : Read α} {f : α → Read β} {bytes : List UInt8} {a : α}
    (h : Reads read bytes a) (pos : ℕ) (rest : List UInt8) :
    (read >>= f) ⟨pos, bytes ++ rest⟩ = f a ⟨pos + bytes.length, rest⟩ := by
  show Except.bind (read ⟨pos, bytes ++ rest⟩) (fun x => f x.1 x.2) = _
  rw [h]
  rfl

theorem decodeLoop_of_lt {R : BinaryReader} {stop fuel : ℕ} {message : M} {r : Reader}
    (h : r.pos < stop) : decodeLoop R fields stop (fuel + 1) message r =
      turn R fields (decodeLoop R fields stop fuel) message r := if_pos h

/-- A record that the decoder knows. -/
theorem decodeLoop_known {record : List UInt8} {update : M → M} (h : Known W fields record update)
    {stop pos : ℕ} (hpos : pos < stop) (fuel : ℕ) (message : M) (rest : List UInt8) :
    decodeLoop W.reader fields stop (fuel + 1) message ⟨pos, record ++ rest⟩ =
      decodeLoop W.reader fields stop fuel (update message) ⟨pos + record.length, rest⟩ := by
  obtain ⟨htag, hfield, hreads⟩ := h
  rw [decodeLoop_of_lt hpos, turn, List.append_assoc, bind_of_reads (W.reads_uint32 _ htag)]
  simp only [hfield]
  rw [bind_of_reads (hreads message), List.length_append, Nat.add_assoc]

/-- A record that the decoder skips. -/
theorem decodeLoop_unknown {record : List UInt8} (h : Unknown W fields record) {stop pos : ℕ}
    (hpos : pos < stop) (fuel : ℕ) (message : M) (rest : List UInt8) :
    decodeLoop W.reader fields stop (fuel + 1) message ⟨pos, record ++ rest⟩ =
      decodeLoop W.reader fields stop fuel message ⟨pos + record.length, rest⟩ := by
  obtain ⟨htag, hfield, hne, hpayload⟩ := h
  rename_i tag payload
  have hgroup : ¬ (tag % 8 = 4 ∨ tag = 0) := by
    rintro (hgroup | hzero)
    · rw [hgroup] at hpayload
      cases hpayload
    · exact hne hzero
  rw [decodeLoop_of_lt hpos, turn, List.append_assoc, bind_of_reads (W.reads_uint32 _ htag)]
  simp only [hfield, if_neg hgroup]
  rw [bind_of_reads (W.reads_skip hpayload), List.length_append, Nat.add_assoc]

theorem tagged_length_pos {tag : ℕ} (htag : tag < 2 ^ 32) (payload : List UInt8) :
    0 < (W.writer.uint32 tag ++ payload).length := by
  have hpos := List.length_pos_of_ne_nil (uint32_ne_nil (W := W) htag)
  rw [List.length_append]
  omega

/-- A record leaves the rest of the bytes one turn less at least. -/
theorem exists_turn {record bytes : List UInt8} {fuel : ℕ} (hrecord : 0 < record.length)
    (hfuel : (record ++ bytes).length ≤ fuel) : ∃ k, fuel = k + 1 ∧ bytes.length ≤ k := by
  rw [List.length_append] at hfuel
  exact ⟨fuel - 1, by omega, by omega⟩

theorem Known.length_pos {record : List UInt8} {update : M → M}
    (h : Known W fields record update) : 0 < record.length := by
  obtain ⟨htag, -, -⟩ := h
  exact tagged_length_pos htag _

theorem Unknown.length_pos {record : List UInt8} (h : Unknown W fields record) :
    0 < record.length := by
  obtain ⟨htag, -, -, -⟩ := h
  exact tagged_length_pos htag _

/-- **The decoder makes the updates of the records it knows**, one after the other. -/
theorem decodeLoop_serial {bytes : List UInt8} {updates : List (M → M)}
    (h : Serial W fields bytes updates) {fuel : ℕ} (hfuel : bytes.length ≤ fuel) (message : M)
    (pos : ℕ) (rest : List UInt8) :
    decodeLoop W.reader fields (pos + bytes.length) fuel message ⟨pos, bytes ++ rest⟩ =
      .ok (updates.foldl (fun m update => update m) message, ⟨pos + bytes.length, rest⟩) := by
  -- the loop stops where the records end, so each record is one turn and the rest is the hypothesis
  induction h generalizing fuel message pos with
  | nil => cases fuel <;> simp [decodeLoop]
  | known hrecord hs ih =>
    have hlength := hrecord.length_pos
    obtain ⟨fuel, rfl, hrest⟩ := exists_turn hlength hfuel
    rw [List.append_assoc, List.length_append, decodeLoop_known hrecord (by omega),
      ← Nat.add_assoc, ih hrest, List.foldl_cons]
  | unknown hrecord hs ih =>
    have hlength := hrecord.length_pos
    obtain ⟨fuel, rfl, hrest⟩ := exists_turn hlength hfuel
    rw [List.append_assoc, List.length_append, decodeLoop_unknown hrecord (by omega),
      ← Nat.add_assoc, ih hrest]

/-- A message of known length, wherever it stands. -/
theorem decode_serial {bytes : List UInt8} {updates : List (M → M)}
    (h : Serial W fields bytes updates) (base : M) :
    Reads (decode W.reader fields base (some bytes.length)) bytes
      (updates.foldl (fun m update => update m) base) := by
  intro pos rest
  refine decodeLoop_serial h ?_ base pos rest
  simp only [List.length_append]
  omega

/-- A message that takes up the whole buffer. -/
theorem decode_serial_all {bytes : List UInt8} {updates : List (M → M)}
    (h : Serial W fields bytes updates) (base : M) :
    decode W.reader fields base none ⟨0, bytes⟩ =
      .ok (updates.foldl (fun m update => update m) base, ⟨bytes.length, []⟩) := by
  have hloop := decodeLoop_serial h (Nat.le_succ bytes.length) base 0 []
  rw [List.append_nil, Nat.zero_add] at hloop
  rwa [decode, Option.getD_none, Nat.zero_add]

/-! ## Fields -/

/-- Set a field to the value that is read. -/
def setField {α : Type} (read : Read α) (set : M → α → M) (message : M) : Read M := do
  return set message (← read)

/-- A string field, written when it is not empty. -/
def stringRecord (w : BinaryWriter) (tag : ℕ) (s : String) : List (List UInt8) :=
  if s ≠ "" then [w.uint32 tag ++ w.string s] else []

def boolRecord (w : BinaryWriter) (tag : ℕ) (b : Bool) : List (List UInt8) :=
  if b ≠ false then [w.uint32 tag ++ w.bool b] else []

/-- A message within the message, between `fork` and `join`. -/
def messageRecord (w : BinaryWriter) (tag : ℕ) (bytes : List UInt8) : List UInt8 :=
  w.uint32 tag ++ w.join bytes

/-! ## Messages carried by records -/

variable (W fields)

/-- The decoder knows the records. Their updates are some of `all`, in the same order, and take the
one message to the other. -/
def Carries (records : List (List UInt8)) (all : List (M → M)) (m m' : M) : Prop :=
  ∃ updates : List (M → M), updates.Sublist all ∧ List.Forall₂ (Known W fields) records updates ∧
    updates.foldl (fun m update => update m) m = m'

variable {W fields}

theorem carries_nil (all : List (M → M)) (m : M) : Carries W fields [] all m m :=
  ⟨[], List.nil_sublist all, .nil, rfl⟩

theorem Carries.append {records records' : List (List UInt8)} {all all' : List (M → M)}
    {m m' m'' : M} (h : Carries W fields records all m m')
    (h' : Carries W fields records' all' m' m'') :
    Carries W fields (records ++ records') (all ++ all') m m'' := by
  obtain ⟨updates, hsub, hknown, rfl⟩ := h
  obtain ⟨updates', hsub', hknown', rfl⟩ := h'
  exact ⟨updates ++ updates', hsub.append hsub', List.rel_append hknown hknown',
    List.foldl_append⟩

theorem carries_field {α : Type} (set : M → α → M) {tag : ℕ} {read : Read α}
    {payload : List UInt8} {a : α} (htag : tag < 2 ^ 32)
    (hfield : fields tag = some (setField read set)) (hreads : Reads read payload a) (m : M) :
    Carries W fields [W.writer.uint32 tag ++ payload] [fun m => set m a] m (set m a) :=
  ⟨_, List.Sublist.refl _, .cons (.mk htag hfield fun m => hreads.map (set m)) .nil, rfl⟩

theorem carries_string (set : M → String → M) {tag : ℕ} {s : String} {m : M} (hs : Unmarked s)
    (hsize : ∀ record ∈ stringRecord W.writer tag s, record.length < 2 ^ 32) (htag : tag < 2 ^ 32)
    (hfield : fields tag = some (setField W.reader.string set)) (hempty : set m "" = m) :
    Carries W fields (stringRecord W.writer tag s) [fun m => set m s] m (set m s) := by
  by_cases hne : s ≠ ""
  · rw [stringRecord, if_pos hne] at hsize ⊢
    refine carries_field set htag hfield (W.reads_string s hs ?_) m
    have hrecord := hsize _ (List.mem_singleton.mpr rfl)
    rw [List.length_append] at hrecord
    omega
  · obtain rfl := not_not.mp hne
    rw [stringRecord, if_neg hne, hempty]
    exact carries_nil _ m

theorem carries_bool (set : M → Bool → M) {tag : ℕ} {b : Bool} {m : M} (htag : tag < 2 ^ 32)
    (hfield : fields tag = some (setField W.reader.bool set)) (hfalse : set m false = m) :
    Carries W fields (boolRecord W.writer tag b) [fun m => set m b] m (set m b) := by
  cases b with
  | false =>
    rw [hfalse]
    exact carries_nil _ m
  | true => exact carries_field set htag hfield (W.reads_bool true) m

/-- The bytes hold the message, with records that the decoder skips anywhere in it. -/
theorem reads_decode {records : List (List UInt8)} {bytes : List UInt8} {all : List (M → M)}
    {base m : M} (hc : Carries W fields records all base m) (h : Extends W fields records bytes) :
    Reads (decode W.reader fields base (some bytes.length)) bytes m := by
  obtain ⟨updates, -, hknown, rfl⟩ := hc
  exact decode_serial (h.serial hknown) base

theorem decode_carries {records : List (List UInt8)} {bytes : List UInt8} {all : List (M → M)}
    {base m : M} (hc : Carries W fields records all base m) (h : Extends W fields records bytes) :
    decode W.reader fields base none ⟨0, bytes⟩ = .ok (m, ⟨bytes.length, []⟩) := by
  obtain ⟨updates, -, hknown, rfl⟩ := hc
  exact decode_serial_all (h.serial hknown) base

/-! ## Any order -/

/-- The updates commute. -/
def Swap (f g : M → M) : Prop := ∀ m, f (g m) = g (f m)

instance : Std.Symm (Swap : (M → M) → (M → M) → Prop) := ⟨fun _ _ h m => (h m).symm⟩

/-- Where the updates commute, the order of the records does not matter. -/
theorem Carries.perm {records records' : List (List UInt8)} {all : List (M → M)} {m m' : M}
    (h : Carries W fields records all m m') (hall : all.Pairwise Swap)
    (hperm : records'.Perm records) : ∃ all', Carries W fields records' all' m m' := by
  obtain ⟨updates, hsub, hknown, rfl⟩ := h
  obtain ⟨updates', hknown', hperm'⟩ := List.perm_comp_forall₂ hperm hknown
  refine ⟨updates', updates', List.Sublist.refl _, hknown', hperm'.foldl_eq' ?_ m⟩
  have hpairs := (hall.sublist hsub).forall_of_forall fun f _ m => rfl
  intro f hf g hg m
  exact hpairs (hperm'.mem_iff.mp hg) (hperm'.mem_iff.mp hf) m

variable (W fields)

/-- The records in any order, with records that the decoder skips anywhere between them. -/
def Scatters (records : List (List UInt8)) (bytes : List UInt8) : Prop :=
  ∃ records', records'.Perm records ∧ Extends W fields records' bytes

theorem scatters_flatten (records : List (List UInt8)) :
    Scatters W fields records records.flatten :=
  ⟨records, .refl _, extends_flatten W fields records⟩

variable {W fields}

theorem Scatters.length_lt {records : List (List UInt8)} {bytes : List UInt8} {n : ℕ}
    (h : Scatters W fields records bytes) (hsize : bytes.length < n) :
    ∀ record ∈ records, record.length < n := by
  obtain ⟨records', hperm, h⟩ := h
  exact fun record hrecord => h.length_lt hsize record (hperm.mem_iff.mpr hrecord)

theorem reads_scattered {records : List (List UInt8)} {bytes : List UInt8} {all : List (M → M)}
    {base m : M} (hc : Carries W fields records all base m) (hall : all.Pairwise Swap)
    (h : Scatters W fields records bytes) :
    Reads (decode W.reader fields base (some bytes.length)) bytes m := by
  obtain ⟨records', hperm, h⟩ := h
  obtain ⟨all', hc'⟩ := hc.perm hall hperm
  exact reads_decode hc' h

theorem decode_scattered {records : List (List UInt8)} {bytes : List UInt8} {all : List (M → M)}
    {base m : M} (hc : Carries W fields records all base m) (hall : all.Pairwise Swap)
    (h : Scatters W fields records bytes) :
    decode W.reader fields base none ⟨0, bytes⟩ = .ok (m, ⟨bytes.length, []⟩) := by
  obtain ⟨records', hperm, h⟩ := h
  obtain ⟨all', hc'⟩ := hc.perm hall hperm
  exact decode_carries hc' h

theorem reads_message {α : Type} (read : ℕ → Read α) {bytes : List UInt8} {a : α}
    (hsize : bytes.length < 2 ^ 32) (h : Reads (read bytes.length) bytes a) :
    Reads (do read (← W.reader.uint32)) (W.writer.join bytes) a :=
  (W.reads_uint32 _ hsize).bind (f := read) h

/-! ## The end of the loop -/

/-- What a turn needs of the readers of the fields. -/
def Forward (fields : Fields M) : Prop :=
  ∀ tag field, fields tag = some field → ∀ message, Passes (field message) 0

theorem passes_setField {α : Type} {read : Read α} {n : ℕ} (h : Passes read n) (set : M → α → M)
    (message : M) : Passes (setField read set message) n :=
  h.bind (m := 0) fun _ => passes_pure _

variable (W)

/-- A turn ends, if the turns behind it do. -/
theorem turn_ends (hfields : Forward fields) {again : M → Read M} {r : Reader}
    (h : ∀ message r', r'.rest.length < r.rest.length → again message r' ≠ .error .outOfFuel)
    (message : M) : turn W.reader fields again message r ≠ .error .outOfFuel := by
  refine bind_ends (W.passes_uint32.ends r) fun tag r₁ htag => ?_
  have hshort := W.passes_uint32.ahead _ _ _ htag
  cases hfield : fields tag with
  | some field =>
    have hpasses := hfields tag field hfield message
    refine bind_ends (hpasses.ends r₁) fun message' r₂ hread => h message' r₂ ?_
    have hkept := hpasses.ahead _ _ _ hread
    omega
  | none =>
    by_cases hgroup : tag % 8 = 4 ∨ tag = 0
    · simp only [if_pos hgroup]
      exact (passes_pure message).ends r₁
    · simp only [if_neg hgroup]
      have hpasses := W.passes_skip (tag % 8)
      refine bind_ends (hpasses.ends r₁) fun _ r₂ hread => h message r₂ ?_
      have hkept := hpasses.ahead _ _ _ hread
      omega

/-- **No input keeps the decoder from ending**: a turn passes a byte at least, so the fuel does not
run out in as many turns as there are bytes, and one more. -/
theorem decodeLoop_ends (hfields : Forward fields) (stop : ℕ) {fuel : ℕ} (message : M) {r : Reader}
    (h : r.rest.length < fuel) :
    decodeLoop W.reader fields stop fuel message r ≠ .error .outOfFuel := by
  induction fuel generalizing message r with
  | zero => omega
  | succ fuel ih =>
    by_cases hpos : r.pos < stop
    · rw [decodeLoop_of_lt hpos]
      exact turn_ends W hfields (fun message' r' hr' => ih message' (by omega)) message
    · simp only [decodeLoop, if_neg hpos]
      exact (passes_pure message).ends r

theorem turn_congr (hfields : Forward fields) {again again' : M → Read M} {r : Reader}
    (h : ∀ message r', r'.rest.length < r.rest.length → again message r' = again' message r')
    (message : M) :
    turn W.reader fields again message r = turn W.reader fields again' message r := by
  refine bind_congr_ok fun tag r₁ htag => ?_
  have hshort := W.passes_uint32.ahead _ _ _ htag
  cases hfield : fields tag with
  | some field =>
    refine bind_congr_ok fun message' r₂ hread => h message' r₂ ?_
    have hkept := (hfields tag field hfield message).ahead _ _ _ hread
    omega
  | none =>
    by_cases hgroup : tag % 8 = 4 ∨ tag = 0
    · simp only [if_pos hgroup]
    · simp only [if_neg hgroup]
      refine bind_congr_ok fun _ r₂ hread => h message r₂ ?_
      have hkept := (W.passes_skip _).ahead _ _ _ hread
      omega

/-- More fuel changes nothing. -/
theorem decodeLoop_fuel (hfields : Forward fields) (stop : ℕ) {fuel fuel' : ℕ} (message : M)
    {r : Reader} (h : r.rest.length < fuel) (h' : r.rest.length < fuel') :
    decodeLoop W.reader fields stop fuel message r =
      decodeLoop W.reader fields stop fuel' message r := by
  induction fuel generalizing fuel' message r with
  | zero => omega
  | succ fuel ih =>
    obtain ⟨fuel', rfl⟩ : ∃ k, fuel' = k + 1 := ⟨fuel' - 1, by omega⟩
    by_cases hpos : r.pos < stop
    · rw [decodeLoop_of_lt hpos, decodeLoop_of_lt hpos]
      exact turn_congr W hfields (fun message' r' hr' => ih message' (by omega) (by omega)) message
    · simp only [decodeLoop, if_neg hpos]

theorem turn_ahead (hfields : Forward fields) {again : M → Read M} {r r' : Reader} {m : M}
    (h : ∀ message r₁ m' r₂, again message r₁ = .ok (m', r₂) → r₂.rest.length ≤ r₁.rest.length)
    {message : M} (hturn : turn W.reader fields again message r = .ok (m, r')) :
    r'.rest.length ≤ r.rest.length := by
  obtain ⟨tag, r₁, htag, hturn⟩ := bind_ok hturn
  have hshort := W.passes_uint32.ahead _ _ _ htag
  cases hfield : fields tag with
  | some field =>
    simp only [hfield] at hturn
    obtain ⟨message', r₂, hread, hagain⟩ := bind_ok hturn
    have hkept := (hfields tag field hfield message).ahead _ _ _ hread
    have hrest := h _ _ _ _ hagain
    omega
  | none =>
    simp only [hfield] at hturn
    split at hturn
    · cases hturn
      omega
    · obtain ⟨_, r₂, hread, hagain⟩ := bind_ok hturn
      have hkept := (W.passes_skip _).ahead _ _ _ hread
      have hrest := h _ _ _ _ hagain
      omega

theorem decodeLoop_ahead (hfields : Forward fields) (stop fuel : ℕ) {message m : M}
    {r r' : Reader} (h : decodeLoop W.reader fields stop fuel message r = .ok (m, r')) :
    r'.rest.length ≤ r.rest.length := by
  induction fuel generalizing message m r r' with
  | zero =>
    simp only [decodeLoop] at h
    split at h <;> cases h
    exact Nat.le_refl _
  | succ fuel ih =>
    simp only [decodeLoop] at h
    split at h
    · exact turn_ahead W hfields (fun _ _ _ _ hagain => ih hagain) h
    · cases h
      exact Nat.le_refl _

theorem passes_decode (hfields : Forward fields) (base : M) (length : Option ℕ) :
    Passes (decode W.reader fields base length) 0 where
  ends _ := decodeLoop_ends W hfields _ base (Nat.lt_succ_self _)
  ahead _ _ _ h := decodeLoop_ahead W hfields _ _ h

end Decoder

end SampleGrpc.Wire
