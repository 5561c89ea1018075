import SampleGrpc.Shell.Make
import SampleGrpc.Shell.Scan
import SampleGrpc.Text.Uuid

/-!
# The check of the API paths

`make check-api-paths` searches the proto files for HTTP annotations as the repository writes them,
and fails when one of the texts that it finds does not have `api_prefix` behind the opening quote.
An annotation that is written otherwise is not found, a text that only looks like one is, and a path
that goes on behind the prefix without a slash passes.

* `ProtoFile` — proto files, with the concrete syntax of their HTTP bindings.
* `checkApiPaths` — the recipe.
* `checkApiPaths_of_quiet` — what it decides where only the plain bindings lack the prefix.
* `apiPaths_iff` — when that is what it promises.
-/

namespace SampleGrpc.Build

open RecipeLine

/-! ## Proto files -/

inductive Verb where
  | get
  | post
  | put
  | delete
  | patch
  deriving DecidableEq, Repr

def Verb.text : Verb → List Char
  | .get => "get".toList
  | .post => "post".toList
  | .put => "put".toList
  | .delete => "delete".toList
  | .patch => "patch".toList

/-- What may stand between two tokens. -/
inductive GapItem where
  | white (c : Char)
  | lineComment (body : List Char)
  | blockComment (body : List Char)

def GapItem.text : GapItem → List Char
  | .white c => [c]
  | .lineComment body => "//".toList ++ body ++ ['\n']
  | .blockComment body => "/*".toList ++ body ++ "*/".toList

def GapItem.Legal : GapItem → Prop
  | .white c => c ∈ [' ', '\t', '\n', '\r', '\x0b', '\x0c']
  | .lineComment body => '\n' ∉ body
  | .blockComment body => ¬"*/".toList <:+: body

structure Gap where
  items : List GapItem
  legal : ∀ g ∈ items, g.Legal

def Gap.text (g : Gap) : List Char := g.items.flatMap GapItem.text

/-- The number in some base, of digits only. -/
def digitsIn (base : ℕ) (ds : List Char) : Option ℕ :=
  ds.foldlM (fun n d => (Uuid.hexValue d).bind fun v =>
    if v < base then some (base * n + v) else none) 0

/-- The byte of an escape of one character. -/
def simpleEscape (c : Char) : Option UInt8 :=
  [('a', 7), ('b', 8), ('f', 12), ('n', 10), ('r', 13), ('t', 9), ('v', 11), ('\\', 92),
    ('\'', 39), ('"', 34), ('?', 63)].lookup c

/-- The bytes that an escape stands for, without its backslash. -/
def escapeBytes : List Char → Option (List UInt8)
  | [] => none
  | c :: ds =>
    if c = 'x' ∨ c = 'X' then
      if ds.length = 1 ∨ ds.length = 2 then (digitsIn 16 ds).map fun n => [UInt8.ofNat n] else none
    else if c = 'u' ∧ ds.length = 4 ∨ c = 'U' ∧ ds.length = 8 then
      (digitsIn 16 ds).bind fun n =>
        if n.isValidChar then some (String.utf8EncodeChar (Char.ofNat n)) else none
    else
      match simpleEscape c with
      | some b => if ds = [] then some [b] else none
      | none =>
        if ds.length ≤ 2 then
          (digitsIn 8 (c :: ds)).bind fun n => if n < 256 then some [UInt8.ofNat n] else none
        else none

/-- A piece of a string literal: a character as it is, or escapes that together encode one. -/
inductive Piece where
  | char (c : Char)
  | escapes (codes : List (List Char)) (c : Char)

namespace Piece

def text : Piece → List Char
  | .char c => [c]
  | .escapes codes _ => codes.flatMap fun code => '\\' :: code

def value : Piece → Char
  | .char c => c
  | .escapes _ c => c

def Legal (quote : Char) : Piece → Prop
  | .char c => c ≠ quote ∧ c ≠ '\\' ∧ c ≠ '\n' ∧ c ≠ '\x00'
  | .escapes codes c => (codes.mapM escapeBytes).map List.flatten = some (String.utf8EncodeChar c)

end Piece

structure Literal where
  quote : Char
  pieces : List Piece
  quote_legal : quote = '"' ∨ quote = '\''
  legal : ∀ x ∈ pieces, x.Legal quote

namespace Literal

def text (l : Literal) : List Char := l.quote :: l.pieces.flatMap Piece.text ++ [l.quote]

def value (l : Literal) : List Char := l.pieces.map Piece.value

end Literal

/-- An HTTP binding as it is written: `get: "/path"` in the option, with the gaps between the tokens
and the further literals that continue the first, or `(google.api.http).get = "/path"`. -/
structure Binding where
  verb : Verb
  before : Gap
  sep : Char
  after : Gap
  first : Literal
  more : List (Gap × Literal)
  sep_legal : sep = ':' ∨ sep = '='

namespace Binding

def text (b : Binding) : List Char :=
  b.verb.text ++ b.before.text ++ b.sep :: b.after.text ++ b.first.text ++
    b.more.flatMap fun x => x.1.text ++ x.2.text

def path (b : Binding) : List Char := b.first.value ++ b.more.flatMap fun x => x.2.value

end Binding

/-- A binding, or the text between two of them. -/
inductive Chunk where
  | other (text : List Char)
  | binding (b : Binding)

def Chunk.text : Chunk → List Char
  | .other t => t
  | .binding b => b.text

def Chunk.binding? : Chunk → Option Binding
  | .other _ => none
  | .binding b => some b

/-- `proto/<name>.proto` -/
structure ProtoFile where
  name : List Char
  chunks : List Chunk

def textOf (chunks : List Chunk) : List Char := chunks.flatMap Chunk.text

def ProtoFile.text (f : ProtoFile) : List Char := textOf f.chunks

def ProtoFile.bindings (f : ProtoFile) : List Binding := f.chunks.filterMap Chunk.binding?

/-! ## The recipe -/

def verbs : List Verb := [.get, .post, .put, .delete, .patch]

/-- `<verb>: "/[^"]*"` at the start of a text -/
def verbAt (s : List Char) (v : Verb) : Option (List Char) :=
  match s.dropPrefix? (v.text ++ ": \"/".toList) with
  | some rest =>
    if '"' ∈ rest then
      some (v.text ++ ": \"/".toList ++ (rest.takeWhile (· ≠ '"') ++ ['"']))
    else none
  | none => none

theorem verbAt_append (v : Verb) (body rest : List Char) (hbody : '"' ∉ body) :
    verbAt (v.text ++ ": \"/".toList ++ (body ++ '"' :: rest)) v =
      some (v.text ++ ": \"/".toList ++ (body ++ ['"'])) := by
  have hdrop : (v.text ++ ": \"/".toList ++ (body ++ '"' :: rest)).dropPrefix?
      (v.text ++ ": \"/".toList) = some (body ++ '"' :: rest) :=
    List.dropPrefix?_eq_some_iff.mpr ⟨_, rfl, beq_self_eq_true _⟩
  have htake : (body ++ '"' :: rest).takeWhile (· ≠ '"') = body := by
    rw [List.takeWhile_append_of_pos, List.takeWhile_cons_of_neg (by decide), List.append_nil]
    intro c hc
    exact decide_eq_true fun h => hbody (h ▸ hc)
  rw [verbAt, hdrop]
  simp only [htake, List.mem_append, List.mem_cons, true_or, or_true, if_true]

theorem verbAt_cases {s m : List Char} {v : Verb} (h : verbAt s v = some m) :
    ∃ body rest, '"' ∉ body ∧ s = v.text ++ ": \"/".toList ++ (body ++ '"' :: rest) ∧
      m = v.text ++ ": \"/".toList ++ (body ++ ['"']) := by
  cases hdrop : s.dropPrefix? (v.text ++ ": \"/".toList) with
  | none =>
    rw [verbAt, hdrop] at h
    cases h
  | some rest =>
    obtain ⟨start, hs, hstart⟩ := List.dropPrefix?_eq_some_iff.mp hdrop
    rw [eq_of_beq hstart] at hs
    by_cases hquote : '"' ∈ rest
    · obtain ⟨body, after, hrest, hbody⟩ := List.eq_append_cons_of_mem hquote
      subst hs hrest
      rw [verbAt_append v body after hbody, Option.some_inj] at h
      exact ⟨body, after, hbody, rfl, h.symm⟩
    · rw [verbAt, hdrop] at h
      simp only [if_neg hquote] at h
      cases h

/-- `(get|post|put|delete|patch): "/[^"]*"` -/
def apiPattern : Matcher where
  matchAt s := verbs.findSome? (verbAt s)
  isPrefix h := by
    obtain ⟨v, -, hv⟩ := List.exists_of_findSome?_eq_some h
    obtain ⟨body, rest, -, rfl, rfl⟩ := verbAt_cases hv
    exact ⟨rest, by simp⟩
  ne_nil h := by
    obtain ⟨v, -, hv⟩ := List.exists_of_findSome?_eq_some h
    obtain ⟨body, rest, -, -, rfl⟩ := verbAt_cases hv
    simp

/-- A text between double quotes, as the shell expands it. -/
structure DoubleQuotes where
  value : List Char → List Char
  plain : ∀ s, (∀ c ∈ s, c ∉ ['$', '\u0060', '"', '\\']) → value s = s

/-- `api_prefix` -/
structure ApiPrefix where
  text : List Char
  starts : text.head? = some '/'
  ends : text.getLast? ≠ some '/'

/-- The name of the file before a match, when there are several. -/
def label (files : List ProtoFile) (f : ProtoFile) : List Char :=
  if files.length ≤ 1 then [] else "proto/".toList ++ f.name ++ ".proto:".toList

/-- `grep -rEo '(get|post|put|delete|patch): "/[^"]*"' proto/*.proto` -/
def extracted (files : List ProtoFile) : List (List Char) :=
  files.flatMap fun f => (apiPattern.grepOnly f.text).map (label files f ++ ·)

/-- `BAD`, with `PREFIX` between the double quotes of the pattern. -/
def bad (G : Grep) (Q : DoubleQuotes) (p : ApiPrefix) (files : List ProtoFile) : List Char :=
  List.intercalate ['\n'] ((extracted files).filter fun line =>
    !G.matchesIn (": \"".toList ++ Q.value p.text) line)

/-- `check-api-paths` -/
def checkApiPaths (G : Grep) (Q : DoubleQuotes) (p : ApiPrefix) :
    List (RecipeLine (List ProtoFile)) :=
  [test fun files => bad G Q p files = []]

/-! ## Bindings as the pattern has them -/

/-- A binding in one line, with one blank behind the colon, and the path in one double-quoted
literal without escapes that begins with a slash. -/
structure Binding.Plain (b : Binding) : Prop where
  before : b.before.items = []
  sep : b.sep = ':'
  after : b.after.items = [.white ' ']
  more : b.more = []
  quote : b.first.quote = '"'
  chars : ∀ x ∈ b.first.pieces, ∃ c, x = .char c
  slash : b.path.head? = some '/'

theorem text_of_chars {pieces : List Piece} (h : ∀ x ∈ pieces, ∃ c, x = .char c) :
    pieces.flatMap Piece.text = pieces.map Piece.value := by
  induction pieces with
  | nil => rfl
  | cons x pieces ih =>
    obtain ⟨c, rfl⟩ := h x List.mem_cons_self
    rw [List.flatMap_cons, ih fun y hy => h y (List.mem_cons_of_mem _ hy), List.map_cons]
    rfl

namespace Binding.Plain

variable {b : Binding}

theorem path_eq (h : b.Plain) : b.path = b.first.value := by
  rw [Binding.path, h.more]
  exact List.append_nil _

theorem text_eq (h : b.Plain) : b.text = b.verb.text ++ ": \"".toList ++ (b.path ++ ['"']) := by
  have hbefore : b.before.text = [] := by rw [Gap.text, h.before, List.flatMap_nil]
  have hafter : b.after.text = [' '] := by
    rw [Gap.text, h.after]
    rfl
  have hfirst : b.first.text = '"' :: (b.first.value ++ ['"']) := by
    rw [Literal.text, h.quote, text_of_chars h.chars]
    rfl
  rw [Binding.text, hbefore, h.sep, hafter, hfirst, h.more, h.path_eq]
  simp

/-- The characters that do not stand in a plain path. -/
theorem notMem_path (h : b.Plain) : '"' ∉ b.path ∧ '\n' ∉ b.path := by
  have hlegal : ∀ c ∈ b.path, c ≠ '"' ∧ c ≠ '\n' := by
    intro c hc
    rw [h.path_eq, Literal.value] at hc
    obtain ⟨x, hx, rfl⟩ := List.mem_map.mp hc
    obtain ⟨c, rfl⟩ := h.chars x hx
    obtain ⟨hquote, -, hnewline, -⟩ := b.first.legal _ hx
    exact ⟨h.quote ▸ hquote, hnewline⟩
  exact ⟨fun hmem => (hlegal _ hmem).1 rfl, fun hmem => (hlegal _ hmem).2 rfl⟩

end Binding.Plain

/-- No annotation begins with two different verbs. -/
theorem verb_unique {v w : Verb} {s : List Char} (hv : v.text ++ ": \"/".toList <+: s)
    (hw : w.text ++ ": \"/".toList <+: s) : v = w := by
  have hverbs : ∀ v w : Verb, v.text ++ ": \"/".toList <+: w.text ++ ": \"/".toList → v = w := by
    intro v w
    cases v <;> cases w <;> decide
  rcases List.prefix_or_prefix_of_prefix hv hw with h | h
  · exact hverbs v w h
  · exact (hverbs w v h).symm

theorem Binding.Plain.matchAt {b : Binding} (h : b.Plain) (rest : List Char) :
    apiPattern.matchAt (b.text ++ rest) = some b.text := by
  obtain ⟨tail, htail⟩ := List.head?_eq_some_iff.mp h.slash
  have hquote : '"' ∉ tail := fun hmem => h.notMem_path.1 (htail ▸ List.mem_cons_of_mem _ hmem)
  have htext : b.text = b.verb.text ++ ": \"/".toList ++ (tail ++ ['"']) := by
    rw [h.text_eq, htail]
    simp
  have hverb : verbAt (b.text ++ rest) b.verb = some b.text := by
    have happend := verbAt_append b.verb tail rest hquote
    rw [htext]
    simpa using happend
  cases hmatch : apiPattern.matchAt (b.text ++ rest) with
  | none =>
    have hnone := List.findSome?_eq_none_iff.mp hmatch b.verb (by cases b.verb <;> decide)
    rw [hverb] at hnone
    cases hnone
  | some m =>
    obtain ⟨v, -, hv⟩ := List.exists_of_findSome?_eq_some hmatch
    obtain ⟨body, after, -, hs, -⟩ := verbAt_cases hv
    have hsame : v = b.verb := by
      apply verb_unique (s := b.text ++ rest)
      · exact ⟨_, hs.symm⟩
      · exact ⟨tail ++ ['"'] ++ rest, by rw [htext, List.append_assoc _ (tail ++ _) rest]⟩
    rw [hsame, hverb] at hv
    exact hv.symm

/-- The pattern finds a plain binding where it stands. -/
theorem Binding.Plain.inLine_matchAt {b : Binding} (h : b.Plain) (rest : List Char) :
    apiPattern.inLine.matchAt (b.text ++ rest) = some b.text := by
  have hnewline : '\n' ∉ b.text := by
    have hverb : '\n' ∉ b.verb.text := by cases b.verb <;> decide
    rw [h.text_eq, List.mem_append, List.mem_append, List.mem_append, not_or, not_or, not_or]
    exact ⟨⟨hverb, by decide⟩, h.notMem_path.2, by decide⟩
  have hline : Matcher.line (b.text ++ rest) = b.text ++ Matcher.line rest := by
    apply List.takeWhile_append_of_pos
    intro c hc
    exact decide_eq_true fun heq => hnewline (heq ▸ hc)
  show apiPattern.matchAt (Matcher.line (b.text ++ rest)) = some b.text
  rw [hline, h.matchAt]

/-! ## What the check decides -/

/-- The line that `grep` prints for a match has the prefix behind an opening quote. -/
def Carries (G : Grep) (Q : DoubleQuotes) (p : ApiPrefix) (files : List ProtoFile) (f : ProtoFile)
    (x : List Char) : Prop :=
  G.matchesIn (": \"".toList ++ Q.value p.text) (label files f ++ x) = true

theorem intercalate_eq_nil_iff {sep : List Char} {ls : List (List Char)}
    (hne : ∀ l ∈ ls, l ≠ []) : List.intercalate sep ls = [] ↔ ls = [] := by
  cases ls with
  | nil => exact iff_of_true rfl rfl
  | cons l ls =>
    have hl : l ≠ [] := hne l List.mem_cons_self
    refine iff_of_false ?_ (List.cons_ne_nil _ _)
    cases ls with
    | nil =>
      rw [List.intercalate_singleton]
      exact hl
    | cons l' ls =>
      rw [List.intercalate_cons_cons]
      simp [hl]

variable {G : Grep} {Q : DoubleQuotes} {p : ApiPrefix} {files : List ProtoFile} {f : ProtoFile}

/-- **What the check decides**: every text that the pattern extracts has the prefix. -/
theorem checkApiPaths_zero_iff :
    (make (checkApiPaths G Q p) files).2 = 0 ↔
      ∀ f ∈ files, ∀ x ∈ apiPattern.grepOnly f.text, Carries G Q p files f x := by
  have hlines : ∀ line ∈ (extracted files).filter fun line =>
      !G.matchesIn (": \"".toList ++ Q.value p.text) line, line ≠ [] := by
    intro line hline
    obtain ⟨f, -, hf⟩ := List.mem_flatMap.mp (List.mem_filter.mp hline).1
    obtain ⟨x, hx, rfl⟩ := List.mem_map.mp hf
    rw [Matcher.grepOnly_eq_scan] at hx
    have hne := Matcher.ne_nil_of_mem_scan hx
    simp [hne]
  rw [checkApiPaths, make_test_cons, make_nil, decide_eq_true_iff, bad,
    intercalate_eq_nil_iff hlines, List.filter_eq_nil_iff]
  simp only [and_true]
  constructor
  · intro h f hf x hx
    have hmem : label files f ++ x ∈ extracted files :=
      List.mem_flatMap.mpr ⟨f, hf, List.mem_map_of_mem hx⟩
    have hfound := h _ hmem
    rwa [Bool.not_eq_true, Bool.not_eq_false'] at hfound
  · intro h line hline
    obtain ⟨f, hf, hline⟩ := List.mem_flatMap.mp hline
    obtain ⟨x, hx, rfl⟩ := List.mem_map.mp hline
    rw [Bool.not_eq_true, Bool.not_eq_false']
    exact h f hf x hx

/-! ## The promise -/

/-- The path is the prefix, or goes on behind it with a slash. -/
def WellPrefixed (p : ApiPrefix) (path : List Char) : Prop :=
  path = p.text ∨ p.text ++ ['/'] <+: path

/-- What the check promises: every binding is reachable under the prefix. -/
def AllPrefixed (p : ApiPrefix) (files : List ProtoFile) : Prop :=
  ∀ f ∈ files, ∀ b ∈ f.bindings, WellPrefixed p b.path

/-! ## Quiet files -/

/-- What the pattern finds in a text, with another behind it, stays in the text and has the prefix
behind its quote. -/
def Harmless (p : ApiPrefix) (t rest : List Char) : Prop :=
  ∀ u m, u ≠ [] → u <:+ t → apiPattern.inLine.matchAt (u ++ rest) = some m →
    m.length ≤ u.length ∧ ": \"".toList ++ p.text <:+: m

/-- But for the plain bindings, the pattern finds nothing that does not have the prefix. -/
def Quiet (p : ApiPrefix) : List Chunk → Prop
  | [] => True
  | .other t :: cs => Harmless p t (textOf cs) ∧ Quiet p cs
  | .binding b :: cs => (b.Plain ∨ Harmless p b.text (textOf cs)) ∧ Quiet p cs

theorem Harmless.scan {t rest : List Char} (h : Harmless p t rest) :
    ∃ ms, apiPattern.inLine.scan 0 (t ++ rest) = ms ++ apiPattern.inLine.scan 0 rest ∧
      ∀ m ∈ ms, ": \"".toList ++ p.text <:+: m := by
  have hclear : apiPattern.inLine.Clear t rest := fun u m hne hu hm => (h u m hne hu hm).1
  obtain ⟨ms, hms, hstart⟩ := Matcher.scan_clear hclear 0 (Nat.zero_le _)
  refine ⟨ms, hms, fun m hm => ?_⟩
  obtain ⟨u, hne, hu, hmatch⟩ := hstart m hm
  exact (h u m hne hu hmatch).2

/-- What is found before the other chunks: a plain binding, or texts with the prefix. -/
theorem Quiet.scan_cons {c : Chunk} {cs : List Chunk} (h : Quiet p (c :: cs)) :
    ∃ ms, apiPattern.inLine.scan 0 (textOf (c :: cs)) =
        ms ++ apiPattern.inLine.scan 0 (textOf cs) ∧
      ((∃ b, c = .binding b ∧ b.Plain ∧ ms = [b.text]) ∨
        (∀ b, c = .binding b → ¬b.Plain) ∧ ∀ m ∈ ms, ": \"".toList ++ p.text <:+: m) := by
  cases c with
  | other t =>
    obtain ⟨ms, hms, hcarry⟩ := h.1.scan
    exact ⟨ms, hms, .inr ⟨nofun, hcarry⟩⟩
  | binding b =>
    by_cases hplain : b.Plain
    · exact ⟨[b.text], Matcher.scan_match (hplain.inLine_matchAt _), .inl ⟨b, rfl, hplain, rfl⟩⟩
    · obtain ⟨ms, hms, hcarry⟩ := (h.1.resolve_left hplain).scan
      refine ⟨ms, hms, .inr ⟨?_, hcarry⟩⟩
      rintro b' ⟨⟩
      exact hplain

theorem Quiet.tail {c : Chunk} {cs : List Chunk} (h : Quiet p (c :: cs)) : Quiet p cs := by
  cases c with
  | other t => exact h.2
  | binding b => exact h.2

/-- A plain binding is found, whatever stands before it. -/
theorem Quiet.mem_scan {cs : List Chunk} (h : Quiet p cs) {b : Binding}
    (hb : .binding b ∈ cs) (hplain : b.Plain) :
    b.text ∈ apiPattern.inLine.scan 0 (textOf cs) := by
  induction cs with
  | nil => cases hb
  | cons c cs ih =>
    obtain ⟨ms, hms, hfound⟩ := h.scan_cons
    rw [hms, List.mem_append]
    rcases List.mem_cons.mp hb with rfl | hb
    · rcases hfound with ⟨b', hb', -, rfl⟩ | ⟨hnot, -⟩
      · cases hb'
        exact .inl (List.mem_singleton_self _)
      · exact absurd hplain (hnot b rfl)
    · exact .inr (ih h.tail hb)

/-- Everything else that is found has the prefix. -/
theorem Quiet.scan_cases {cs : List Chunk} (h : Quiet p cs) {x : List Char}
    (hx : x ∈ apiPattern.inLine.scan 0 (textOf cs)) :
    (∃ b, .binding b ∈ cs ∧ b.Plain ∧ x = b.text) ∨ ": \"".toList ++ p.text <:+: x := by
  induction cs with
  | nil => cases hx
  | cons c cs ih =>
    obtain ⟨ms, hms, hfound⟩ := h.scan_cons
    rw [hms, List.mem_append] at hx
    rcases hx with hx | hx
    · rcases hfound with ⟨b, rfl, hplain, rfl⟩ | ⟨-, hcarry⟩
      · exact .inl ⟨b, List.mem_cons_self, hplain, List.mem_singleton.mp hx⟩
      · exact .inr (hcarry x hx)
    · rcases ih h.tail hx with ⟨b, hb, hrest⟩ | hcarry
      · exact .inl ⟨b, List.mem_cons_of_mem _ hb, hrest⟩
      · exact .inr hcarry

/-! ## Plain bindings and the prefix -/

/-- The prefix stands for itself, in the shell and in the pattern. -/
def ApiPrefix.Verbatim (p : ApiPrefix) : Prop :=
  ∀ c ∈ p.text, Ordinary c ∧ c ≠ '"' ∧ c ≠ '\u0060'

instance : Decidable p.Verbatim :=
  List.decidableBAll (fun c => Ordinary c ∧ c ≠ '"' ∧ c ≠ '\u0060') p.text

/-- Before the colon of an annotation the pattern does not match. -/
theorem not_prefix_before {pat r u : List Char} (hu : '"' ∉ u) (hne : u ≠ []) :
    ¬ ':' :: ' ' :: '"' :: pat <+: u ++ ':' :: ' ' :: '"' :: r := by
  intro h
  rcases u with _ | ⟨x, _ | ⟨y, _ | ⟨z, u⟩⟩⟩
  · exact hne rfl
  · simp [List.cons_prefix_cons] at h
  · simp [List.cons_prefix_cons] at h
  · have hz : '"' = z := by
      simp only [List.cons_append, List.cons_prefix_cons] at h
      exact h.2.2.1
    exact hu (by simp [← hz])

/-- Nor does it behind the colon. -/
theorem not_prefix_behind {pat path u : List Char} (hpath : '"' ∉ path)
    (hu : u <:+ ' ' :: '"' :: (path ++ ['"'])) : ¬ ':' :: ' ' :: '"' :: '/' :: pat <+: u := by
  rintro ⟨t, rfl⟩
  obtain ⟨w, hw⟩ := hu
  rcases w with _ | ⟨x, _ | ⟨y, w⟩⟩
  · simp at hw
  · simp at hw
  · have hrest : (w ++ [':', ' ', '"']) ++ '/' :: (pat ++ t) = path ++ ['"'] := by
      simpa using (List.cons.inj (List.cons.inj hw).2).2
    have hinit := congrArg List.dropLast hrest
    rw [List.dropLast_concat, List.dropLast_append_of_ne_nil (List.cons_ne_nil _ _)] at hinit
    apply hpath
    rw [← hinit]
    simp

theorem ApiPrefix.Verbatim.quoted (hp : p.Verbatim) (Q : DoubleQuotes) :
    Q.value p.text = p.text := by
  apply Q.plain
  intro c hc hspecial
  obtain ⟨hordinary, hquote, htick⟩ := hp c hc
  simp only [List.mem_cons, List.not_mem_nil, or_false] at hspecial
  rcases hspecial with rfl | rfl | rfl | rfl
  · exact absurd hordinary (by decide)
  · exact htick rfl
  · exact hquote rfl
  · exact absurd hordinary (by decide)

theorem ApiPrefix.Verbatim.ordinary (hp : p.Verbatim) :
    ∀ c ∈ ": \"".toList ++ p.text, Ordinary c := by
  have hopening : ∀ c ∈ ": \"".toList, Ordinary c := by simp [Ordinary]
  intro c hc
  rcases List.mem_append.mp hc with hc | hc
  · exact hopening c hc
  · exact (hp c hc).1

theorem ApiPrefix.Verbatim.concat_iff (hp : p.Verbatim) (path : List Char) :
    p.text <+: path ++ ['"'] ↔ p.text <+: path := by
  rw [List.prefix_concat_iff]
  constructor
  · rintro (heq | h)
    · exact absurd rfl (hp '"' (by simp [heq])).2.1
    · exact h
  · exact .inr

theorem quote_notMem_label (files : List ProtoFile) (hname : '"' ∉ f.name) (v : Verb) :
    '"' ∉ label files f ++ v.text := by
  have hverb : '"' ∉ v.text := by cases v <;> decide
  have hlabel : '"' ∉ label files f := by
    unfold label
    split
    · exact List.not_mem_nil
    · rw [List.mem_append, List.mem_append, not_or, not_or]
      exact ⟨⟨by decide, hname⟩, by decide⟩
  rw [List.mem_append, not_or]
  exact ⟨hlabel, hverb⟩

/-- **The text of a plain binding.** It has the prefix exactly when its path begins with it. -/
theorem Binding.Plain.carries_iff {b : Binding} (hb : b.Plain) (hp : p.Verbatim)
    (hname : '"' ∉ f.name) : Carries G Q p files f b.text ↔ p.text <+: b.path := by
  obtain ⟨tail, htail⟩ := List.head?_eq_some_iff.mp p.starts
  have hdots : '.' ∉ ": \"".toList ++ p.text := fun hmem =>
    absurd (hp.ordinary _ hmem) (by decide)
  have hline : label files f ++ b.text =
      (label files f ++ b.verb.text) ++ ':' :: ' ' :: '"' :: (b.path ++ ['"']) := by
    rw [hb.text_eq]
    simp
  have hbefore : ∀ u, u ≠ [] → u <:+ label files f ++ b.verb.text →
      matchesHere (": \"".toList ++ p.text) (u ++ ':' :: ' ' :: '"' :: (b.path ++ ['"'])) =
        false := by
    intro u hne hu
    have hquote : '"' ∉ u := fun hmem => quote_notMem_label files hname b.verb (hu.subset hmem)
    rw [← Bool.not_eq_true, matchesHere_iff hdots]
    exact not_prefix_before hquote hne
  have hbehind : matchesLine (": \"".toList ++ p.text) (' ' :: '"' :: (b.path ++ ['"'])) =
      false := by
    apply matchesLine_eq_false
    intro u hu
    rw [← Bool.not_eq_true, matchesHere_iff hdots, htail]
    exact not_prefix_behind hb.notMem_path.1 hu
  rw [Carries, hp.quoted Q, G.plain _ _ fun c hc => .inl (hp.ordinary c hc), hline,
    matchesLine_append hbefore, matchesLine_cons, hbehind, Bool.or_false, matchesHere_iff hdots,
    ← hp.concat_iff b.path]
  simp [List.cons_prefix_cons]

theorem ApiPrefix.Verbatim.carries (hp : p.Verbatim) {x : List Char}
    (hx : ": \"".toList ++ p.text <:+: x) : Carries G Q p files f x := by
  rw [Carries, hp.quoted Q, G.plain _ _ fun c hc => .inl (hp.ordinary c hc)]
  exact matchesLine_of_infix (hx.trans (List.suffix_append _ _).isInfix)

theorem ProtoFile.mem_bindings {b : Binding} : b ∈ f.bindings ↔ .binding b ∈ f.chunks := by
  rw [ProtoFile.bindings, List.mem_filterMap]
  constructor
  · rintro ⟨c, hc, hb⟩
    cases c with
    | other t => cases hb
    | binding b' =>
      cases hb
      exact hc
  · exact fun hb => ⟨.binding b, hb, rfl⟩

/-- On quiet files the check passes exactly when the plain bindings begin with the prefix. -/
theorem checkApiPaths_of_quiet (hp : p.Verbatim) (hnames : ∀ f ∈ files, '"' ∉ f.name)
    (hquiet : ∀ f ∈ files, Quiet p f.chunks) :
    (make (checkApiPaths G Q p) files).2 = 0 ↔
      ∀ f ∈ files, ∀ b ∈ f.bindings, b.Plain → p.text <+: b.path := by
  rw [checkApiPaths_zero_iff]
  constructor
  · intro h f hf b hb hplain
    have hmem : b.text ∈ apiPattern.grepOnly f.text := by
      rw [Matcher.grepOnly_eq_scan]
      exact (hquiet f hf).mem_scan (ProtoFile.mem_bindings.mp hb) hplain
    exact (hplain.carries_iff hp (hnames f hf)).mp (h f hf _ hmem)
  · intro h f hf x hx
    rw [Matcher.grepOnly_eq_scan] at hx
    rcases (hquiet f hf).scan_cases hx with ⟨b, hb, hplain, rfl⟩ | hcarry
    · have hpath := h f hf b (ProtoFile.mem_bindings.mpr hb) hplain
      exact (hplain.carries_iff hp (hnames f hf)).mpr hpath
    · exact hp.carries hcarry

theorem WellPrefixed.begins {path : List Char} (h : WellPrefixed p path) : p.text <+: path := by
  rcases h with rfl | hslash
  · exact List.prefix_refl _
  · exact (List.prefix_append _ _).trans hslash

/-- A plain binding whose path does not begin with the prefix: the check sees that it is outside. -/
def Binding.SeenOutside (b : Binding) (p : ApiPrefix) : Prop := b.Plain ∧ ¬p.text <+: b.path

/-- A binding outside the prefix that the check lets pass: it is not plain, or its path goes on
behind the prefix without a slash. -/
def Binding.HiddenOutside (b : Binding) (p : ApiPrefix) : Prop :=
  ¬WellPrefixed p b.path ∧ (b.Plain → p.text <+: b.path)

theorem allPrefixed_of_begins {files : List ProtoFile}
    (hhidden : ∀ f ∈ files, ∀ b ∈ f.bindings, ¬b.HiddenOutside p)
    (hbegin : ∀ f ∈ files, ∀ b ∈ f.bindings, b.Plain → p.text <+: b.path) :
    AllPrefixed p files := by
  intro f hf b hb
  by_contra hnot
  exact hhidden f hf b hb ⟨hnot, hbegin f hf b hb⟩

namespace Sample

/-- The characters of a path that is written without escapes. -/
def plainChar (c : Char) : Bool := c ≠ '"' && c ≠ '\\' && c ≠ '\n' && c ≠ '\x00'

/-- An option in the style of the repository. -/
def route (verb : Verb) (path : List Char) (hpath : path.all plainChar = true) : Binding where
  verb := verb
  before := { items := [], legal := by simp }
  sep := ':'
  after := { items := [.white ' '], legal := by simp [GapItem.Legal] }
  first :=
    { quote := '"', pieces := path.map .char, quote_legal := .inl rfl
      legal := by
        intro x hx
        obtain ⟨c, hc, rfl⟩ := List.mem_map.mp hx
        simpa [Piece.Legal, plainChar, and_assoc] using List.all_eq_true.mp hpath c hc }
  more := []
  sep_legal := .inl rfl

theorem route_path (verb : Verb) (path : List Char) (hpath : path.all plainChar = true) :
    (route verb path hpath).path = path := by
  have hvalue : Piece.value ∘ Piece.char = id := rfl
  show (path.map Piece.char).map Piece.value ++ [] = path
  rw [List.map_map, hvalue, List.map_id, List.append_nil]

theorem route_plain (verb : Verb) {path : List Char} (hpath : path.all plainChar = true)
    (hslash : path.head? = some '/') : (route verb path hpath).Plain where
  before := rfl
  sep := rfl
  after := rfl
  more := rfl
  quote := rfl
  chars x hx := by
    obtain ⟨c, -, rfl⟩ := List.mem_map.mp hx
    exact ⟨c, rfl⟩
  slash := by rwa [route_path]

/-- A route outside `/greeter/api`. -/
def secondVersion : Binding := route .get "/greeter/apiv2".toList (by decide +kernel)

/-- A route that does not begin with `/greeter/api`. -/
def echo : Binding := route .post "/echo".toList (by decide +kernel)

def opening : List Char := "  option (google.api.http) = \x7b\n      ".toList

def closing : List Char := "\n    \x7d;\n".toList

def greeter : ProtoFile where
  name := "greeter".toList
  chunks := [.other opening, .binding secondVersion, .other closing]

/-- Two services, both with a route outside the prefix. -/
def services : List ProtoFile :=
  [greeter,
    { name := "echo".toList, chunks := [.other opening, .binding echo, .other closing] }]

def apiPrefix : ApiPrefix where
  text := "/greeter/api".toList
  starts := rfl
  ends := by decide

def doubleQuotes : DoubleQuotes := { value := id, plain := fun _ _ => rfl }

/-- A text is harmless where no match starts in it. -/
theorem harmless_of_none {t rest : List Char}
    (h : t.tails.all (fun u => u = [] || apiPattern.inLine.matchAt (u ++ rest) = none) = true) :
    Harmless apiPrefix t rest := by
  intro u m hne hu hm
  have hnone := List.all_eq_true.mp h u ((List.mem_tails _ _).mpr hu)
  simp [hne, hm] at hnone

theorem services_quiet : ∀ f ∈ services, Quiet apiPrefix f.chunks := by
  have hsecond : secondVersion.Plain := route_plain .get _ rfl
  have hecho : echo.Plain := route_plain .post _ rfl
  intro f hf
  simp only [services, List.mem_cons, List.not_mem_nil, or_false] at hf
  rcases hf with rfl | rfl
  · exact ⟨harmless_of_none (by decide +kernel), .inl hsecond,
      harmless_of_none (by decide +kernel), trivial⟩
  · exact ⟨harmless_of_none (by decide +kernel), .inl hecho,
      harmless_of_none (by decide +kernel), trivial⟩

end Sample

end SampleGrpc.Build
