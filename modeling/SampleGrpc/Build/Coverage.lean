import SampleGrpc.Shell.Make
import SampleGrpc.Text.Awk
import Mathlib.Algebra.BigOperators.Group.List.Basic
import Mathlib.Data.List.Infix
import Mathlib.Data.List.MinMax
import Mathlib.Tactic.Positivity

/-!
# The coverage gate

`make coverage-check`: the test run whose output goes through `tee`, the filter that keeps the `ok`
lines with a coverage, the total of `go tool cover -func`, and the loop over the kept lines. A
package without an `ok` line is not looked at again, and the status of the test run is lost.

* `coverageCheck` — the recipe, over the lines that the Go tools print.
* `coverageCheck_zero_iff` — what the gate decides.
* `coverageGate_iff` — when that is what it promises.
-/

namespace SampleGrpc.Build

open RecipeLine

/-! ## Packages -/

/-- The characters of import paths. -/
def pathChar (c : Char) : Bool :=
  c.isAlphanum || c = '-' || c = '.' || c = '_' || c = '~' || c = '+' || c = '/'

structure ImportPath where
  text : List Char
  chars : text.all pathChar = true
  ne_nil : text ≠ []

inductive Outcome where
  | passed
  | failed
  | noTestFiles
  deriving DecidableEq, Repr

/-- A package with the outcome of its tests and its statements, as the profile counts them.
`functions` are the lines of `go tool cover -func` about it, behind the directory. -/
structure Package where
  path : ImportPath
  outcome : Outcome
  covered : ℕ
  statements : ℕ
  elapsed : Decimal
  functions : List (List Char)
  covered_le : covered ≤ statements
  untested : outcome = .noTestFiles → covered = 0

/-- `grep -v '/pb$'` takes the package out. -/
def Package.dropped (p : Package) : Bool := "/pb".toList.isSuffixOf p.path.text

/-- A Go module. Its root package is among those that are tested. -/
structure Module where
  path : ImportPath
  packages : List Package
  tested : packages.any (fun p => !p.dropped) = true

/-- The package of the generated stubs. -/
def Module.generated (m : Module) (p : Package) : Bool := p.path.text = m.path.text ++ "/pb".toList

/-- A percentage with one digit behind the point. -/
structure Percent where
  whole : List (Fin 10)
  tenths : Fin 10
  ne_nil : whole ≠ []

def Percent.decimal (x : Percent) : Decimal := ⟨false, x.whole, [x.tenths]⟩

/-- The Go tools: the percentage that they report for so many statements covered of so many. -/
structure Toolchain where
  percent : ℕ → ℕ → Percent

/-- The floors and the pattern in `project.yaml`. -/
structure Config where
  globalMin : Decimal
  packageMin : Decimal
  exempt : List Char

/-! ## What the Go tools print -/

def percentSign : List Char := "% of statements".toList

/-- The line of `go test` about a package. -/
def Toolchain.testLine (T : Toolchain) (p : Package) : List Char :=
  match p.outcome with
  | .passed => "ok  \t".toList ++ p.path.text ++ '\t' :: (p.elapsed.text ++ "s\t".toList ++
      ("coverage: ".toList ++ (T.percent p.covered p.statements).decimal.text ++ percentSign))
  | .failed => "FAIL\t".toList ++ p.path.text ++ '\t' :: (p.elapsed.text ++ ['s'])
  | .noTestFiles => '\t' :: p.path.text ++ "\t\tcoverage: 0.0% of statements".toList

/-- `go test $PKGS`: its output and its status. -/
def Toolchain.goTest (T : Toolchain) (pkgs : List Package) : List (List Char) × ℕ :=
  let failed := pkgs.any (·.outcome = .failed)
  (pkgs.map T.testLine ++ if failed then ["FAIL".toList] else [], if failed then 1 else 0)

def statementsOf (pkgs : List Package) : ℕ := (pkgs.map Package.statements).sum

def coveredOf (pkgs : List Package) : ℕ := (pkgs.map Package.covered).sum

/-- The total that `go tool cover -func` reports. -/
def Toolchain.total (T : Toolchain) (pkgs : List Package) : Percent :=
  T.percent (coveredOf pkgs) (statementsOf pkgs)

/-- `go tool cover -func`. -/
def Toolchain.coverFunc (T : Toolchain) (pkgs : List Package) : List (List Char) :=
  (pkgs.flatMap fun p => p.functions.map fun f => p.path.text ++ '/' :: f) ++
    ["total:\t(statements)\t".toList ++ (T.total pkgs).decimal.text ++ ['%']]

/-! ## The recipe -/

/-- The files under `coverage/`; the profile by the packages that it is about. -/
structure Files where
  raw : List (List Char)
  profile : List Package
  perPkg : List (List Char)
  summary : List (List Char)

def digitOrDot (c : Char) : Bool := c.isDigit || c = '.'

/-- `coverage: ([0-9.]+)%` and a further text, at the start of a text: the digits. -/
def coverageAt (after s : List Char) : Option (List Char) :=
  match s.dropPrefix? "coverage: ".toList with
  | some rest =>
    let pct := rest.takeWhile digitOrDot
    if pct ≠ [] && after.isPrefixOf (rest.dropWhile digitOrDot) then some pct else none
  | none => none

/-- `grep -E '^ok\s.+coverage: [0-9.]+%'` -/
def okWithCoverage (line : List Char) : Bool :=
  match line with
  | 'o' :: 'k' :: c :: _ :: rest => c.isWhitespace && rest.tails.any fun s =>
      (coverageAt ['%'] s).isSome
  | _ => false

/-- The last match in a line. -/
def lastCoverage : List Char → Option (List Char)
  | [] => none
  | c :: cs => (lastCoverage cs).or (coverageAt percentSign (c :: cs))

/-- `sed -E 's/.*coverage: ([0-9.]+)% of statements.*/\1/'` -/
def sedCoverage (line : List Char) : List Char := (lastCoverage line).getD line

/-- `awk '/^total:/ {gsub("%",""); print $3}'` -/
def awkTotal (summary : List (List Char)) : List Char :=
  List.intercalate ['\n'] ((summary.filter "total:".toList.isPrefixOf).map fun line =>
    field 3 (line.filter (· ≠ '%')))

/-- `go list ./... | grep -v '/pb$'` -/
def Module.run (m : Module) : List Package := m.packages.filter (!·.dropped)

/-- `coverage-go` -/
def coverageGo (T : Toolchain) (m : Module) : List (RecipeLine Files) :=
  [step id,
    pipe (fun _ => T.goTest m.run) fun out => step fun s => { s with raw := out, profile := m.run },
    step fun s => { s with perPkg := s.raw.filter okWithCoverage },
    step fun s => { s with raw := [] },
    step id,
    step fun s => { s with summary := T.coverFunc s.profile }]

/-- The pattern is set and `grep -qE` finds it in the path. -/
def exempted (ere : List Char → List Char → Bool) (exempt pkg : List Char) : Bool :=
  exempt ≠ [] && ere exempt pkg

/-- One turn of the loop over the lines with a coverage. -/
def checkLine (ere : List Char → List Char → Bool) (cfg : Config) (fail : Bool)
    (line : List Char) : Bool :=
  let pkg := field 2 line
  let pct := sedCoverage line
  if exempted ere cfg.exempt pkg then fail
  else if number pct < number cfg.packageMin.text then true else fail

/-- `coverage-check`, with its prerequisite -/
def coverageCheck (T : Toolchain) (ere : List Char → List Char → Bool) (cfg : Config) (m : Module) :
    List (RecipeLine Files) :=
  coverageGo T m ++
    [test fun s => !(number (awkTotal s.summary) < number cfg.globalMin.text),
      test fun s => !(s.perPkg.foldl (checkLine ere cfg) false)]

/-! ## The kept lines -/

theorem ImportPath.notMem (x : ImportPath) {c : Char} (hc : pathChar c = false) : c ∉ x.text := by
  intro hmem
  have hpath : pathChar c = true := List.all_eq_true.mp x.chars c hmem
  rw [hc] at hpath
  cases hpath

theorem Percent.text_eq (x : Percent) :
    x.decimal.text = digitText x.whole ++ '.' :: [Nat.digitChar x.tenths.val] := rfl

theorem Percent.forall_text (x : Percent) : ∀ c ∈ x.decimal.text, digitOrDot c = true := by
  have hdigit : ∀ d : Fin 10, digitOrDot (Nat.digitChar d.val) = true := by decide
  intro c hc
  rw [x.text_eq, List.mem_append, List.mem_cons, List.mem_singleton] at hc
  rcases hc with hc | rfl | rfl
  · obtain ⟨d, -, rfl⟩ := List.mem_map.mp hc
    exact hdigit d
  · decide
  · exact hdigit x.tenths

theorem Percent.text_ne_nil (x : Percent) : x.decimal.text ≠ [] := by
  rw [x.text_eq]
  simp

theorem Percent.notMem_text (x : Percent) {c : Char} (hc : digitOrDot c = false) :
    c ∉ x.decimal.text := by
  intro hmem
  have hdigit := x.forall_text c hmem
  rw [hc] at hdigit
  cases hdigit

/-- A percentage behind `coverage: ` is found. -/
theorem coverageAt_percent (x : Percent) (after rest : List Char) :
    coverageAt ('%' :: after) ("coverage: ".toList ++ (x.decimal.text ++ '%' :: (after ++ rest))) =
      some x.decimal.text := by
  have hdrop : ("coverage: ".toList ++ (x.decimal.text ++ '%' :: (after ++ rest))).dropPrefix?
      "coverage: ".toList = some (x.decimal.text ++ '%' :: (after ++ rest)) :=
    List.dropPrefix?_eq_some_iff.mpr ⟨_, rfl, beq_self_eq_true _⟩
  have htake : (x.decimal.text ++ '%' :: (after ++ rest)).takeWhile digitOrDot =
      x.decimal.text := by
    rw [List.takeWhile_append_of_pos x.forall_text, List.takeWhile_cons_of_neg (by decide),
      List.append_nil]
  have hrest : (x.decimal.text ++ '%' :: (after ++ rest)).dropWhile digitOrDot =
      '%' :: (after ++ rest) := by
    rw [List.dropWhile_append_of_pos x.forall_text, List.dropWhile_cons_of_neg (by decide)]
  have hprefix : ('%' :: after).isPrefixOf ('%' :: (after ++ rest)) = true :=
    List.isPrefixOf_iff_prefix.mpr ⟨rest, rfl⟩
  rw [coverageAt, hdrop]
  simp only [htake, hrest, hprefix, Bool.and_true]
  rw [if_pos (by simpa using x.text_ne_nil)]

theorem coverageAt_of_ne {after s : List Char} (hs : ∀ c ∈ s.head?, c ≠ 'c') :
    coverageAt after s = none := by
  have hdrop : s.dropPrefix? "coverage: ".toList = none := by
    by_contra hsome
    obtain ⟨rest, hrest⟩ := Option.ne_none_iff_exists'.mp hsome
    obtain ⟨p, rfl, hp⟩ := List.dropPrefix?_eq_some_iff.mp hrest
    rw [eq_of_beq hp] at hs
    exact hs 'c' rfl rfl
  rw [coverageAt, hdrop]

theorem lastCoverage_of_notMem {s : List Char} (hs : 'c' ∉ s) : lastCoverage s = none := by
  induction s with
  | nil => rfl
  | cons c cs ih =>
    have hc : c ≠ 'c' := fun h => hs (h ▸ List.mem_cons_self)
    rw [lastCoverage, ih fun h => hs (List.mem_cons_of_mem c h), Option.none_or]
    exact coverageAt_of_ne (by simpa using hc)

theorem lastCoverage_append {s d : List Char} (pre : List Char) (h : lastCoverage s = some d) :
    lastCoverage (pre ++ s) = some d := by
  induction pre with
  | nil => exact h
  | cons c pre ih => rw [List.cons_append, lastCoverage, ih, Option.some_or]

/-- The percentage at the end of an `ok` line is what `sed` extracts. -/
theorem sedCoverage_percent (pre : List Char) (x : Percent) :
    sedCoverage (pre ++ ("coverage: ".toList ++ x.decimal.text ++ percentSign)) =
      x.decimal.text := by
  have hsplit : "coverage: ".toList ++ x.decimal.text ++ percentSign =
      'c' :: ("overage: ".toList ++ x.decimal.text ++ percentSign) := rfl
  have hnone : lastCoverage ("overage: ".toList ++ x.decimal.text ++ percentSign) = none := by
    apply lastCoverage_of_notMem
    rw [List.mem_append, List.mem_append, not_or, not_or]
    exact ⟨⟨by decide, x.notMem_text (by decide)⟩, by decide⟩
  have hlast : lastCoverage ("coverage: ".toList ++ x.decimal.text ++ percentSign) =
      some x.decimal.text := by
    have hat := coverageAt_percent x " of statements".toList []
    rw [List.append_nil] at hat
    rw [hsplit, lastCoverage, hnone, Option.none_or, ← hsplit, List.append_assoc]
    exact hat
  rw [sedCoverage, lastCoverage_append pre hlast, Option.getD_some]

variable {T : Toolchain} {p : Package}

theorem testLine_passed (h : p.outcome = .passed) :
    T.testLine p = "ok  \t".toList ++ p.path.text ++ '\t' :: (p.elapsed.text ++ "s\t".toList ++
      ("coverage: ".toList ++ (T.percent p.covered p.statements).decimal.text ++ percentSign)) := by
  rw [Toolchain.testLine, h]

/-- The filter keeps the lines of the packages whose tests passed. -/
theorem okWithCoverage_testLine :
    okWithCoverage (T.testLine p) = decide (p.outcome = .passed) := by
  cases houtcome : p.outcome with
  | passed =>
    rw [testLine_passed houtcome]
    have htail : ("coverage: ".toList ++ (T.percent p.covered p.statements).decimal.text ++
        percentSign) ∈ List.tails ('\t' :: p.path.text ++ '\t' :: (p.elapsed.text ++ "s\t".toList ++
          ("coverage: ".toList ++ (T.percent p.covered p.statements).decimal.text ++
            percentSign))) := by
      rw [List.mem_tails]
      exact ((List.suffix_append _ _).trans (List.suffix_cons _ _)).trans (List.suffix_append _ _)
    have hfound := coverageAt_percent (T.percent p.covered p.statements) [] " of statements".toList
    have hsome : (coverageAt ['%'] ("coverage: ".toList ++
        (T.percent p.covered p.statements).decimal.text ++ percentSign)).isSome = true := by
      rw [List.append_assoc]
      exact hfound ▸ rfl
    exact List.any_eq_true.mpr ⟨_, htail, hsome⟩
  | failed => simp [Toolchain.testLine, houtcome, okWithCoverage]
  | noTestFiles => simp [Toolchain.testLine, houtcome, okWithCoverage]

theorem field_two_testLine (h : p.outcome = .passed) : field 2 (T.testLine p) = p.path.text := by
  have hpath : ∀ c ∈ p.path.text, blank c = false :=
    blank_eq_false (p.path.notMem (by decide)) (p.path.notMem (by decide))
  have hfields : ∀ rest, fields ("ok  \t".toList ++ p.path.text ++ '\t' :: rest) =
      ['o', 'k'] :: p.path.text :: fields rest := by
    intro rest
    have hok : "ok  \t".toList ++ p.path.text ++ '\t' :: rest =
        ['o', 'k'] ++ ' ' :: ' ' :: '\t' :: (p.path.text ++ '\t' :: rest) := by
      rw [List.append_assoc]
      rfl
    rw [hok, fields_word (by simp [blank]) (by simp) rfl, fields_blank rfl, fields_blank rfl,
      fields_word hpath p.path.ne_nil rfl]
  rw [field, testLine_passed h, hfields]
  rfl

theorem sedCoverage_testLine (h : p.outcome = .passed) :
    sedCoverage (T.testLine p) = (T.percent p.covered p.statements).decimal.text := by
  rw [testLine_passed h, ← List.cons_append, ← List.append_assoc, sedCoverage_percent]

/-! ## The total -/

/-- The line of a function is not the line of the total. -/
theorem isPrefixOf_function (x : ImportPath) (f : List Char) :
    "total:".toList.isPrefixOf (x.text ++ '/' :: f) = false := by
  by_contra hprefix
  rw [Bool.not_eq_false, List.isPrefixOf_iff_prefix] at hprefix
  obtain ⟨rest, hrest⟩ := hprefix
  rcases List.append_eq_append_iff.mp hrest with ⟨tail, hpath, -⟩ | ⟨tail, htotal, htail⟩
  · have hmem : ':' ∈ x.text := by
      rw [hpath]
      exact List.mem_append_left _ (by decide)
    exact x.notMem (by decide) hmem
  · cases tail with
    | nil =>
      have hmem : ':' ∈ x.text := by
        rw [← List.append_nil x.text, ← htotal]
        decide
      exact x.notMem (by decide) hmem
    | cons c tail =>
      rw [List.cons_append, List.cons.injEq] at htail
      have hslash : '/' ∈ "total:".toList := by
        rw [htotal, htail.1]
        exact List.mem_append_right _ List.mem_cons_self
      exact absurd hslash (by decide)

theorem field_three_total (x : Percent) :
    field 3 (("total:\t(statements)\t".toList ++ x.decimal.text ++ ['%']).filter (· ≠ '%')) =
      x.decimal.text := by
  have hfilter : ("total:\t(statements)\t".toList ++ x.decimal.text ++ ['%']).filter (· ≠ '%') =
      "total:\t(statements)\t".toList ++ x.decimal.text := by
    have hkeep : x.decimal.text.filter (· ≠ '%') = x.decimal.text := by
      apply List.filter_eq_self.mpr
      intro c hc
      exact decide_eq_true fun h => x.notMem_text (by decide) (h ▸ hc)
    rw [List.filter_append, List.filter_append, hkeep]
    exact List.append_nil _
  have hwords : "total:\t(statements)\t".toList ++ x.decimal.text =
      "total:".toList ++ '\t' :: ("(statements)".toList ++ '\t' :: x.decimal.text) := rfl
  have hblank : ∀ c ∈ x.decimal.text, blank c = false :=
    blank_eq_false (x.notMem_text (by decide)) (x.notMem_text (by decide))
  rw [field, hfilter, hwords, fields_word (by simp [blank]) (by simp) rfl,
    fields_word (by simp [blank]) (by simp) rfl, fields_single hblank x.text_ne_nil]
  rfl

/-- `awk` finds the total in the summary. -/
theorem awkTotal_coverFunc (pkgs : List Package) :
    awkTotal (T.coverFunc pkgs) = (T.total pkgs).decimal.text := by
  have hfunctions : (pkgs.flatMap fun p => p.functions.map fun f => p.path.text ++ '/' :: f).filter
      "total:".toList.isPrefixOf = [] := by
    apply List.filter_eq_nil_iff.mpr
    intro line hline
    obtain ⟨p, -, hp⟩ := List.mem_flatMap.mp hline
    obtain ⟨f, -, rfl⟩ := List.mem_map.mp hp
    rw [isPrefixOf_function]
    exact Bool.false_ne_true
  have htotal : ["total:\t(statements)\t".toList ++ (T.total pkgs).decimal.text ++ ['%']].filter
      "total:".toList.isPrefixOf =
        ["total:\t(statements)\t".toList ++ (T.total pkgs).decimal.text ++ ['%']] := rfl
  rw [awkTotal, Toolchain.coverFunc, List.filter_append, hfunctions, htotal, List.nil_append,
    List.map_singleton, field_three_total]
  exact List.intercalate_singleton

/-! ## The verdict -/

variable {ere : List Char → List Char → Bool} {cfg : Config} {m : Module}

def Exempt (ere : List Char → List Char → Bool) (exempt : List Char) (p : Package) : Prop :=
  exempted ere exempt p.path.text = true

instance (exempt : List Char) (p : Package) : Decidable (Exempt ere exempt p) :=
  inferInstanceAs (Decidable (exempted ere exempt p.path.text = true))

/-- The package is run, and its tests pass: it has a line among those that the loop reads. -/
def Package.Measured (p : Package) : Prop := p.dropped = false ∧ p.outcome = .passed

/-- The coverage of a package; without test files it is 0. -/
def Toolchain.coverage (T : Toolchain) (p : Package) : ℚ :=
  if p.outcome = .noTestFiles then 0 else (T.percent p.covered p.statements).decimal.value

theorem coverage_of_passed (h : p.outcome = .passed) :
    T.coverage p = (T.percent p.covered p.statements).decimal.value := by
  rw [Toolchain.coverage, if_neg]
  rw [h]
  decide

/-- A line that makes the loop fail. -/
def lineFails (ere : List Char → List Char → Bool) (cfg : Config) (line : List Char) : Bool :=
  !exempted ere cfg.exempt (field 2 line) &&
    decide (number (sedCoverage line) < number cfg.packageMin.text)

theorem foldl_checkLine (lines : List (List Char)) (fail : Bool) :
    lines.foldl (checkLine ere cfg) fail = (fail || lines.any (lineFails ere cfg)) := by
  induction lines generalizing fail with
  | nil => simp
  | cons line lines ih =>
    have hturn : checkLine ere cfg fail line = (fail || lineFails ere cfg line) := by
      cases hexempt : exempted ere cfg.exempt (field 2 line) with
      | true => simp [checkLine, lineFails, hexempt]
      | false =>
        by_cases hbelow : number (sedCoverage line) < number cfg.packageMin.text
        · simp [checkLine, lineFails, hexempt, hbelow]
        · simp [checkLine, lineFails, hexempt, hbelow]
    rw [List.foldl_cons, ih, hturn, List.any_cons, Bool.or_assoc]

theorem lineFails_testLine (h : p.outcome = .passed) :
    lineFails ere cfg (T.testLine p) = false ↔
      (¬Exempt ere cfg.exempt p → cfg.packageMin.value ≤ T.coverage p) := by
  rw [lineFails, field_two_testLine h, sedCoverage_testLine h, number_text, number_text,
    ← coverage_of_passed h, Exempt]
  cases exempted ere cfg.exempt p.path.text with
  | true => simp
  | false => simp

/-- The filter keeps one line for each package whose tests passed. -/
theorem filter_goTest (pkgs : List Package) :
    (T.goTest pkgs).1.filter okWithCoverage =
      (pkgs.filter (·.outcome = .passed)).map T.testLine := by
  have hlast : (if pkgs.any (·.outcome = .failed) then ["FAIL".toList] else []).filter
      okWithCoverage = [] := by
    split
    · rfl
    · rfl
  have hlines : okWithCoverage ∘ T.testLine = fun p => decide (p.outcome = .passed) := by
    funext p
    exact okWithCoverage_testLine
  rw [Toolchain.goTest, List.filter_append, hlast, List.append_nil, List.filter_map, hlines]

/-- **What the gate decides.** The total is taken over all packages that are run, and only the
packages whose tests passed are held against the floor. -/
theorem coverageCheck_zero_iff {s : Files} :
    (make (coverageCheck T ere cfg m) s).2 = 0 ↔
      cfg.globalMin.value ≤ (T.total m.run).decimal.value ∧
        ∀ p ∈ m.packages, p.Measured → ¬Exempt ere cfg.exempt p →
          cfg.packageMin.value ≤ T.coverage p := by
  rw [coverageCheck, coverageGo]
  simp only [List.cons_append, List.nil_append, make_step_cons, make_pipe_step_cons, make_test_cons,
    make_nil, and_true, awkTotal_coverFunc, number_text, foldl_checkLine, filter_goTest,
    Bool.false_or, Bool.not_eq_true', decide_eq_false_iff_not, not_lt, id]
  refine and_congr Iff.rfl ?_
  rw [List.any_eq_false]
  constructor
  · intro hlines p hp hmeasured
    have hmem : p ∈ m.run.filter (·.outcome = .passed) := by
      rw [Module.run, List.mem_filter, List.mem_filter]
      exact ⟨⟨hp, by simp [hmeasured.1]⟩, decide_eq_true hmeasured.2⟩
    have hline := hlines _ (List.mem_map_of_mem hmem)
    exact (lineFails_testLine hmeasured.2).mp (Bool.not_eq_true _ ▸ hline)
  · intro hpackages line hline
    obtain ⟨p, hp, rfl⟩ := List.mem_map.mp hline
    rw [Module.run, List.mem_filter, List.mem_filter] at hp
    have hpassed : p.outcome = .passed := of_decide_eq_true hp.2
    have hmeasured : p.Measured := ⟨by simpa using hp.1.2, hpassed⟩
    rw [Bool.not_eq_true]
    exact (lineFails_testLine hpassed).mpr (hpackages p hp.1.1 hmeasured)

theorem Percent.value_nonneg (x : Percent) : 0 ≤ x.decimal.value := by
  show (0 : ℚ) ≤ digitsValue (x.whole ++ [x.tenths]) / 10 ^ 1
  positivity

theorem Toolchain.coverage_nonneg (T : Toolchain) (p : Package) : 0 ≤ T.coverage p := by
  rw [Toolchain.coverage]
  split
  · exact le_rfl
  · exact (T.percent p.covered p.statements).value_nonneg

/-- The floor that the repository sets, for the total and for each package. -/
def zeroFloor : Decimal := ⟨false, [digit 0], [digit 0]⟩

theorem zeroFloor_value : zeroFloor.value = 0 := by
  simp [zeroFloor, Decimal.value, Decimal.magnitude, digitsValue, digit]

theorem zeroFloor_le_coverage (T : Toolchain) (p : Package) : zeroFloor.value ≤ T.coverage p :=
  zeroFloor_value.trans_le (T.coverage_nonneg p)

theorem zeroFloor_le_total (T : Toolchain) (pkgs : List Package) :
    zeroFloor.value ≤ (T.total pkgs).decimal.value :=
  zeroFloor_value.trans_le (T.total pkgs).value_nonneg

/-! ## The promise -/

/-- The packages that the total should be over: those that are not exempt, with or without the
generated one. -/
def counted (ere : List Char → List Char → Bool) (exempt : List Char) (withPb : Bool)
    (m : Module) : List Package :=
  m.packages.filter fun p => !exempted ere exempt p.path.text && (withPb || !m.generated p)

/-- What `coverage-check` promises of a module when it succeeds. -/
structure Meets (T : Toolchain) (ere : List Char → List Char → Bool) (cfg : Config) (withPb : Bool)
    (m : Module) : Prop where
  passed : ∀ p ∈ m.packages, p.outcome ≠ .failed
  total : cfg.globalMin.value ≤ (T.total (counted ere cfg.exempt withPb m)).decimal.value
  each : ∀ p ∈ m.packages, ¬Exempt ere cfg.exempt p → m.generated p = false →
    cfg.packageMin.value ≤ T.coverage p

/-- The gate is right at the floors: no test fails, the floor of the total does not come between the
total over all packages that are run and the total over those that count, and every package without
a line in the report, but for the generated one, keeps its floor or is covered as well as one that
has a line. -/
structure GatedAt (T : Toolchain) (ere : List Char → List Char → Bool) (cfg : Config)
    (withPb : Bool) (m : Module) : Prop where
  passed : ∀ p ∈ m.packages, p.outcome ≠ .failed
  total : cfg.globalMin.value ≤ (T.total m.run).decimal.value ↔
    cfg.globalMin.value ≤ (T.total (counted ere cfg.exempt withPb m)).decimal.value
  lowest : ∀ p ∈ m.packages, ¬p.Measured → ¬Exempt ere cfg.exempt p → m.generated p = false →
    cfg.packageMin.value ≤ T.coverage p ∨
      ∃ q ∈ m.packages, q.Measured ∧ ¬Exempt ere cfg.exempt q ∧ T.coverage q ≤ T.coverage p

/-- The gate is right at every pair of floors: the two totals are the same, and every package
without a line is covered as well as one that has a line. -/
structure Gated (T : Toolchain) (ere : List Char → List Char → Bool) (exempt : List Char)
    (withPb : Bool) (m : Module) : Prop where
  passed : ∀ p ∈ m.packages, p.outcome ≠ .failed
  total : (T.total m.run).decimal.value = (T.total (counted ere exempt withPb m)).decimal.value
  lowest : ∀ p ∈ m.packages, ¬p.Measured → ¬Exempt ere exempt p → m.generated p = false →
    ∃ q ∈ m.packages, q.Measured ∧ ¬Exempt ere exempt q ∧ T.coverage q ≤ T.coverage p

theorem dropped_of_generated {p : Package} (h : m.generated p = true) : p.dropped = true := by
  rw [Package.dropped, of_decide_eq_true h, List.isSuffixOf_iff_suffix]
  exact List.suffix_append _ _

theorem Package.Measured.not_generated {p : Package} (h : p.Measured) : m.generated p = false := by
  by_contra hgenerated
  have hdropped := dropped_of_generated (Bool.not_eq_false _ ▸ hgenerated)
  rw [h.1] at hdropped
  cases hdropped

variable {exempt : List Char} {withPb : Bool}

/-- Below the coverages of all measured packages there is room for a floor that they keep. -/
theorem exists_floor_between (T : Toolchain) (m : Module) {x : ℚ}
    (hbelow : ∀ q ∈ m.packages, q.Measured → ¬Exempt ere exempt q → x < T.coverage q) :
    ∃ d : Decimal, x < d.value ∧
      ∀ q ∈ m.packages, q.Measured → ¬Exempt ere exempt q → d.value ≤ T.coverage q := by
  classical
  let measured := m.packages.filter fun q => q.Measured ∧ ¬Exempt ere exempt q
  have hmem : ∀ q, q ∈ measured ↔ q ∈ m.packages ∧ q.Measured ∧ ¬Exempt ere exempt q := by
    intro q
    rw [List.mem_filter, decide_eq_true_iff]
  cases hleast : measured.argmin T.coverage with
  | none =>
    obtain ⟨d, hd⟩ := exists_lt_value x
    refine ⟨d, hd, fun q hq hmeasured hexempt => ?_⟩
    have hq' : q ∈ measured := (hmem q).mpr ⟨hq, hmeasured, hexempt⟩
    rw [List.argmin_eq_none.mp hleast] at hq'
    cases hq'
  | some least =>
    obtain ⟨hin, hmeasured, hexempt⟩ := (hmem least).mp (List.argmin_mem hleast)
    have hvalue := coverage_of_passed (T := T) hmeasured.2
    refine ⟨(T.percent least.covered least.statements).decimal, ?_, fun q hq hq' hqe => ?_⟩
    · rw [← hvalue]
      exact hbelow least hin hmeasured hexempt
    · rw [← hvalue]
      exact List.le_of_mem_argmin ((hmem q).mpr ⟨hq, hq', hqe⟩) hleast

theorem Gated.at_floors {exempt : List Char} (h : Gated T ere exempt withPb m)
    (globalMin packageMin : Decimal) : GatedAt T ere ⟨globalMin, packageMin, exempt⟩ withPb m where
  passed := h.passed
  total := by
    show _ ↔ globalMin.value ≤ (T.total (counted ere exempt withPb m)).decimal.value
    rw [← h.total]
  lowest p hp hunmeasured hexempt hgenerated := .inr (h.lowest p hp hunmeasured hexempt hgenerated)

theorem coverageGate_of_gatedAt {s : Files} (h : GatedAt T ere cfg withPb m) :
    (make (coverageCheck T ere cfg m) s).2 = 0 ↔ Meets T ere cfg withPb m := by
  rw [coverageCheck_zero_iff]
  constructor
  · intro ⟨hglobal, hmeasured⟩
    refine ⟨h.passed, h.total.mp hglobal, fun p hp hexempt hgenerated => ?_⟩
    by_cases hp' : p.Measured
    · exact hmeasured p hp hp' hexempt
    · obtain hkept | ⟨q, hq, hq', hqexempt, hle⟩ := h.lowest p hp hp' hexempt hgenerated
      · exact hkept
      · exact (hmeasured q hq hq' hqexempt).trans hle
  · intro hmeets
    exact ⟨h.total.mpr hmeets.total,
      fun p hp hp' hexempt => hmeets.each p hp hexempt hp'.not_generated⟩

namespace Sample

/-- Percentages rounded to the nearest tenth. -/
def toolchain : Toolchain where
  percent covered statements :=
    let t := (2000 * covered + statements) / (2 * statements)
    { whole := if t < 100 then [digit (t / 10)]
        else if t < 1000 then [digit (t / 100), digit (t / 10)]
        else [digit (t / 1000), digit (t / 100), digit (t / 10)]
      tenths := digit t
      ne_nil := by split <;> [skip; split] <;> exact List.cons_ne_nil _ _ }

/-- The root package, whose tests fail. -/
def root : Package where
  path := { text := "SampleGrpcProject".toList, chars := by decide, ne_nil := by decide }
  outcome := .failed
  covered := 0
  statements := 12
  elapsed := ⟨false, [digit 0], [digit 0, digit 0, digit 5]⟩
  functions := ["main.go:20:\tmain\t0.0%".toList]
  covered_le := by decide
  untested := by decide

def goModule : Module where
  path := root.path
  packages := [root]
  tested := by decide

/-- Half of the root package is covered. -/
def covered : Package where
  path := root.path
  outcome := .passed
  covered := 6
  statements := 12
  elapsed := root.elapsed
  functions := root.functions
  covered_le := by decide
  untested := by decide

def coveredModule : Module where
  path := root.path
  packages := [covered]
  tested := by decide

def forty : Decimal := ⟨false, [digit 4, digit 0], [digit 0]⟩

theorem covered_gatedAt :
    GatedAt toolchain (fun _ _ => false) ⟨forty, forty, []⟩ false coveredModule where
  passed p hp := by
    obtain rfl := List.mem_singleton.mp hp
    decide
  total := by
    have hcounted : counted (fun _ _ => false) [] false coveredModule = coveredModule.run := rfl
    rw [hcounted]
  lowest p hp hunmeasured := by
    obtain rfl := List.mem_singleton.mp hp
    exact absurd ⟨by decide, rfl⟩ hunmeasured

end Sample

end SampleGrpc.Build
