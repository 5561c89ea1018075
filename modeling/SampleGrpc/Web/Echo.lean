import Mathlib.Data.List.DropRight
import SampleGrpc.Interaction.Joint
import SampleGrpc.Server.Greeter
import SampleGrpc.Web.Api

/-!
# The echo form

The component `App` of the web client. `call` posts the trimmed text of the input and shows the
reply or an error when the call settles, at any time; while a call is under way the input and the
button are disabled. The server behind it interleaves the calls of any number of clients.

* `Page.step` — what the user or a settled call does to the page.
* `Handed` — which replies the page is handed.
* `echo_shown` — one call at a time, and the reply shown is what was posted last.
-/

namespace SampleGrpc.Web

open Greeter (EchoRequest EchoReply)

/-! ## `trim` -/

/-- The white space and line terminators of ECMAScript. -/
def jsSpace (c : Char) : Bool :=
  c ∈ ['\t', '\n', '\x0b', '\x0c', '\r', ' ', '\u00a0', '\u1680', '\u2028', '\u2029', '\u202f',
    '\u205f', '\u3000', '\ufeff'] || '\u2000' ≤ c && c ≤ '\u200a'

def trim (s : String) : String :=
  String.ofList ((s.toList.dropWhile jsSpace).rdropWhile jsSpace)

theorem trim_trim (s : String) : trim (trim s) = trim s := by
  have hhead : ((s.toList.dropWhile jsSpace).rdropWhile jsSpace).dropWhile jsSpace =
      (s.toList.dropWhile jsSpace).rdropWhile jsSpace := by
    refine List.dropWhile_eq_self_iff.mpr fun hpos => ?_
    have hstart := List.rdropWhile_prefix jsSpace (l := s.toList.dropWhile jsSpace)
    rw [hstart.getElem hpos]
    exact List.dropWhile_get_zero_not jsSpace s.toList (hpos.trans_le hstart.length_le)
  rw [trim, trim, String.toList_ofList, hhead, List.rdropWhile_idempotent]

/-! ## The page -/

/-- The state of the component. -/
structure App where
  message : String
  response : Option EchoReply
  error : Option String
  loading : Bool
  deriving DecidableEq

/-- The component, and the calls it has made. -/
structure Page where
  app : App
  /-- The messages of the `callEcho` calls that have not settled. -/
  pending : List String
  /-- The messages posted so far, the last one first. -/
  posted : List String
  deriving DecidableEq

/-- What the user does, or an answer to a `callEcho` that arrives. -/
inductive EchoEvent where
  | change (text : String)
  | enter
  | click
  | settled (message : String) (answer : Fetched EchoReply)

/-- What `callEcho` makes of the answer. -/
def readReply : Fetched EchoReply → Except String EchoReply
  | .rejected message => .error message
  | .response status text json =>
    if !isOk status then
      match text with
      | .ok body => .error (toString status ++ ": " ++ body)
      | .error message => .error message
    else json

namespace Page

/-- The `useState` defaults. -/
def initial : Page where
  app := { message := "", response := none, error := none, loading := false }
  pending := []
  posted := []

def call (p : Page) : Page :=
  if trim p.app.message = "" then p
  else
    { app := { p.app with loading := true, error := none, response := none }
      pending := trim p.app.message :: p.pending
      posted := trim p.app.message :: p.posted }

/-- The continuation of a call. -/
def settle (p : Page) (message : String) (result : Except String EchoReply) : Page :=
  { p with
    app := match result with
      | .ok reply => { p.app with response := some reply, loading := false }
      | .error e => { p.app with error := some e, loading := false }
    pending := p.pending.erase message }

/-- One event. The input is disabled while `loading`, the button also without a message; the browser
is taken to send a disabled input no keys and a disabled button no clicks. -/
def step (p : Page) : EchoEvent → Option Page
  | .change text => if p.app.loading then none else some { p with app.message := text }
  | .enter => if p.app.loading then none else some p.call
  | .click => if p.app.loading || trim p.app.message = "" then none else some p.call
  | .settled message answer =>
    if message ∈ p.pending then some (p.settle message (readReply answer)) else none

/-! ## What the page shows -/

/-- A reply to each message. -/
abbrev Echoes := String → EchoReply → Prop

/-- What holds of the page, if the replies are as `echoes` says. -/
structure Sound (echoes : Echoes) (p : Page) : Prop where
  idle : p.app.loading = false → p.pending = []
  busy : p.app.loading = true → p.app.response = none ∧ p.app.error = none ∧
    ∃ message rest, p.posted = message :: rest ∧ p.pending = [message]
  one : p.app.response = none ∨ p.app.error = none
  shown : ∀ reply, p.app.response = some reply →
    ∃ message rest, p.posted = message :: rest ∧ echoes message reply
  trimmed : ∀ message ∈ p.posted, trim message = message ∧ message ≠ ""

variable {echoes : Echoes} {p p' : Page}

theorem sound_initial : Sound echoes initial where
  idle _ := rfl
  busy h := by cases h
  one := .inl rfl
  shown reply h := by cases h
  trimmed message h := by cases h

theorem Sound.call (h : Sound echoes p) (hidle : p.app.loading = false) :
    Sound echoes p.call := by
  unfold Page.call
  by_cases hmessage : trim p.app.message = ""
  · rwa [if_pos hmessage]
  rw [if_neg hmessage]
  constructor
  case idle =>
    intro hloading
    cases hloading
  case busy =>
    rintro -
    refine ⟨rfl, rfl, trim p.app.message, p.posted, rfl, ?_⟩
    rw [h.idle hidle]
  case one => exact .inl rfl
  case shown =>
    intro reply hreply
    cases hreply
  case trimmed =>
    intro message hmem
    rcases List.mem_cons.mp hmem with rfl | hmem
    · exact ⟨trim_trim _, hmessage⟩
    · exact h.trimmed message hmem

theorem Sound.settle (h : Sound echoes p) {message : String} {result : Except String EchoReply}
    (hpending : message ∈ p.pending)
    (hecho : ∀ reply, result = .ok reply → echoes message reply) :
    Sound echoes (p.settle message result) := by
  have hloading : p.app.loading = true := by
    by_contra hidle
    rw [h.idle (by simpa using hidle)] at hpending
    cases hpending
  obtain ⟨hresponse, herror, message', rest, hposted, hone⟩ := h.busy hloading
  rw [hone, List.mem_singleton] at hpending
  subst hpending
  have herase : p.pending.erase message = [] := by simp [hone]
  constructor
  case idle => exact fun _ => herase
  case busy => cases result <;> exact fun hbusy => by cases hbusy
  case one =>
    cases result with
    | ok reply => exact .inr herror
    | error e => exact .inl hresponse
  case shown =>
    intro reply hreply
    cases result with
    | ok reply' =>
      obtain rfl := Option.some.inj hreply
      exact ⟨message, rest, hposted, hecho _ rfl⟩
    | error e =>
      replace hreply : p.app.response = some reply := hreply
      rw [hresponse] at hreply
      cases hreply
  case trimmed => exact h.trimmed

theorem Sound.step (h : Sound echoes p) {e : EchoEvent} (hs : p.step e = some p')
    (hecho : ∀ message answer, e = .settled message answer → ∀ reply,
      readReply answer = .ok reply → echoes message reply) : Sound echoes p' := by
  cases e with
  | change text =>
    obtain ⟨hidle, hp⟩ := Option.ite_none_left_eq_some.mp hs
    obtain rfl := Option.some.inj hp
    refine ⟨fun _ => h.idle (by simpa using hidle), fun hbusy => absurd hbusy hidle, h.one,
      h.shown, h.trimmed⟩
  | enter =>
    obtain ⟨hidle, hp⟩ := Option.ite_none_left_eq_some.mp hs
    obtain rfl := Option.some.inj hp
    exact h.call (by simpa using hidle)
  | click =>
    obtain ⟨hidle, hp⟩ := Option.ite_none_left_eq_some.mp hs
    obtain rfl := Option.some.inj hp
    simp only [Bool.or_eq_true, not_or] at hidle
    exact h.call (by simpa using hidle.1)
  | settled message answer =>
    obtain ⟨hpending, hp⟩ := Option.ite_none_right_eq_some.mp hs
    obtain rfl := Option.some.inj hp
    exact h.settle hpending fun reply hreply => hecho message answer rfl reply hreply

end Page

/-! ## The page and the server -/

abbrev EchoPool (ι : Type) :=
  Pool ι Greeter.Action Greeter.Action.Reply (Except Status EchoReply) Greeter.World

/-- A reply that the gateway hands to the page is the server's, to a request with the message of the
call. It may turn any reply into an error. -/
def Handed {ι : Type} (req : ι → EchoRequest) (c : EchoPool ι) : EchoEvent → Prop
  | .settled message answer => ∀ reply, readReply answer = .ok reply →
      ∃ i, req i = ⟨message⟩ ∧ c.Returned i (.ok reply)
  | _ => True

/-- The page, and the calls at the server, its own and those of others. -/
abbrev EchoSite (ι : Type) :=
  Joint Page ι Greeter.Action Greeter.Action.Reply (Except Status EchoReply) Greeter.World

/-- One event of the page, or one action of a call. -/
def EchoStep {ι : Type} [DecidableEq ι] (req : ι → EchoRequest) :
    EchoSite ι → Joint.Event EchoEvent ι Greeter.Env → EchoSite ι → Prop :=
  Joint.Step Greeter.exec fun c p e p' => Handed req c e ∧ p.step e = some p'

/-- The page has been opened, and no call has started. -/
def openedPage {ι : Type} (J : GolangJwt) (env : Environ) (now : ι → Time) (ctx : ι → Context)
    (req : ι → EchoRequest) (w : Greeter.World) : EchoSite ι where
  client := .initial
  pool := Greeter.calls J env now ctx req w

section Runs

variable {ι : Type} [DecidableEq ι] {J : GolangJwt} {env : Environ} {now : ι → Time}
  {ctx : ι → Context} {req : ι → EchoRequest} {w : Greeter.World} {site : EchoSite ι}
  {hist : List (Entry (EchoSite ι) (Joint.Event EchoEvent ι Greeter.Env))}

/-- The reply is the message. -/
def Verbatim (message : String) (reply : EchoReply) : Prop := reply.message = message

theorem sound_run (hrun : Run (EchoStep req) (openedPage J env now ctx req w) hist site) :
    site.client.Sound Verbatim := by
  have hboth := Joint.invariant (fun p c => p.Sound Verbatim ∧
    c.Owing Greeter.Action.gain fun i => Greeter.Settled (req i)) ?_ ?_ ?_ hrun
  · exact hboth.1
  · refine ⟨Page.sound_initial, fun i => ⟨0, ?_⟩⟩
    refine (Greeter.serveEcho_tallies J env (now i) (ctx i) (req i)).mono fun res m h => ?_
    rwa [zero_add]
  · rintro c p e p' ⟨hpage, hserver⟩ ⟨hhanded, hs⟩
    refine ⟨hpage.step hs fun message answer he reply hreply => ?_, hserver⟩
    subst he
    obtain ⟨i, hreq, hreturned⟩ := hhanded reply hreply
    obtain ⟨m, hsettled, -⟩ := hserver.returned hreturned
    rw [Verbatim, Except.ok.inj hsettled, hreq]
  · rintro c p i e ⟨hpage, hserver⟩
    exact ⟨hpage, hserver.step i e⟩

/-- **The form echoes.** In every run of the page and the server, whatever the user does, whenever
answers arrive and whichever get lost: at most one call of the page is under way, exactly while it
shows that it is loading; it shows that, an error or a reply, never two of them; and a reply shown
is the message posted last, trimmed and not empty. -/
theorem echo_shown (hrun : Run (EchoStep req) (openedPage J env now ctx req w) hist site) :
    (site.client.pending.length ≤ 1 ∧
      (site.client.app.loading = true ↔ site.client.pending ≠ [])) ∧
    (site.client.app.loading = true →
      site.client.app.response = none ∧ site.client.app.error = none) ∧
    (site.client.app.response = none ∨ site.client.app.error = none) ∧
    ∀ reply, site.client.app.response = some reply →
      (∃ rest, site.client.posted = reply.message :: rest) ∧
        trim reply.message = reply.message ∧ reply.message ≠ "" := by
  have hsound := sound_run hrun
  refine ⟨?_, fun hloading => ?_, hsound.one, fun reply hreply => ?_⟩
  · cases hloading : site.client.app.loading with
    | false => simp [hsound.idle hloading]
    | true =>
      obtain ⟨-, -, message, rest, -, hpending⟩ := hsound.busy hloading
      simp [hpending]
  · obtain ⟨hresponse, herror, -⟩ := hsound.busy hloading
    exact ⟨hresponse, herror⟩
  · obtain ⟨message, rest, hposted, hecho⟩ := hsound.shown reply hreply
    obtain rfl : reply.message = message := hecho
    exact ⟨⟨rest, hposted⟩, hsound.trimmed _ (hposted ▸ List.mem_cons_self)⟩

end Runs

/-! Somebody posts a message, and is shown it. -/

namespace Sample

/-- One call at the server. -/
def helloSite : EchoSite Unit :=
  openedPage SampleGrpc.Sample.jwt SampleGrpc.Sample.environ (fun _ => 0) (fun _ => ⟨none, none⟩)
    (fun _ => ⟨"hello"⟩) Greeter.Sample.empty

def typed : Page :=
  { Page.initial with app := { Page.initial.app with message := " hello\n" } }

def clicked : Page :=
  { app := { typed.app with loading := true }, pending := ["hello"], posted := ["hello"] }

def schedule : List (Unit × Greeter.Env) := List.replicate 6 ((), Greeter.Sample.env)

def helloAnswer : Fetched EchoReply := .response 200 (.error "read as JSON") (.ok ⟨"hello"⟩)

end Sample

theorem echo_shown_hello : ∃ site : EchoSite Unit, site.client.app.response = some ⟨"hello"⟩ ∧
    (site.client.app.response = none ∨ site.client.app.error = none) ∧
    ∃ rest, site.client.posted = "hello" :: rest := by
  have hchange : EchoStep (fun _ => ⟨"hello"⟩) Sample.helloSite (.client (.change " hello\n"))
      ⟨Sample.typed, Sample.helloSite.pool⟩ := .client ⟨trivial, rfl⟩
  have hclicked : Sample.typed.step .click = some Sample.clicked := by decide +kernel
  have hclick : EchoStep (fun _ => ⟨"hello"⟩) ⟨Sample.typed, Sample.helloSite.pool⟩
      (.client .click) ⟨Sample.clicked, Sample.helloSite.pool⟩ := .client ⟨trivial, hclicked⟩
  have hreturned : (Sample.helloSite.pool.exec Greeter.exec Sample.schedule).Returned ()
      (.ok ⟨"hello"⟩) := by decide +kernel
  have hsettled : Sample.clicked.step (.settled "hello" Sample.helloAnswer) =
      some (Sample.clicked.settle "hello" (.ok ⟨"hello"⟩)) := by decide +kernel
  obtain ⟨hist, hserved⟩ := Joint.run_exec ((Run.nil.snoc hchange).snoc hclick) Sample.schedule
  have hhanded : Handed (fun _ : Unit => ⟨"hello"⟩)
      (Sample.helloSite.pool.exec Greeter.exec Sample.schedule)
      (.settled "hello" Sample.helloAnswer) := by
    intro reply hreply
    obtain rfl := Except.ok.inj hreply
    exact ⟨(), rfl, hreturned⟩
  have hrun := hserved.snoc (.client ⟨hhanded, hsettled⟩)
  obtain ⟨-, -, hone, hshown⟩ := echo_shown hrun
  exact ⟨_, rfl, hone, (hshown ⟨"hello"⟩ rfl).1⟩

end SampleGrpc.Web
