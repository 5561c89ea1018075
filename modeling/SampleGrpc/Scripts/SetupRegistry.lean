import SampleGrpc.Shell.Errexit
import SampleGrpc.Shell.Grep

/-!
# The script that sets up the registry on a node

`scripts/setup-registry.sh`, as a program under `set -e` over the state of a k3s node: the two
configuration files, the services, and the restarts so far. `configure_registries_yaml` ends with an
`&&` list, so it fails when no entry was added, and the script ends before it decides on a restart.

* `main` — the script, function by function.
* `configureRegistriesYaml_run`, `main_run_of_missing`, `main_run_of_present` — what it does.
* `setup_restarts_iff` — when a run does what it says; a second run never does.
-/

namespace SampleGrpc.SetupRegistry

open Cmd

/-! ## Arguments -/

/-- The characters of addresses and ports. -/
def addressChar (c : Char) : Bool := c.isAlphanum || c == '.' || c == ':'

/-- An IP address or a port, as text. -/
structure Address where
  text : String
  plain : text.toList.all addressChar = true

/-- `${ip}:${NODE_PORT}` -/
def host (port ip : Address) : String := ip.text ++ ":" ++ port.text

def defaultPort : Address := { text := "32000", plain := by decide }

def defaultIps : List Address :=
  [{ text := "192.168.1.110", plain := by decide }, { text := "100.69.236.43", plain := by decide }]

/-- `NODE_PORT="${1:-32000}"` -/
def nodePort : List Address → Address
  | [] => defaultPort
  | a :: _ => if a.text = "" then defaultPort else a

/-- `REGISTRY_IPS`, after the `shift`. -/
def registryIps (args : List Address) : List Address :=
  if 0 < (args.drop 1).length then args.drop 1 else defaultIps

theorem registryIps_ne_nil (args : List Address) : registryIps args ≠ [] := by
  unfold registryIps
  split
  · next h => exact List.ne_nil_of_length_pos h
  · simp [defaultIps]

/-- The registry hosts that the script is asked for. -/
def requestedHosts (args : List Address) : List String :=
  (registryIps args).map (host (nodePort args))

/-! ## The node and the variables of the script -/

/-- A k3s node. A file that is absent is `none`; `restarts` are the services restarted so far. -/
structure Node where
  euid : ℕ
  hasK3s : Bool
  k3sActive : Bool
  agentActive : Bool
  serverProcess : Bool
  minor : ℕ
  config : Option String
  registries : Option String
  restarts : List String
  deriving DecidableEq

structure Vars where
  needsRestart : Bool := false
  role : String := ""
  minor : ℕ := 0
  anyAdded : Bool := false
  svc : String := ""
  deriving DecidableEq

structure Sh where
  node : Node
  vars : Vars
  deriving DecidableEq

/-- `systemctl is-active` -/
def Node.isActive (n : Node) (svc : String) : Bool :=
  svc = "k3s" && n.k3sActive || svc = "k3s-agent" && n.agentActive

def nodeRole (n : Node) : String :=
  if n.isActive "k3s" then "server"
  else if n.isActive "k3s-agent" then "agent"
  else if n.serverProcess then "server"
  else "agent"

/-! ## Functions of the script -/

/-- `log` and `warn`, and the commands that succeed and leave the files alone: `mkdir -p`,
`kubectl`. -/
def log : Cmd Sh Address := ok

@[simp] theorem run_log {ignored : Bool} {s : Sh} : log.run ignored s = (s, .status 0) := run_ok

@[simp] theorem run_seq_log {ignored : Bool} {b : Cmd Sh Address} {s : Sh} :
    (Cmd.seq log b).run ignored s = b.run ignored s := run_seq_ok

def die : Cmd Sh Address := .exit 1

def requireRoot : Cmd Sh Address := .or (test fun s => s.node.euid = 0) die

def requireK3s : Cmd Sh Address := .or (test fun s => s.node.hasK3s) die

/-- `[[ -f config.yaml ]] && grep -q "^embedded-registry:" config.yaml` -/
def embeddedSet (file : Option String) : Bool :=
  match file with
  | some text => (textLines text.toList).any ("embedded-registry:".toList.isPrefixOf ·)
  | none => false

def enableEmbeddedRegistry : Cmd Sh Address :=
  block [log, log,
    .ite (test fun s => embeddedSet s.node.config)
      log
      (block [
        effect fun s => { s with
          node.config := some (s.node.config.getD "" ++ "embedded-registry: true\n") },
        log,
        effect fun s => { s with vars.needsRestart := true }])]

def deployRegistryPod : Cmd Sh Address := block [log, log, log, log, log, log]

/-- The text that is appended for a host. -/
def fragment (host : String) : String :=
  "\nmirrors:\n  \"" ++ host ++ "\":\n    endpoint:\n      - \"http://" ++ host ++
    "\"\nconfigs:\n  \"" ++ host ++ "\":\n    tls:\n      insecure_skip_verify: true\n"

variable (G : Grep)

/-- `[[ -f registries.yaml ]] && grep -q "${host}" registries.yaml` -/
def present (file : Option String) (host : String) : Bool :=
  match file with
  | some text => G.quiet host text
  | none => false

/-- The body of the loop over the addresses. -/
def configureHost (port ip : Address) : Cmd Sh Address :=
  block [log,
    .ite (test fun s => present G s.node.registries (host port ip))
      (block [log, .nextTurn])
      ok,
    effect fun s => { s with
      node.registries := some (s.node.registries.getD "" ++ fragment (host port ip)) },
    log,
    effect fun s => { s with vars.anyAdded := true }]

def configureRegistriesYaml (ips : List Address) (port : Address) : Cmd Sh Address :=
  block [log,
    effect fun s => { s with vars.anyAdded := false },
    .forIn ips (configureHost G port),
    .and (test fun s => s.vars.anyAdded) (effect fun s => { s with vars.needsRestart := true })]

def restartK3s : Cmd Sh Address :=
  block [
    effect fun s => { s with vars.svc := "k3s" },
    .and (test fun s => s.vars.role = "agent") (effect fun s => { s with vars.svc := "k3s-agent" }),
    .ite (test fun s => s.node.isActive s.vars.svc)
      (block [log,
        effect fun s => { s with node.restarts := s.node.restarts ++ [s.vars.svc] },
        log])
      log]

/-- `main`, up to the restart decision. -/
def mainBefore (args : List Address) : Cmd Sh Address :=
  block [.call requireRoot, .call requireK3s,
    effect fun s => { s with vars.needsRestart := false },
    effect fun s => { s with vars.role := nodeRole s.node },
    effect fun s => { s with vars.minor := s.node.minor },
    log, log,
    .ite (test fun s => s.vars.role = "server")
      (.ite (test fun s => 26 ≤ s.vars.minor)
        (block [log, .call enableEmbeddedRegistry])
        (block [log, .call deployRegistryPod]))
      (block [log, log]),
    .call (configureRegistriesYaml G (registryIps args) (nodePort args))]

/-- `main`, from the restart decision on. -/
def mainAfter (args : List Address) : Cmd Sh Address :=
  block [
    .ite (test fun s => s.vars.needsRestart) (.call restartK3s) log,
    log, log,
    .forIn (registryIps args) fun _ => log,
    log, log, log,
    .ite (test fun s => s.vars.role = "server") (block [log, log]) ok]

def main (args : List Address) : Cmd Sh Address := .seq (mainBefore G args) (mainAfter args)

/-- A run of the script on a node: the node afterwards, and the exit status. -/
def setup (args : List Address) (n : Node) : Node × ℕ :=
  let r := (Cmd.call (main G args)).run false { node := n, vars := {} }
  (r.1.node, r.2.code)

/-! ## The loop over the hosts -/

/-- The file after one turn. -/
def addHost (file : Option String) (host : String) : Option String :=
  if present G file host then file else some (file.getD "" ++ fragment host)

/-- The file after the loop. -/
def addHosts (file : Option String) (hosts : List String) : Option String :=
  hosts.foldl (addHost G) file

/-- Some host is not found in the file. -/
def missingAny (file : Option String) (hosts : List String) : Bool :=
  hosts.any fun host => !present G file host

/-- One turn, for a state of the script. -/
def turn (port : Address) (s : Sh) (ip : Address) : Sh :=
  if present G s.node.registries (host port ip) then s
  else
    { node := { s.node with registries := addHost G s.node.registries (host port ip) }
      vars := { s.vars with anyAdded := true } }

variable {G} {args ips : List Address} {port ip : Address} {s : Sh} {n : Node}
variable {file : Option String} {hosts : List String}

theorem addHosts_of_present (h : missingAny G file hosts = false) :
    addHosts G file hosts = file := by
  induction hosts with
  | nil => rfl
  | cons host hosts ih =>
    obtain ⟨hhost, hhosts⟩ : present G file host = true ∧ missingAny G file hosts = false := by
      simpa [missingAny] using h
    rw [addHosts, List.foldl_cons, addHost, if_pos hhost]
    exact ih hhosts

/-- The text only grows. -/
theorem addHosts_extends (file : Option String) (hosts : List String) :
    ∃ rest : String, (addHosts G file hosts).getD "" = file.getD "" ++ rest := by
  induction hosts generalizing file with
  | nil => exact ⟨"", by simp [addHosts]⟩
  | cons host hosts ih =>
    obtain ⟨rest, hrest⟩ := ih (addHost G file host)
    rw [addHosts, List.foldl_cons]
    by_cases hhost : present G file host = true
    · exact ⟨rest, by rw [← addHosts, hrest, addHost, if_pos hhost]⟩
    · refine ⟨fragment host ++ rest, ?_⟩
      rw [← addHosts, hrest, addHost, if_neg hhost, Option.getD_some, String.append_assoc]

theorem toList_fragment (host : String) : (fragment host).toList =
    "\nmirrors:\n  \"".toList ++ host.toList ++
      "\":\n    endpoint:\n      - \"http://".toList ++ host.toList ++
      "\"\nconfigs:\n  \"".toList ++ host.toList ++
      "\":\n    tls:\n      insecure_skip_verify: true\n".toList := by
  unfold fragment
  iterate 6 rw [String.toList_append]

theorem fragment_ne_nil (host : String) : (fragment host).toList ≠ [] := by
  have hhead : ("\nmirrors:\n  \"".toList : List Char) ≠ [] := by decide
  rw [toList_fragment]
  intro h
  simp only [List.append_eq_nil_iff] at h
  exact hhead h.1.1.1.1.1.1

theorem addHosts_ne_of_missing (h : missingAny G file hosts = true) :
    addHosts G file hosts ≠ file := by
  induction hosts with
  | nil => simp [missingAny] at h
  | cons host hosts ih =>
    rw [addHosts, List.foldl_cons]
    by_cases hhost : present G file host = true
    · rw [addHost, if_pos hhost]
      exact ih (by simpa [missingAny, hhost] using h)
    · -- What is appended here is still there at the end.
      obtain ⟨rest, hrest⟩ := addHosts_extends (G := G) (addHost G file host) hosts
      intro heq
      rw [← addHosts] at heq
      rw [heq, addHost, if_neg hhost, Option.getD_some] at hrest
      have hnil := congrArg String.toList hrest
      rw [String.toList_append, String.toList_append, List.append_assoc, List.self_eq_append_right,
        List.append_eq_nil_iff] at hnil
      exact fragment_ne_nil host hnil.1

theorem turns_eq (ips : List Address) (s : Sh) :
    ips.foldl (turn G port) s =
      { node := { s.node with
          registries := addHosts G s.node.registries (ips.map (host port)) }
        vars := { s.vars with
          anyAdded :=
            s.vars.anyAdded || missingAny G s.node.registries (ips.map (host port)) } } := by
  induction ips generalizing s with
  | nil => simp [addHosts, missingAny]
  | cons ip ips ih =>
    rw [List.foldl_cons, ih]
    by_cases hpresent : present G s.node.registries (host port ip) = true
    · simp [turn, hpresent, addHosts, addHost, missingAny]
    · simp [turn, hpresent, addHosts, missingAny]

/-! ## Running the functions -/

theorem configureHost_run (port ip : Address) (s : Sh) :
    (configureHost G port ip).run false s = (turn G port s ip, .status 0) ∨
      (configureHost G port ip).run false s = (turn G port s ip, .nextTurn) := by
  by_cases hpresent : present G s.node.registries (host port ip) = true
  · have hskip : (Cmd.ite (test fun s : Sh => present G s.node.registries (host port ip))
        (block [log, .nextTurn]) ok : Cmd Sh Address).run false s = (s, .nextTurn) := by
      rw [run_ite_test, if_pos hpresent, run_block_cons, run_seq_log, run_block_single,
        run_nextTurn]
    refine .inr ?_
    rw [configureHost, run_block_cons, run_seq_log, run_block_cons, run_seq_of_nextTurn hskip,
      turn, if_pos hpresent]
  · have hgoOn : (Cmd.ite (test fun s : Sh => present G s.node.registries (host port ip))
        (block [log, .nextTurn]) ok : Cmd Sh Address).run false s = (s, .status 0) := by
      rw [run_ite_test, if_neg hpresent, run_ok]
    refine .inl ?_
    rw [configureHost, run_block_cons, run_seq_log, run_block_cons, run_seq_of_status hgoOn,
      run_block_cons, run_seq_effect, run_block_cons, run_seq_log, run_block_single, run_effect,
      turn, if_neg hpresent, addHost, if_neg hpresent]

/-- The state after `configure_registries_yaml`. -/
def configured (G : Grep) (ips : List Address) (port : Address) (s : Sh) : Sh :=
  let hosts := ips.map (host port)
  { node := { s.node with registries := addHosts G s.node.registries hosts }
    vars := { s.vars with
      anyAdded := missingAny G s.node.registries hosts
      needsRestart := s.vars.needsRestart || missingAny G s.node.registries hosts } }

/-- **`configure_registries_yaml` fails when it adds nothing.** -/
theorem configureRegistriesYaml_run (ips : List Address) (port : Address) (s : Sh) :
    (configureRegistriesYaml G ips port).run false s =
      (configured G ips port s,
        .status (if missingAny G s.node.registries (ips.map (host port)) then 0 else 1)) := by
  have hloop (s : Sh) : (Cmd.forIn ips (configureHost G port)).run false s =
      (ips.foldl (turn G port) s, .status 0) :=
    run_forIn (fun ip _ s => configureHost_run port ip s) s
  rw [configureRegistriesYaml, run_block_cons, run_seq_log, run_block_cons, run_seq_effect,
    run_block_cons, run_seq_of_status (hloop _), turns_eq, run_block_single, run_and_test]
  cases hmissing : missingAny G s.node.registries (ips.map (host port)) with
  | true => simp [hmissing, configured]
  | false => simp [hmissing, configured]

/-- The run enables the embedded registry: on a server whose version has it, unless it is set. -/
def embeds (n : Node) : Bool :=
  nodeRole n = "server" && 26 ≤ n.minor && !embeddedSet n.config

/-- The node after the part of `main` that enables the embedded registry. -/
def withEmbedded (n : Node) : Node :=
  if embeds n then
    { n with config := some (n.config.getD "" ++ "embedded-registry: true\n") }
  else n

theorem enableEmbeddedRegistry_run (s : Sh) :
    enableEmbeddedRegistry.run false s =
      (if embeddedSet s.node.config then s
        else
          { node := { s.node with
              config := some (s.node.config.getD "" ++ "embedded-registry: true\n") }
            vars := { s.vars with needsRestart := true } }, .status 0) := by
  by_cases hset : embeddedSet s.node.config = true
  · rw [enableEmbeddedRegistry, run_block_cons, run_seq_log, run_block_cons, run_seq_log,
      run_block_single, run_ite_test, if_pos hset, run_log, if_pos hset]
  · rw [enableEmbeddedRegistry, run_block_cons, run_seq_log, run_block_cons, run_seq_log,
      run_block_single, run_ite_test, if_neg hset, run_block_cons, run_seq_effect, run_block_cons,
      run_seq_log, run_block_single, run_effect, if_neg hset]

/-- The service that a restart is for. -/
def service (n : Node) : String := if nodeRole n = "agent" then "k3s-agent" else "k3s"

/-- The script runs as root on a k3s node, and the service of its role is active, so that all
commands it calls succeed. -/
structure Node.Works (n : Node) : Prop where
  root : n.euid = 0
  k3s : n.hasK3s = true
  active : n.isActive (service n) = true

/-- The state in which `main` calls `configure_registries_yaml`. -/
def prepared (n : Node) : Sh :=
  { node := withEmbedded n
    vars := { needsRestart := embeds n, role := nodeRole n, minor := n.minor } }

theorem mainBefore_run (hn : n.Works) (args : List Address) :
    (mainBefore G args).run false { node := n, vars := {} } =
      (Cmd.call (configureRegistriesYaml G (registryIps args) (nodePort args))).run false
        (prepared n) := by
  have hroot : (Cmd.call requireRoot).run false { node := n, vars := {} } =
      ({ node := n, vars := {} }, .status 0) := by
    apply run_call_of_zero
    rw [requireRoot, run_or_test, if_pos (decide_eq_true hn.root)]
  have hk3s : (Cmd.call requireK3s).run false { node := n, vars := {} } =
      ({ node := n, vars := {} }, .status 0) := by
    apply run_call_of_zero
    rw [requireK3s, run_or_test, if_pos hn.k3s]
  rw [mainBefore, run_block_cons, run_seq_of_status hroot, run_block_cons, run_seq_of_status hk3s,
    run_block_cons, run_seq_effect, run_block_cons, run_seq_effect, run_block_cons, run_seq_effect,
    run_block_cons, run_seq_log, run_block_cons, run_seq_log, run_block_cons]
  -- The embedded registry, the registry pod, or nothing: each branch succeeds.
  have hbranch : (Cmd.ite (test fun s : Sh => s.vars.role = "server")
      (.ite (test fun s => 26 ≤ s.vars.minor)
        (block [log, .call enableEmbeddedRegistry])
        (block [log, .call deployRegistryPod]))
      (block [log, log])).run false
        { node := n, vars := { role := nodeRole n, minor := n.minor } } =
      (prepared n, .status 0) := by
    by_cases hserver : nodeRole n = "server"
    · rw [run_ite_test, if_pos (decide_eq_true hserver), run_ite_test]
      by_cases hminor : 26 ≤ n.minor
      · rw [if_pos (decide_eq_true hminor), run_block_cons, run_seq_log, run_block_single,
          run_call_of_zero (enableEmbeddedRegistry_run _)]
        cases hset : embeddedSet n.config with
        | true => simp [hserver, hminor, hset, prepared, withEmbedded, embeds]
        | false => simp [hserver, hminor, hset, prepared, withEmbedded, embeds]
      · have hdeployed (s : Sh) : deployRegistryPod.run false s = (s, .status 0) := by
          simp [deployRegistryPod, run_block_cons]
        rw [if_neg (by simpa using hminor), run_block_cons, run_seq_log, run_block_single,
          run_call_of_zero (hdeployed _)]
        simp [hminor, prepared, withEmbedded, embeds]
    · rw [run_ite_test, if_neg (by simpa using hserver), run_block_cons, run_seq_log,
        run_block_single, run_log]
      simp [hserver, prepared, withEmbedded, embeds]
  exact run_seq_of_status hbranch

theorem withEmbedded_eq (n : Node) :
    withEmbedded n = { n with config := (withEmbedded n).config } := by
  unfold withEmbedded
  split <;> rfl

theorem missingAny_prepared (n : Node) : (prepared n).node.registries = n.registries := by
  rw [prepared, withEmbedded_eq]

theorem mainBefore_run_of_missing (hn : n.Works)
    (h : missingAny G n.registries (requestedHosts args) = true) :
    (mainBefore G args).run false { node := n, vars := {} } =
      (configured G (registryIps args) (nodePort args) (prepared n), .status 0) := by
  have hrun := configureRegistriesYaml_run (G := G) (registryIps args) (nodePort args) (prepared n)
  rw [missingAny_prepared, ← requestedHosts, h, if_pos rfl] at hrun
  rw [mainBefore_run hn, run_call_of_zero hrun]

/-- The script ends here when every host is found. -/
theorem mainBefore_run_of_present (hn : n.Works)
    (h : missingAny G n.registries (requestedHosts args) = false) :
    (mainBefore G args).run false { node := n, vars := {} } =
      (configured G (registryIps args) (nodePort args) (prepared n), .exit 1) := by
  have hrun := configureRegistriesYaml_run (G := G) (registryIps args) (nodePort args) (prepared n)
  rw [missingAny_prepared, ← requestedHosts, h, if_neg (by simp)] at hrun
  rw [mainBefore_run hn, run_call_of_failure hrun]

/-- The restart, and the summary after it. -/
theorem mainAfter_run {s : Sh} {svc : String} (hrestart : s.vars.needsRestart = true)
    (hsvc : svc = if s.vars.role = "agent" then "k3s-agent" else "k3s")
    (hactive : s.node.isActive svc = true) :
    (mainAfter args).run false s =
      ({ node := { s.node with restarts := s.node.restarts ++ [svc] }
         vars := { s.vars with svc := svc } }, .status 0) := by
  have hloop (s : Sh) : (Cmd.forIn (registryIps args) fun _ => log).run false s =
      (s, .status 0) := by
    rw [run_forIn (g := fun s _ => s) fun _ _ s => .inl run_log]
    simp
  have hrestarted : restartK3s.run false s =
      ({ node := { s.node with restarts := s.node.restarts ++ [svc] }
         vars := { s.vars with svc := svc } }, .status 0) := by
    by_cases hagent : s.vars.role = "agent"
    · rw [if_pos hagent] at hsvc
      subst hsvc
      have hchosen : (Cmd.and (test fun s : Sh => s.vars.role = "agent")
          (effect fun s => { s with vars.svc := "k3s-agent" }) : Cmd Sh Address).run false
            { s with vars.svc := "k3s" } = ({ s with vars.svc := "k3s-agent" }, .status 0) := by
        rw [run_and_test, if_pos (decide_eq_true hagent), run_effect]
      rw [restartK3s, run_block_cons, run_seq_effect, run_block_cons, run_seq_of_status hchosen,
        run_block_single, run_ite_test, if_pos hactive, run_block_cons, run_seq_log, run_block_cons,
        run_seq_effect, run_block_single, run_log]
    · rw [if_neg hagent] at hsvc
      subst hsvc
      have hkept : (Cmd.and (test fun s : Sh => s.vars.role = "agent")
          (effect fun s => { s with vars.svc := "k3s-agent" }) : Cmd Sh Address).run false
            { s with vars.svc := "k3s" } = ({ s with vars.svc := "k3s" }, .status 1) := by
        rw [run_and_test, if_neg (by simpa using hagent)]
      rw [restartK3s, run_block_cons, run_seq_effect, run_block_cons, run_seq_of_status hkept,
        run_block_single, run_ite_test, if_pos hactive, run_block_cons, run_seq_log, run_block_cons,
        run_seq_effect, run_block_single, run_log]
  have hdecision : (Cmd.ite (test fun s : Sh => s.vars.needsRestart) (.call restartK3s)
      log).run false s = (.call restartK3s : Cmd Sh Address).run false s := by
    rw [run_ite_test, if_pos hrestart]
  rw [run_call_of_zero hrestarted] at hdecision
  rw [mainAfter, run_block_cons, run_seq_of_status hdecision, run_block_cons, run_seq_log,
    run_block_cons, run_seq_log, run_block_cons, run_seq_of_status (hloop _), run_block_cons,
    run_seq_log, run_block_cons, run_seq_log, run_block_cons, run_seq_log, run_block_single,
    run_ite_test, run_block_cons, run_seq_log, run_block_single, run_log, run_ok, ite_self]

/-! ## Runs of the script -/

theorem isActive_withEmbedded (n : Node) (svc : String) :
    (withEmbedded n).isActive svc = n.isActive svc := by
  unfold withEmbedded
  split <;> rfl

theorem setup_of_missing (hn : n.Works)
    (h : missingAny G n.registries (requestedHosts args) = true) :
    setup G args n =
      ({ n with
          config := (withEmbedded n).config
          registries := addHosts G n.registries (requestedHosts args)
          restarts := n.restarts ++ [service n] }, 0) := by
  have hneeds : (configured G (registryIps args) (nodePort args) (prepared n)).vars.needsRestart =
      true := by
    have hmissing : missingAny G (prepared n).node.registries
        ((registryIps args).map (host (nodePort args))) = true := by
      rw [missingAny_prepared]
      exact h
    simp [configured, hmissing]
  have hsvc : service n =
      if (configured G (registryIps args) (nodePort args) (prepared n)).vars.role = "agent" then
        "k3s-agent"
      else "k3s" := rfl
  have hmain : (main G args).run false { node := n, vars := {} } = _ :=
    (run_seq_of_status (mainBefore_run_of_missing hn h)).trans
      (mainAfter_run hneeds hsvc ((isActive_withEmbedded n (service n)).trans hn.active))
  rw [setup, run_call_of_zero hmain]
  simp only [configured, prepared, requestedHosts, Ending.code]
  rw [withEmbedded_eq]

theorem setup_of_present (hn : n.Works)
    (h : missingAny G n.registries (requestedHosts args) = false) :
    setup G args n = (withEmbedded n, 1) := by
  have hmain : (main G args).run false { node := n, vars := {} } = _ :=
    run_seq_of_exit (mainBefore_run_of_present hn h)
  rw [setup, run_call_of_exit hmain]
  have hfile : addHosts G (withEmbedded n).registries (requestedHosts args) =
      (withEmbedded n).registries := by
    rw [withEmbedded_eq]
    exact addHosts_of_present h
  show ({ withEmbedded n with
    registries := addHosts G (withEmbedded n).registries (requestedHosts args) }, 1) = _
  rw [hfile]

/-! ## What a run promises -/

/-- The run changed one of the two files. -/
def Changed (before after : Node) : Prop :=
  after.config ≠ before.config ∨ after.registries ≠ before.registries

/-- A run exits 0, reaches the restart decision, and restarts the service of the node, once, if and
only if it changed a file. -/
structure RunsAsAnnounced (G : Grep) (args : List Address) (n : Node) : Prop where
  exits : (setup G args n).2 = 0
  decides : ∃ s k, (mainBefore G args).run false { node := n, vars := {} } = (s, .status k)
  restarts : Changed n (setup G args n).1 ∧
      (setup G args n).1.restarts = n.restarts ++ [service n] ∨
    ¬Changed n (setup G args n).1 ∧ (setup G args n).1.restarts = n.restarts

/-- A run right after another one changes no file, restarts nothing and exits 0. -/
structure RerunsQuietly (G : Grep) (args : List Address) (n : Node) : Prop where
  unchanged : ¬Changed (setup G args n).1 (setup G args (setup G args n).1).1
  restarts : (setup G args (setup G args n).1).1.restarts = (setup G args n).1.restarts
  exits : (setup G args (setup G args n).1).2 = 0

theorem works_withEmbedded (hn : n.Works) : (withEmbedded n).Works := by
  have hactive := isActive_withEmbedded n
  rw [withEmbedded_eq] at hactive ⊢
  exact ⟨hn.root, hn.k3s, hn.active⟩

theorem works_setup (hn : n.Works) : (setup G args n).1.Works := by
  cases hmissing : missingAny G n.registries (requestedHosts args) with
  | true =>
    rw [setup_of_missing hn hmissing]
    exact ⟨hn.root, hn.k3s, hn.active⟩
  | false =>
    rw [setup_of_present hn hmissing]
    exact works_withEmbedded hn

/-- A run that exits 0 has changed `registries.yaml`. -/
theorem changed_of_exits (hn : n.Works) (h : (setup G args n).2 = 0) :
    Changed n (setup G args n).1 := by
  cases hmissing : missingAny G n.registries (requestedHosts args) with
  | true =>
    rw [setup_of_missing hn hmissing]
    exact .inr (addHosts_ne_of_missing hmissing)
  | false =>
    rw [setup_of_present hn hmissing] at h
    cases h

theorem runsAsAnnounced_iff (hn : n.Works) :
    RunsAsAnnounced G args n ↔ missingAny G n.registries (requestedHosts args) = true := by
  constructor
  · intro h
    have hexits := h.exits
    cases hmissing : missingAny G n.registries (requestedHosts args) with
    | true => rfl
    | false =>
      rw [setup_of_present hn hmissing] at hexits
      cases hexits
  · intro h
    refine ⟨?_, ⟨_, _, mainBefore_run_of_missing hn h⟩, .inl ?_⟩
    · rw [setup_of_missing hn h]
    · rw [setup_of_missing hn h]
      exact ⟨.inr (addHosts_ne_of_missing h), rfl⟩

/-- **What the script keeps of its promises.** A run does what it announces exactly when some
requested host is not found in `registries.yaml`. A second run never does: either it changes
`registries.yaml` again, or it fails. -/
theorem setup_restarts_iff (G : Grep) (args : List Address) (n : Node) (hn : n.Works) :
    (RunsAsAnnounced G args n ↔
        ∃ host ∈ requestedHosts args, present G n.registries host = false) ∧
      ¬RerunsQuietly G args n ∧ ¬(RunsAsAnnounced G args n ∧ RerunsQuietly G args n) := by
  have hnever : ¬RerunsQuietly G args n := fun h =>
    h.unchanged (changed_of_exits (works_setup hn) h.exits)
  refine ⟨?_, hnever, fun h => hnever h.2⟩
  rw [runsAsAnnounced_iff hn]
  simp [missingAny]

namespace Sample

/-- A server of version 1.28 with the entry of one registry, and without the embedded registry. -/
def node : Node :=
  { euid := 0, hasK3s := true, k3sActive := true, agentActive := false, serverProcess := true
    minor := 28, config := none, registries := some (fragment "10.0.0.5:32000"), restarts := [] }

def arguments : List Address :=
  [{ text := "32000", plain := by decide }, { text := "10.0.0.5", plain := by decide }]

theorem node_works : node.Works := ⟨rfl, rfl, rfl⟩

theorem node_present :
    missingAny Grep.literal node.registries (requestedHosts arguments) = false := by
  decide +kernel

end Sample

/-- The run of the script on the sample node. -/
theorem setup_restarts_iff_sample :
    (RunsAsAnnounced Grep.literal Sample.arguments Sample.node ↔
        ∃ host ∈ requestedHosts Sample.arguments,
          present Grep.literal Sample.node.registries host = false) ∧
      ¬RerunsQuietly Grep.literal Sample.arguments Sample.node ∧
      ¬(RunsAsAnnounced Grep.literal Sample.arguments Sample.node ∧
        RerunsQuietly Grep.literal Sample.arguments Sample.node) :=
  setup_restarts_iff Grep.literal Sample.arguments Sample.node Sample.node_works

/-- The script enables the embedded registry, then fails before the restart decision. -/
theorem setup_fails_sample :
    setup Grep.literal Sample.arguments Sample.node =
        ({ Sample.node with config := some "embedded-registry: true\n" }, 1) ∧
      ¬RunsAsAnnounced Grep.literal Sample.arguments Sample.node ∧
      ¬RerunsQuietly Grep.literal Sample.arguments Sample.node := by
  refine ⟨?_, ?_, ?_⟩
  · rw [setup_of_present Sample.node_works Sample.node_present]
    rfl
  · rw [runsAsAnnounced_iff Sample.node_works, Sample.node_present]
    simp
  · intro h
    exact h.unchanged (changed_of_exits (works_setup Sample.node_works) h.exits)

end SampleGrpc.SetupRegistry
