import SampleGrpc.Scripts.SetupRegistry
import SampleGrpc.Text.Yaml

/-!
# What becomes of `registries.yaml`

`configure_registries_yaml` appends a fragment with the keys `mirrors` and `configs` for each host
that it does not find in the file. The file stays a mapping with unique keys, with the entries of
all hosts, exactly when nothing needs to be added, or when a single host is added to a file without
these keys.

* `YamlReader` — a YAML reader, with what is documented of it.
* `Configured` — what the function promises.
* `configured_iff` — when it keeps the promise.
-/

namespace SampleGrpc.SetupRegistry

/-! ## Fragments -/

/-- The text of a host, as it stands in a pattern and between double quotes. -/
def PlainHost (host : String) : Prop :=
  ∀ c ∈ host.toList, c.isAlphanum = true ∨ c = '.' ∨ c = ':'

theorem Address.plain_char (a : Address) {c : Char} (hc : c ∈ a.text.toList) :
    c.isAlphanum = true ∨ c = '.' ∨ c = ':' := by
  simpa [addressChar, or_assoc] using List.all_eq_true.mp a.plain c hc

theorem plainHost_host (port ip : Address) : PlainHost (host port ip) := by
  intro c hc
  rw [host, String.toList_append, String.toList_append, List.mem_append, List.mem_append] at hc
  rcases hc with (hc | hc) | hc
  · exact ip.plain_char hc
  · exact .inr (.inr (by simpa using hc))
  · exact port.plain_char hc

theorem plainHost_requested {args : List Address} {h : String} (hh : h ∈ requestedHosts args) :
    PlainHost h := by
  obtain ⟨ip, -, rfl⟩ := List.mem_map.mp hh
  exact plainHost_host _ ip

theorem PlainHost.pattern {host : String} (h : PlainHost host) : PlainPattern host.toList := by
  intro c hc
  rcases h c hc with hc | rfl | rfl
  · refine .inl fun hmem => ?_
    simp only [List.mem_cons, List.not_mem_nil, or_false] at hmem
    rcases hmem with rfl | rfl | rfl | rfl | rfl | rfl | rfl <;> exact absurd hc (by decide)
  · exact .inr rfl
  · exact .inl (by decide)

/-- The fragments of several hosts, one after the other. -/
def fragments : List String → String
  | [] => ""
  | h :: hs => fragment h ++ fragments hs

/-- The value of the key `mirrors` in the fragment of a host. -/
def mirrorsOf (host : String) : Yaml :=
  .map [(host, .map [("endpoint", .seq [.str ("http://" ++ host)])])]

/-- The value of the key `configs`. -/
def configsOf (host : String) : Yaml :=
  .map [(host, .map [("tls", .map [("insecure_skip_verify", .bool true)])])]

/-- The entries that a fragment stands for. -/
def hostEntries (host : String) : List (String × Yaml) :=
  [("mirrors", mirrorsOf host), ("configs", configsOf host)]

def fragmentEntries (hosts : List String) : List (String × Yaml) := hosts.flatMap hostEntries

/-- A reader of YAML files that accepts mappings with unique keys only, at every level. `OpenEnded`
says that the text is a block mapping at column zero, to which further entries can be appended. -/
structure YamlReader where
  read : String → Option Yaml
  OpenEnded : String → Prop
  read_map : ∀ {text doc}, read text = some doc →
    ∃ entries, doc = .map entries ∧ (entries.map Prod.fst).Nodup
  /-- The fragments are entries of a block mapping. -/
  read_fragments : ∀ {hosts : List String}, hosts ≠ [] → (∀ h ∈ hosts, PlainHost h) →
    read (fragments hosts) =
      if ((fragmentEntries hosts).map Prod.fst).Nodup then some (.map (fragmentEntries hosts))
      else none
  /-- Entries can be appended to an open-ended text, if their keys are new, and to no other. -/
  read_append : ∀ {text entries} {hosts : List String}, read text = some (.map entries) →
    hosts ≠ [] → (∀ h ∈ hosts, PlainHost h) →
      (OpenEnded text ∧ ((entries ++ fragmentEntries hosts).map Prod.fst).Nodup →
        ∃ entries', read (text ++ fragments hosts) = some (.map entries') ∧
          ∀ key ∈ ["mirrors", "configs"],
            entries'.lookup key = (entries ++ fragmentEntries hosts).lookup key) ∧
      (¬(OpenEnded text ∧ ((entries ++ fragmentEntries hosts).map Prod.fst).Nodup) →
        read (text ++ fragments hosts) = none)

/-! ## The promise -/

/-- A mirror with the endpoint `http://host`, and a config that skips the verification. -/
def HasEntries (doc : Yaml) (host : String) : Prop :=
  (∃ mirror endpoints, doc.get₂ "mirrors" host = some mirror ∧
      mirror.get "endpoint" = some (.seq endpoints) ∧ Yaml.str ("http://" ++ host) ∈ endpoints) ∧
    ∃ config, doc.get₂ "configs" host = some config ∧
      config.get₂ "tls" "insecure_skip_verify" = some (.bool true)

/-- The new file is a mapping with unique keys that has the entries of all hosts, and every entry
of a mirror or config that the old file had. -/
def Configured (Y : YamlReader) (hosts : List String) (before after : Option String) : Prop :=
  ∃ text doc, after = some text ∧ Y.read text = some doc ∧ (∀ host ∈ hosts, HasEntries doc host) ∧
    ∀ old oldDoc, before = some old → Y.read old = some oldDoc →
      ∀ name ∈ ["mirrors", "configs"], ∀ key value,
        oldDoc.get₂ name key = some value → doc.get₂ name key = some value

/-- Every host is found in the file, and has its entries. -/
def AlreadyConfigured (G : Grep) (Y : YamlReader) (hosts : List String) (file : Option String) :
    Prop :=
  ∃ text doc, file = some text ∧ Y.read text = some doc ∧
    ∀ host ∈ hosts, G.quiet host text = true ∧ HasEntries doc host

/-- Entries with the keys `mirrors` and `configs` can be appended to the file. -/
def Extensible (Y : YamlReader) (file : Option String) : Prop :=
  file = none ∨ ∃ text entries, file = some text ∧ Y.read text = some (.map entries) ∧
    Y.OpenEnded text ∧ "mirrors" ∉ entries.map Prod.fst ∧ "configs" ∉ entries.map Prod.fst

/-- There is one host, it is not found in the file, and the file can be extended. -/
def SingleNewHost (G : Grep) (Y : YamlReader) (hosts : List String) (file : Option String) : Prop :=
  ∃ host, (∀ h ∈ hosts, h = host) ∧ present G file host = false ∧ Extensible Y file

/-! ## Which hosts are appended -/

/-- The hosts that the loop appends. -/
def addedHosts (G : Grep) (file : Option String) : List String → List String
  | [] => []
  | h :: hs =>
    if present G file h then addedHosts G file hs else h :: addedHosts G (addHost G file h) hs

variable {G : Grep} {Y : YamlReader} {file : Option String} {hosts : List String} {h : String}

theorem addedHosts_of_present (hp : present G file h = true) (hs : List String) :
    addedHosts G file (h :: hs) = addedHosts G file hs := if_pos hp

theorem addedHosts_of_missing (hp : ¬present G file h = true) (hs : List String) :
    addedHosts G file (h :: hs) = h :: addedHosts G (some (file.getD "" ++ fragment h)) hs := by
  rw [addedHosts, if_neg hp, addHost, if_neg hp]

/-- The file after the loop is the file before it and the fragments of the appended hosts. -/
theorem addHosts_eq (hosts : List String) (file : Option String) :
    addHosts G file hosts =
      if addedHosts G file hosts = [] then file
      else some (file.getD "" ++ fragments (addedHosts G file hosts)) := by
  induction hosts generalizing file with
  | nil => simp [addHosts, addedHosts]
  | cons h hs ih =>
    rw [addHosts, List.foldl_cons, ← addHosts]
    by_cases hp : present G file h = true
    · rw [addHost, if_pos hp, ih, addedHosts_of_present hp]
    · rw [addHost, if_neg hp, ih, addedHosts_of_missing hp, if_neg (List.cons_ne_nil _ _)]
      by_cases hrest : addedHosts G (some (file.getD "" ++ fragment h)) hs = []
      · simp [hrest, fragments]
      · simp [hrest, fragments, String.append_assoc]

theorem addedHosts_subset (hosts : List String) (file : Option String) :
    ∀ h ∈ addedHosts G file hosts, h ∈ hosts := by
  induction hosts generalizing file with
  | nil => simp [addedHosts]
  | cons h hs ih =>
    intro x hx
    by_cases hp : present G file h = true
    · rw [addedHosts_of_present hp] at hx
      exact List.mem_cons_of_mem h (ih file x hx)
    · rw [addedHosts_of_missing hp, List.mem_cons] at hx
      rcases hx with rfl | hx
      · exact List.mem_cons_self
      · exact List.mem_cons_of_mem h (ih _ x hx)

theorem addedHosts_eq_nil_iff (hosts : List String) (file : Option String) :
    addedHosts G file hosts = [] ↔ ∀ h ∈ hosts, present G file h = true := by
  induction hosts with
  | nil => simp [addedHosts]
  | cons h hs ih =>
    by_cases hp : present G file h = true
    · simp [addedHosts_of_present hp, hp, ih]
    · simp [addedHosts_of_missing hp, hp]

/-- The first host that is appended was not in the file. -/
theorem missing_of_addedHosts {rest : List String} (hosts : List String) {file : Option String}
    (hadded : addedHosts G file hosts = h :: rest) : present G file h = false := by
  induction hosts with
  | nil => simp [addedHosts] at hadded
  | cons x xs ih =>
    by_cases hp : present G file x = true
    · rw [addedHosts_of_present hp] at hadded
      exact ih hadded
    · rw [addedHosts_of_missing hp] at hadded
      obtain ⟨rfl, -⟩ := List.cons.inj hadded
      simpa using hp

/-- What was appended is found afterwards. -/
theorem present_fragment (G : Grep) {host : String} (hhost : PlainHost host) (hne : host ≠ "")
    (text : String) : present G (some (text ++ fragment host)) host = true := by
  have hinfix : host.toList <:+: (fragment host).toList := by
    rw [toList_fragment]
    -- Its second occurrence, as the host of the endpoint.
    refine List.IsInfix.trans ?_ (List.prefix_append _ _).isInfix
    refine List.IsInfix.trans ?_ (List.prefix_append _ _).isInfix
    refine List.IsInfix.trans ?_ (List.prefix_append _ _).isInfix
    exact (List.suffix_append _ _).isInfix
  refine G.quiet_of_infix hhost.pattern (by simpa using hne) ?_
  rw [String.toList_append]
  exact hinfix.trans (List.suffix_append _ _).isInfix

/-- A single host is appended once, however often it is asked for. -/
theorem addedHosts_single (hhost : PlainHost h) (hne : h ≠ "") (hhosts : hosts ≠ [])
    (hall : ∀ x ∈ hosts, x = h) (hmissing : present G file h = false) :
    addedHosts G file hosts = [h] := by
  cases hosts with
  | nil => exact absurd rfl hhosts
  | cons x xs =>
    obtain rfl : x = h := hall x List.mem_cons_self
    rw [addedHosts_of_missing (by simp [hmissing])]
    refine congrArg _ ((addedHosts_eq_nil_iff xs _).mpr fun y hy => ?_)
    rw [hall y (List.mem_cons_of_mem _ hy)]
    exact present_fragment G hhost hne _

/-! ## Reading what was appended -/

@[simp] theorem fragmentEntries_single (h : String) : fragmentEntries [h] = hostEntries h :=
  List.append_nil _

/-- Two fragments have the same keys. -/
theorem fragmentEntries_nodup (hne : hosts ≠ [])
    (hnodup : ((fragmentEntries hosts).map Prod.fst).Nodup) : ∃ h, hosts = [h] := by
  match hosts with
  | [] => exact absurd rfl hne
  | [h] => exact ⟨h, rfl⟩
  | x :: y :: rest =>
    simp [fragmentEntries, hostEntries] at hnodup

theorem lookup_mirrors (h : String) : (hostEntries h).lookup "mirrors" = some (mirrorsOf h) := rfl

theorem lookup_configs (h : String) : (hostEntries h).lookup "configs" = some (configsOf h) := rfl

/-- The keys are unique behind entries without `mirrors` and `configs`, and only there. -/
theorem nodup_append_hostEntries {entries : List (String × Yaml)}
    (hentries : (entries.map Prod.fst).Nodup) :
    ((entries ++ hostEntries h).map Prod.fst).Nodup ↔
      "mirrors" ∉ entries.map Prod.fst ∧ "configs" ∉ entries.map Prod.fst := by
  have hkeys : (hostEntries h).map Prod.fst = ["mirrors", "configs"] := rfl
  rw [List.map_append, hkeys, List.nodup_append']
  simp [hentries]

/-- The appended file is read only if it was extensible and one host was appended; it then has the
mirrors and configs of that host and no others. -/
theorem read_appended (hvalid : ∀ text, file = some text → ∃ doc, Y.read text = some doc)
    {added : List String} (hne : added ≠ []) (hplain : ∀ x ∈ added, PlainHost x) {doc : Yaml}
    (hread : Y.read (file.getD "" ++ fragments added) = some doc) :
    Extensible Y file ∧ ∃ x, added = [x] ∧ doc.get "mirrors" = some (mirrorsOf x) ∧
      doc.get "configs" = some (configsOf x) := by
  cases hfile : file with
  | none =>
    rw [hfile, Option.getD_none, String.empty_append, Y.read_fragments hne hplain] at hread
    by_cases hnodup : ((fragmentEntries added).map Prod.fst).Nodup
    · obtain ⟨x, rfl⟩ := fragmentEntries_nodup hne hnodup
      rw [if_pos hnodup] at hread
      obtain rfl := Option.some.inj hread
      exact ⟨.inl rfl, x, rfl, rfl, rfl⟩
    · rw [if_neg hnodup] at hread
      cases hread
  | some text =>
    obtain ⟨old, hold⟩ := hvalid text hfile
    obtain ⟨entries, rfl, hentries⟩ := Y.read_map hold
    obtain ⟨hextends, hfails⟩ := Y.read_append hold hne hplain
    rw [hfile, Option.getD_some] at hread
    by_cases hopen : Y.OpenEnded text ∧ ((entries ++ fragmentEntries added).map Prod.fst).Nodup
    · obtain ⟨x, rfl⟩ := fragmentEntries_nodup hne
        (by rw [List.map_append] at hopen; exact (List.nodup_append'.mp hopen.2).2.1)
      obtain ⟨entries', hread', hlookup⟩ := hextends hopen
      obtain rfl := Option.some.inj (hread.symm.trans hread')
      rw [fragmentEntries_single] at hopen hlookup
      obtain ⟨hmirrors, hconfigs⟩ := (nodup_append_hostEntries hentries).mp hopen.2
      refine ⟨.inr ⟨text, entries, rfl, hold, hopen.1, hmirrors, hconfigs⟩, x, rfl, ?_, ?_⟩
      · rw [Yaml.get_map, hlookup _ (by simp), lookup_append_of_notMem hmirrors, lookup_mirrors]
      · rw [Yaml.get_map, hlookup _ (by simp), lookup_append_of_notMem hconfigs, lookup_configs]
    · rw [hfails hopen] at hread
      cases hread

/-- An extensible file with one fragment more has the mirrors and configs of its host. -/
theorem read_of_extensible (hhost : PlainHost h) (hext : Extensible Y file) :
    ∃ doc, Y.read (file.getD "" ++ fragments [h]) = some doc ∧
      doc.get "mirrors" = some (mirrorsOf h) ∧ doc.get "configs" = some (configsOf h) := by
  have hplain : ∀ x ∈ [h], PlainHost x := by simpa using hhost
  have hkeys : ((fragmentEntries [h]).map Prod.fst).Nodup := by
    rw [fragmentEntries_single]
    simp [hostEntries]
  rcases hext with rfl | ⟨text, entries, rfl, hread, hopen, hmirrors, hconfigs⟩
  · refine ⟨.map (hostEntries h), ?_, lookup_mirrors h, lookup_configs h⟩
    rw [Option.getD_none, String.empty_append, Y.read_fragments (List.cons_ne_nil h []) hplain,
      if_pos hkeys, fragmentEntries_single]
  · obtain ⟨entries', hmap, hentries⟩ := Y.read_map hread
    obtain rfl := Yaml.map.inj hmap
    obtain ⟨hextends, -⟩ := Y.read_append hread (List.cons_ne_nil h []) hplain
    rw [fragmentEntries_single] at hextends
    obtain ⟨new, hnew, hlookup⟩ :=
      hextends ⟨hopen, (nodup_append_hostEntries hentries).mpr ⟨hmirrors, hconfigs⟩⟩
    refine ⟨.map new, hnew, ?_, ?_⟩
    · rw [Yaml.get_map, hlookup _ (by simp), lookup_append_of_notMem hmirrors, lookup_mirrors]
    · rw [Yaml.get_map, hlookup _ (by simp), lookup_append_of_notMem hconfigs, lookup_configs]

theorem hasEntries_self {doc : Yaml} (hmirrors : doc.get "mirrors" = some (mirrorsOf h))
    (hconfigs : doc.get "configs" = some (configsOf h)) : HasEntries doc h := by
  refine ⟨⟨.map [("endpoint", .seq [.str ("http://" ++ h)])], [.str ("http://" ++ h)], ?_, rfl,
    List.mem_singleton_self _⟩,
    .map [("tls", .map [("insecure_skip_verify", .bool true)])], ?_, rfl⟩
  · rw [Yaml.get₂_of_get hmirrors]
    simp [mirrorsOf, Yaml.get]
  · rw [Yaml.get₂_of_get hconfigs]
    simp [configsOf, Yaml.get]

/-- The mirrors of one host have no entry for another. -/
theorem eq_of_hasEntries {doc : Yaml} {x : String}
    (hmirrors : doc.get "mirrors" = some (mirrorsOf h)) (hx : HasEntries doc x) : x = h := by
  obtain ⟨⟨mirror, endpoints, hmirror, -⟩, -⟩ := hx
  rw [Yaml.get₂_of_get hmirrors] at hmirror
  by_contra hne
  have hbeq : (x == h) = false := by simpa using hne
  simp [mirrorsOf, Yaml.get, List.lookup_cons, hbeq] at hmirror

/-! ## When the promise is kept -/

theorem configured_addHosts_iff (hne : hosts ≠ []) (hplain : ∀ x ∈ hosts, PlainHost x)
    (htext : ∀ x ∈ hosts, x ≠ "")
    (hvalid : ∀ text, file = some text → ∃ doc, Y.read text = some doc) :
    Configured Y hosts file (addHosts G file hosts) ↔
      AlreadyConfigured G Y hosts file ∨ SingleNewHost G Y hosts file := by
  constructor
  · intro h
    obtain ⟨text, doc, hafter, hread, hentries, -⟩ := h
    rw [addHosts_eq] at hafter
    by_cases hadded : addedHosts G file hosts = []
    · rw [if_pos hadded] at hafter
      have hpresent := (addedHosts_eq_nil_iff hosts file).mp hadded
      rw [hafter] at hpresent
      exact .inl ⟨text, doc, hafter, hread, fun x hx => ⟨hpresent x hx, hentries x hx⟩⟩
    · rw [if_neg hadded] at hafter
      obtain rfl := Option.some.inj hafter
      obtain ⟨hext, x, hx, hmirrors, -⟩ := read_appended hvalid hadded
        (fun y hy => hplain y (addedHosts_subset hosts file y hy)) hread
      exact .inr ⟨x, fun y hy => eq_of_hasEntries hmirrors (hentries y hy),
        missing_of_addedHosts hosts hx, hext⟩
  · intro h
    rcases h with ⟨text, doc, hfile, hread, hall⟩ | ⟨x, hsingle, hmissing, hext⟩
    · have hadded : addedHosts G file hosts = [] :=
        (addedHosts_eq_nil_iff hosts file).mpr fun y hy => by
          rw [hfile]
          exact (hall y hy).1
      rw [addHosts_eq, if_pos hadded]
      refine ⟨text, doc, hfile, hread, fun y hy => (hall y hy).2, ?_⟩
      intro old oldDoc hold holdDoc name _ key value hvalue
      obtain rfl : text = old := Option.some.inj (hfile.symm.trans hold)
      obtain rfl : doc = oldDoc := Option.some.inj (hread.symm.trans holdDoc)
      exact hvalue
    · obtain ⟨y, hy⟩ := List.exists_mem_of_ne_nil hosts hne
      obtain rfl := hsingle y hy
      have hadded := addedHosts_single (hplain y hy) (htext y hy) hne hsingle hmissing
      obtain ⟨doc, hread, hmirrors, hconfigs⟩ := read_of_extensible (hplain y hy) hext
      rw [addHosts_eq, if_neg (by simp [hadded]), hadded]
      refine ⟨_, doc, rfl, hread, fun z hz => ?_, ?_⟩
      · rw [hsingle z hz]
        exact hasEntries_self hmirrors hconfigs
      · -- The old file had neither key.
        intro old oldDoc hold holdDoc name hname key value hvalue
        rcases hext with hnone | ⟨text, entries, hfile, hentries, -, hnoMirrors, hnoConfigs⟩
        · rw [hnone] at hold
          cases hold
        · obtain rfl : text = old := Option.some.inj (hfile.symm.trans hold)
          obtain rfl := Option.some.inj (hentries.symm.trans holdDoc)
          have hnotMem : name ∉ entries.map Prod.fst := by
            simp only [List.mem_cons, List.not_mem_nil, or_false] at hname
            rcases hname with rfl | rfl
            · exact hnoMirrors
            · exact hnoConfigs
          have habsent : (Yaml.map entries).get name = none := lookup_of_notMem hnotMem
          rw [Yaml.get₂_of_absent habsent] at hvalue
          cases hvalue

theorem host_ne_empty (port ip : Address) : host port ip ≠ "" := by
  intro h
  have hlist := congrArg String.toList h
  rw [host, String.toList_append, String.toList_append] at hlist
  simp at hlist

/-- The function's effect on the file is that of the loop. -/
theorem configureRegistriesYaml_file (args : List Address) (s : Sh) :
    ((configureRegistriesYaml G (registryIps args) (nodePort args)).run
      false s).1.node.registries = addHosts G s.node.registries (requestedHosts args) := by
  rw [configureRegistriesYaml_run]
  rfl

/-- **When `registries.yaml` is configured.** After `configure_registries_yaml` the file is a
mapping with unique keys that has the entries of all requested hosts and has kept the old ones,
exactly when all hosts were found in the file and had their entries, or when there is a single host,
it is not found, and the file is absent or a block mapping without the keys `mirrors` and
`configs`. -/
theorem configured_iff (G : Grep) (Y : YamlReader) (args : List Address) (s : Sh)
    (hvalid : ∀ text, s.node.registries = some text → ∃ doc, Y.read text = some doc) :
    Configured Y (requestedHosts args) s.node.registries
        ((configureRegistriesYaml G (registryIps args) (nodePort args)).run
          false s).1.node.registries ↔
      AlreadyConfigured G Y (requestedHosts args) s.node.registries ∨
        SingleNewHost G Y (requestedHosts args) s.node.registries := by
  rw [configureRegistriesYaml_file]
  refine configured_addHosts_iff ?_ (fun x hx => plainHost_requested hx) (fun x hx => ?_) hvalid
  · exact fun hnil => registryIps_ne_nil args (List.map_eq_nil_iff.mp hnil)
  · obtain ⟨ip, -, rfl⟩ := List.mem_map.mp hx
    exact host_ne_empty _ ip

/-! ## A reader of fragments -/

namespace Sample

/-- The host in a text that begins like a fragment. -/
def hostOf (text : String) : String :=
  String.ofList ((text.toList.drop 13).takeWhile (· ≠ '"'))

/-- Reads a single fragment. -/
def readFragment (text : String) : Option Yaml :=
  if text = fragment (hostOf text) ∧ '\n' ∉ (hostOf text).toList then
    some (.map (hostEntries (hostOf text)))
  else none

theorem notMem_of_plainHost {h : String} (hh : PlainHost h) {c : Char}
    (hc : ¬(c.isAlphanum = true ∨ c = '.' ∨ c = ':')) : c ∉ h.toList :=
  fun hmem => hc (hh c hmem)

theorem hostOf_fragment {h : String} (hh : PlainHost h) : hostOf (fragment h) = h := by
  have hquote : ∀ c ∈ h.toList, decide (c ≠ '"') = true := by
    intro c hc
    have hne : c ≠ '"' := by
      intro heq
      exact notMem_of_plainHost hh (by decide) (heq ▸ hc)
    simpa using hne
  have hdrop : ∀ rest : List Char, ("\nmirrors:\n  \"".toList ++ rest).drop 13 = rest :=
    fun rest => List.drop_left' (by decide)
  rw [hostOf, toList_fragment, ← String.toList_inj, String.toList_ofList]
  simp only [List.append_assoc]
  rw [hdrop, List.takeWhile_append_of_pos hquote]
  exact List.append_nil _

theorem count_fragment {h : String} (hh : '\n' ∉ h.toList) :
    (fragment h).toList.count '\n' = 9 := by
  have hhead : ("\nmirrors:\n  \"".toList).count '\n' = 2 := by decide
  have hmirror : ("\":\n    endpoint:\n      - \"http://".toList).count '\n' = 2 := by decide
  have hconfigs : ("\"\nconfigs:\n  \"".toList).count '\n' = 2 := by decide
  have htls : ("\":\n    tls:\n      insecure_skip_verify: true\n".toList).count '\n' = 3 := by
    decide
  have hzero : h.toList.count '\n' = 0 := List.count_eq_zero.mpr hh
  rw [toList_fragment]
  simp only [List.count_append]
  rw [hhead, hmirror, hconfigs, htls, hzero]

theorem count_fragments {hosts : List String} (hplain : ∀ h ∈ hosts, PlainHost h) :
    (fragments hosts).toList.count '\n' = 9 * hosts.length := by
  induction hosts with
  | nil => rfl
  | cons h hs ih =>
    have hh : '\n' ∉ h.toList := notMem_of_plainHost (hplain h List.mem_cons_self) (by decide)
    rw [fragments, String.toList_append, List.count_append, count_fragment hh,
      ih fun x hx => hplain x (List.mem_cons_of_mem h hx), List.length_cons]
    omega

theorem readFragment_eq_some {text : String} {doc : Yaml} (h : readFragment text = some doc) :
    text.toList.count '\n' = 9 ∧ ∃ host, doc = .map (hostEntries host) := by
  unfold readFragment at h
  by_cases htext : text = fragment (hostOf text) ∧ '\n' ∉ (hostOf text).toList
  · rw [if_pos htext] at h
    refine ⟨?_, hostOf text, (Option.some.inj h).symm⟩
    rw [htext.1]
    exact count_fragment htext.2
  · rw [if_neg htext] at h
    cases h

theorem readFragment_append {text : String} {doc : Yaml} (h : readFragment text = some doc)
    {hosts : List String} (hne : hosts ≠ []) (hplain : ∀ x ∈ hosts, PlainHost x) :
    readFragment (text ++ fragments hosts) = none := by
  cases hread : readFragment (text ++ fragments hosts) with
  | none => rfl
  | some doc' =>
    have hcount := (readFragment_eq_some hread).1
    have hpos := List.length_pos_of_ne_nil hne
    rw [String.toList_append, List.count_append, (readFragment_eq_some h).1,
      count_fragments hplain] at hcount
    omega

theorem readFragment_fragments {hosts : List String} (hne : hosts ≠ [])
    (hplain : ∀ h ∈ hosts, PlainHost h) :
    readFragment (fragments hosts) =
      if ((fragmentEntries hosts).map Prod.fst).Nodup then some (.map (fragmentEntries hosts))
      else none := by
  by_cases hnodup : ((fragmentEntries hosts).map Prod.fst).Nodup
  · obtain ⟨h, rfl⟩ := fragmentEntries_nodup hne hnodup
    have hh := hplain h List.mem_cons_self
    have htext : fragments [h] = fragment h := String.append_empty
    rw [if_pos hnodup, htext, readFragment, hostOf_fragment hh, fragmentEntries_single,
      if_pos ⟨rfl, notMem_of_plainHost hh (by decide)⟩]
  · rw [if_neg hnodup]
    cases hread : readFragment (fragments hosts) with
    | none => rfl
    | some doc =>
      have hcount := (readFragment_eq_some hread).1
      rw [count_fragments hplain] at hcount
      obtain ⟨h, rfl⟩ := List.length_eq_one_iff.mp (show hosts.length = 1 by omega)
      rw [fragmentEntries_single] at hnodup
      exact absurd (by simp [hostEntries]) hnodup

/-- A reader that knows the file of a single registry. -/
def reader : YamlReader where
  read := readFragment
  OpenEnded _ := True
  read_map h := by
    obtain ⟨-, host, rfl⟩ := readFragment_eq_some h
    exact ⟨_, rfl, by simp [hostEntries]⟩
  read_fragments := readFragment_fragments
  read_append {text entries hosts} h hne hplain := by
    refine ⟨fun hopen => ?_, fun _ => readFragment_append h hne hplain⟩
    -- The file has the keys of the fragments.
    obtain ⟨-, host, hentries⟩ := readFragment_eq_some h
    obtain rfl := Yaml.map.inj hentries
    obtain ⟨x, rfl⟩ := fragmentEntries_nodup hne
      (by rw [List.map_append] at hopen; exact (List.nodup_append'.mp hopen.2).2.1)
    exact absurd hopen.2 (by simp [hostEntries])

theorem reader_fragment {h : String} (hh : PlainHost h) :
    reader.read (fragment h) = some (.map (hostEntries h)) := by
  show readFragment (fragment h) = _
  rw [readFragment, hostOf_fragment hh, if_pos ⟨rfl, notMem_of_plainHost hh (by decide)⟩]

/-- A node on which the script has not run. -/
def newNode : Node := { node with registries := none }

end Sample

/-- One address, on a node that has its entries, and on one without the file. -/
theorem configured_iff_sample :
    Configured Sample.reader (requestedHosts Sample.arguments) Sample.node.registries
        ((configureRegistriesYaml Grep.literal (registryIps Sample.arguments)
          (nodePort Sample.arguments)).run
          false { node := Sample.node, vars := {} }).1.node.registries ∧
      Configured Sample.reader (requestedHosts Sample.arguments) none
        ((configureRegistriesYaml Grep.literal (registryIps Sample.arguments)
          (nodePort Sample.arguments)).run
          false { node := Sample.newNode, vars := {} }).1.node.registries := by
  have hplain : PlainHost "10.0.0.5:32000" :=
    plainHost_requested (show _ ∈ requestedHosts Sample.arguments by decide)
  have hhost : ∀ h ∈ requestedHosts Sample.arguments, h = "10.0.0.5:32000" := by decide
  have hread := Sample.reader_fragment hplain
  constructor
  · refine (configured_iff Grep.literal Sample.reader Sample.arguments
      { node := Sample.node, vars := {} } fun text htext => ?_).mpr
      (.inl ⟨_, _, rfl, hread, fun h hh => ?_⟩)
    · obtain rfl := Option.some.inj htext
      exact ⟨_, hread⟩
    · rw [hhost h hh]
      exact ⟨by decide +kernel, hasEntries_self rfl rfl⟩
  · exact (configured_iff Grep.literal Sample.reader Sample.arguments
      { node := Sample.newNode, vars := {} } (fun _ htext => by cases htext)).mpr
      (.inr ⟨_, hhost, rfl, .inl rfl⟩)

/-- With the two default addresses the new file has the keys `mirrors` and `configs` twice. -/
theorem not_configured_default :
    ¬Configured Sample.reader (requestedHosts []) none
      ((configureRegistriesYaml Grep.literal (registryIps []) (nodePort [])).run
        false { node := Sample.newNode, vars := {} }).1.node.registries := by
  rw [configureRegistriesYaml_file]
  show ¬Configured _ _ none (addHosts _ none (requestedHosts []))
  rw [configured_addHosts_iff (by decide) (fun x hx => plainHost_requested hx) (by decide)
    (fun _ h => by cases h)]
  rintro (⟨text, doc, hfile, -⟩ | ⟨x, hall, -⟩)
  · cases hfile
  · have hfirst := hall "192.168.1.110:32000" (by decide)
    have hsecond := hall "100.69.236.43:32000" (by decide)
    exact absurd (hfirst.trans hsecond.symm) (by decide)

end SampleGrpc.SetupRegistry
