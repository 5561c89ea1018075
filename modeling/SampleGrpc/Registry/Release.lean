import SampleGrpc.Interaction.History
import SampleGrpc.Registry.Prune
import SampleGrpc.Shell.Grep

/-!
# Releases

The targets of the Makefile that build, pin, deploy and prune images, as steps of one machine: the
registry, the two manifests, and what the cluster runs. `docker-build` pushes a version and
`latest`, then pins the version in the manifest with `sed`; `registry-prune` reads the pinned
version back with `grep` and `cut`.

* `Manifest.pin_lines`, `Manifest.deployedTag_lines` — pinning replaces the tag, and
  `registry-prune` reads it back.
* `Available.prune_iff` — pruning keeps one version of those there are.
* `release_keeps_running` — over a run of releases, what the cluster runs can be pulled.
-/

namespace SampleGrpc.Release

/-! ## Pinning -/

/-- `sed "s|pat.*|rep|"` on a line: the leftmost match, and all that follows it. -/
def sedLine (pat rep : List Char) : List Char → List Char
  | [] => if matchesHere pat [] then rep else []
  | c :: cs => if matchesHere pat (c :: cs) then rep else c :: sedLine pat rep cs

/-- `sed -i "s|pat.*|rep|" file` -/
def sedInPlace (pat rep : List Char) (file : List String) : List String :=
  file.map fun line => String.ofList (sedLine pat rep line.toList)

theorem sedLine_of_unmatched {pat rep line : List Char} (h : matchesLine pat line = false) :
    sedLine pat rep line = line := by
  induction line with
  | nil =>
    have hnil : matchesHere pat [] = false := by simpa [matchesLine] using h
    simp [sedLine, hnil]
  | cons c cs ih =>
    simp only [matchesLine, List.tails_cons, List.any_cons, Bool.or_eq_false_iff] at h
    rw [sedLine, h.1, ih h.2]
    rfl

/-- A character that is not the first of a pattern starts no match. -/
theorem matchesHere_cons_of_ne {p c : Char} {ps cs : List Char} (hdot : p ≠ '.') (hc : p ≠ c) :
    matchesHere (p :: ps) (c :: cs) = false := by
  simp [matchesHere, hdot, hc]

/-- The pattern is found where it first stands, and the rest of the line is replaced. -/
theorem sedLine_append {p : Char} {ps rep : List Char} (pre rest : List Char) (hdot : p ≠ '.')
    (hpre : p ∉ pre) : sedLine (p :: ps) rep (pre ++ (p :: ps ++ rest)) = pre ++ rep := by
  induction pre with
  | nil =>
    have hmatch := matchesHere_append (p :: ps) rest
    rw [List.nil_append, List.cons_append, sedLine, ← List.cons_append, hmatch]
    rfl
  | cons c pre ih =>
    have hc : p ≠ c := fun h => hpre (h ▸ List.mem_cons_self)
    rw [List.cons_append, sedLine, matchesHere_cons_of_ne hdot hc,
      ih fun h => hpre (List.mem_cons_of_mem c h)]
    rfl

/-- `grep -o` finds the image name where its first character first stands. -/
theorem grepImage_append {p : Char} {ps : List Char} (pre rest : List Char) (hpre : p ∉ pre) :
    grepImage (p :: ps) (pre ++ (p :: ps ++ rest)) = grepImage (p :: ps) (p :: ps ++ rest) := by
  induction pre with
  | nil => rfl
  | cons c pre ih =>
    have hc : ¬ c = p := fun h => hpre (h ▸ List.mem_cons_self)
    have hnone : matchImage (p :: ps) (c :: (pre ++ (p :: ps ++ rest))) = none := by
      simp [matchImage, List.dropPrefix?, hc]
    rw [List.cons_append, grepImage, hnone, Option.none_or,
      ih fun h => hpre (List.mem_cons_of_mem c h)]

/-- The match goes on to the next blank. -/
theorem grepImage_self {p : Char} {ps rest : List Char} (hblank : ' ' ∉ rest) (hne : rest ≠ []) :
    grepImage (p :: ps) (p :: ps ++ rest) = some (p :: ps ++ rest) := by
  have hdrop : (p :: ps ++ rest).dropPrefix? (p :: ps) = some rest :=
    List.dropPrefix?_append_of_beq rest (beq_self_eq_true _)
  have htail : rest.takeWhile (· ≠ ' ') = rest := by
    refine List.takeWhile_eq_self_iff.mpr fun c hc => ?_
    have hc' : c ≠ ' ' := fun h => hblank (h ▸ hc)
    simp [hc']
  have hmatch : matchImage (p :: ps) (p :: ps ++ rest) = some (p :: ps ++ rest) := by
    simp only [matchImage, hdrop, htail, if_neg hne]
  rw [List.cons_append, grepImage, ← List.cons_append, hmatch]
  rfl

/-! ## Manifests -/

def tagChar (c : Char) : Bool := c.isAlphanum || c == '_' || c == '.' || c == '-'

/-- A tag, as the registry allows it. -/
structure IsTag (tag : String) : Prop where
  ne_empty : tag.toList ≠ []
  chars : tag.toList.all tagChar = true

theorem IsTag.notMem {tag : String} (h : IsTag tag) {c : Char} (hc : tagChar c = false) :
    c ∉ tag.toList := by
  intro hmem
  rw [List.all_eq_true.mp h.chars c hmem] at hc
  cases hc

theorem isTag_latest : IsTag "latest" := ⟨by decide, by decide⟩

/-- A tag that `docker-build` makes of a version and a commit. -/
structure VersionTag (tag : String) : Prop extends IsTag tag where
  ne_latest : tag ≠ "latest"

/-- What stands for itself in the pattern and in the replacement of `sed "s|pat|rep|"`. -/
def sedChar (c : Char) : Bool := (Ordinary c ∨ c = '.') ∧ c ≠ '|' ∧ c ≠ '&'

/-- A manifest as `generate-k8s` renders it: one line names the image, on the registry `host`, and
`sed` and `grep` look past the others. -/
structure Manifest where
  image : String
  host : List Char
  indent : List Char
  before : List String
  after : List String
  image_ne : image.toList ≠ []
  host_ne : host ≠ []
  plain : (host ++ image.toList).all sedChar = true
  noColon : ':' ∉ image.toList
  image_head : image.toList.head?.all (· ∉ indent ++ host ++ ['/']) = true
  host_head : host.head?.all (fun c => c ≠ '.' ∧ c ∉ indent) = true
  unpinned : ∀ line ∈ before ++ after,
    matchesLine (host ++ '/' :: image.toList ++ [':']) line.toList = false
  unnamed : ∀ line ∈ before, grepImage (image ++ ":").toList line.toList = none

namespace Manifest

variable (M : Manifest)

/-- `$(IMAGE):` -/
def pattern : List Char := M.host ++ '/' :: M.image.toList ++ [':']

def imageLine (tag : String) : String := String.ofList (M.indent ++ (M.pattern ++ tag.toList))

/-- The file, with the image at `tag`. -/
def lines (tag : String) : List String := M.before ++ M.imageLine tag :: M.after

/-- `sed -i "s|$(IMAGE):.*|$(IMAGE):tag|" file` -/
def pin (tag : String) (file : List String) : List String :=
  sedInPlace M.pattern (M.pattern ++ tag.toList) file

theorem sedLine_imageLine (rep : List Char) (tag : String) :
    sedLine M.pattern rep (M.imageLine tag).toList = M.indent ++ rep := by
  obtain ⟨c, cs, hhost⟩ := List.exists_cons_of_ne_nil M.host_ne
  have hhead := M.host_head
  rw [hhost, List.head?_cons, Option.all_some, decide_eq_true_eq] at hhead
  have hpattern : M.pattern = c :: (cs ++ '/' :: M.image.toList ++ [':']) := by
    simp [pattern, hhost]
  rw [imageLine, String.toList_ofList, hpattern]
  exact sedLine_append _ _ hhead.1 hhead.2

/-- **Pinning a manifest replaces its tag** and nothing else. -/
theorem pin_lines (tag tag' : String) : M.pin tag' (M.lines tag) = M.lines tag' := by
  have hother (file : List String) (hfile : ∀ line ∈ file, line ∈ M.before ++ M.after) :
      sedInPlace M.pattern (M.pattern ++ tag'.toList) file = file := by
    refine (List.map_congr_left fun line hline => ?_).trans (List.map_id file)
    have hsame : sedLine M.pattern (M.pattern ++ tag'.toList) line.toList = line.toList :=
      sedLine_of_unmatched (M.unpinned line (hfile line hline))
    rw [hsame, String.ofList_toList]
    rfl
  have happend (xs ys : List String) (line : String) (rep : List Char) :
      sedInPlace M.pattern rep (xs ++ line :: ys) = sedInPlace M.pattern rep xs ++
        String.ofList (sedLine M.pattern rep line.toList) :: sedInPlace M.pattern rep ys := by
    simp [sedInPlace]
  rw [pin, lines, happend, sedLine_imageLine, hother _ fun _ => List.mem_append_left _,
    hother _ fun _ => List.mem_append_right _]
  rfl

/-- **The tag in a manifest is what `registry-prune` reads.** -/
theorem deployedTag_lines {tag : String} (htag : IsTag tag) :
    deployedTag M.image (M.lines tag) = tag := by
  obtain ⟨c, cs, himage⟩ := List.exists_cons_of_ne_nil M.image_ne
  have hhead := M.image_head
  rw [himage, List.head?_cons, Option.all_some, decide_eq_true_eq] at hhead
  have hname : (M.image ++ ":").toList = c :: (cs ++ [':']) := by simp [himage]
  have hline : (M.imageLine tag).toList =
      (M.indent ++ M.host ++ ['/']) ++ (c :: (cs ++ [':']) ++ tag.toList) := by
    simp [imageLine, pattern, himage]
  have hgrep : grepImage (M.image ++ ":").toList (M.imageLine tag).toList =
      some (M.image.toList ++ ':' :: tag.toList) := by
    have hblank : ' ' ∉ tag.toList := htag.notMem (by decide)
    rw [hname, hline, grepImage_append _ _ hhead, grepImage_self hblank htag.ne_empty]
    simp [himage]
  have hfind : (M.lines tag).findSome? (fun line =>
      grepImage (M.image ++ ":").toList line.toList) =
      some (M.image.toList ++ ':' :: tag.toList) := by
    have hnone : M.before.findSome? (fun line =>
        grepImage (M.image ++ ":").toList line.toList) = none :=
      List.findSome?_eq_none_iff.mpr M.unnamed
    rw [lines, List.findSome?_append, hnone, Option.none_or, List.findSome?_cons, hgrep]
  rw [deployedTag, hfind]
  show String.ofList (cutField2 (M.image.toList ++ ':' :: tag.toList)) = tag
  rw [cutField2_append_colon M.noColon (htag.notMem (by decide)), String.ofList_toList]

end Manifest

/-! ## The registry -/

abbrev Digest := { d : String // d ≠ "" }

/-- Push a manifest under a tag. -/
def push (digest : Digest) (r : Repository) (tag : String) : Repository where
  tags := r.tags.filter (fun p => p.1 ≠ tag) ++ [(tag, digest.1)]
  nodup := by
    rw [List.map_append, List.nodup_append]
    refine ⟨r.nodup.sublist (List.filter_sublist.map Prod.fst), List.nodup_singleton _, ?_⟩
    intro name hname name' hname' heq
    obtain ⟨p, hp, rfl⟩ := List.mem_map.mp hname
    have hne := (List.mem_filter.mp hp).2
    simp only [List.map_cons, List.map_nil, List.mem_singleton] at hname'
    simp [heq, hname'] at hne
  digest_ne := by
    intro p hp
    rcases List.mem_append.mp hp with hp | hp
    · exact r.digest_ne p (List.mem_filter.mp hp).1
    · rw [List.mem_singleton.mp hp]
      exact digest.2

theorem mem_push {digest : Digest} {r : Repository} {tag : String} {p : String × String} :
    p ∈ (push digest r tag).tags ↔ (p ∈ r.tags ∧ p.1 ≠ tag) ∨ p = (tag, digest.1) := by
  simp [push]

/-- The tag can be pulled. -/
def Available (r : Repository) (tag : String) : Prop := ∃ d, (tag, d) ∈ r.tags

theorem Available.push {r : Repository} {tag : String} (h : Available r tag) (digest : Digest)
    (tag' : String) : Available (push digest r tag') tag := by
  obtain ⟨d, hd⟩ := h
  by_cases heq : tag = tag'
  · exact ⟨digest.1, mem_push.mpr (.inr (by rw [heq]))⟩
  · exact ⟨d, mem_push.mpr (.inl ⟨hd, heq⟩)⟩

theorem Available.pushAll {r : Repository} {tag : String} (h : Available r tag) (digest : Digest)
    (tags : List String) : Available (tags.foldl (Release.push digest) r) tag := by
  induction tags generalizing r with
  | nil => exact h
  | cons tag' tags ih => exact ih (h.push digest tag')

/-- Two tags with one digest are one, or one of them is `latest`. -/
def OnePerBuild (r : Repository) : Prop :=
  ∀ p ∈ r.tags, ∀ q ∈ r.tags, p.2 = q.2 → p.1 = q.1 ∨ p.1 = "latest" ∨ q.1 = "latest"

/-- The tags that have the digest already are `tag` and `latest`. -/
def Fresh (r : Repository) (tag : String) (digest : Digest) : Prop :=
  ∀ p ∈ r.tags, p.2 = digest.1 → p.1 = tag ∨ p.1 = "latest"

instance (r : Repository) : Decidable (OnePerBuild r) := by unfold OnePerBuild; infer_instance

instance (r : Repository) (tag : String) (digest : Digest) : Decidable (Fresh r tag digest) := by
  unfold Fresh
  infer_instance

theorem Fresh.push {r : Repository} {tag : String} {digest : Digest} (h : Fresh r tag digest)
    {tag' : String} (htag' : tag' = tag ∨ tag' = "latest") :
    Fresh (push digest r tag') tag digest := by
  intro p hp hd
  rcases mem_push.mp hp with ⟨hp, -⟩ | rfl
  · exact h p hp hd
  · exact htag'

theorem OnePerBuild.push {r : Repository} {tag : String} {digest : Digest} (h : OnePerBuild r)
    (hfresh : Fresh r tag digest) {tag' : String} (htag' : tag' = tag ∨ tag' = "latest") :
    OnePerBuild (push digest r tag') := by
  intro p hp q hq hd
  rcases mem_push.mp hp with ⟨hp, -⟩ | rfl <;> rcases mem_push.mp hq with ⟨hq, -⟩ | rfl
  · exact h p hp q hq hd
  · rcases hfresh p hp hd with hp' | hp' <;> rcases htag' with htag' | htag' <;> simp [hp', htag']
  · rcases hfresh q hq hd.symm with hq' | hq' <;> rcases htag' with htag' | htag' <;>
      simp [hq', htag']
  · exact .inl rfl

theorem OnePerBuild.pushAll {r : Repository} {tag : String} {digest : Digest} (h : OnePerBuild r)
    (hfresh : Fresh r tag digest) {tags : List String}
    (htags : ∀ tag' ∈ tags, tag' = tag ∨ tag' = "latest") :
    OnePerBuild (tags.foldl (Release.push digest) r) := by
  induction tags generalizing r with
  | nil => exact h
  | cons tag' tags ih =>
    have htag' := htags tag' List.mem_cons_self
    refine ih (h.push hfresh htag') (hfresh.push htag') fun t ht => ?_
    exact htags t (List.mem_cons_of_mem _ ht)

theorem available_pushAll {digest : Digest} {tag : String} {tags : List String} (h : tag ∈ tags)
    (r : Repository) : Available (tags.foldl (push digest) r) tag := by
  induction tags generalizing r with
  | nil => simp at h
  | cons tag' tags ih =>
    by_cases hrest : tag ∈ tags
    · exact ih hrest _
    · obtain rfl : tag = tag' := (List.mem_cons.mp h).resolve_right hrest
      have hpushed : Available (push digest r tag) tag := ⟨digest.1, mem_push.mpr (.inr rfl)⟩
      exact hpushed.pushAll digest tags

/-- **Pruning keeps one version**: of the versions there are, the one it is told to keep. -/
theorem Available.prune_iff {r : Repository} {tag keep : String} (h : Available r tag)
    (hone : OnePerBuild r) (hlatest : tag ≠ "latest") :
    Available (pruneRepo keep r) tag ↔ tag = keep := by
  have hentries : (pruneRepo keep r).tags = (r.store.sweep (staleTag keep)).entries := by
    rw [← pruneRepo_store]
    rfl
  have hkept (d : String) : (tag, d) ∈ (pruneRepo keep r).tags ↔ (tag, d) ∈ r.tags ∧
      ∀ q ∈ r.tags, staleTag keep q.1 = true → q.2 ≠ d := by
    rw [hentries]
    exact NamedStore.sweep_entries
  constructor
  · rintro ⟨d, hd⟩
    by_contra hne
    have hstale : staleTag keep tag = true := by simp [staleTag, hlatest, hne]
    exact ((hkept d).mp hd).2 (tag, d) ((hkept d).mp hd).1 hstale rfl
  · rintro rfl
    obtain ⟨d, hd⟩ := h
    refine ⟨d, (hkept d).mpr ⟨hd, fun q hq hstale hsame => ?_⟩⟩
    simp only [staleTag, decide_eq_true_eq, not_or] at hstale
    rcases hone q hq (tag, d) hd hsame with h | h | h
    · exact hstale.2 h
    · exact hstale.1 h
    · exact hlatest h

theorem OnePerBuild.prune {r : Repository} (h : OnePerBuild r) (keep : String) :
    OnePerBuild (pruneRepo keep r) := by
  have hsub : ∀ p ∈ (pruneRepo keep r).tags, p ∈ r.tags := by
    intro p hp
    have hp' : p ∈ (pruneRepo keep r).store.entries := hp
    rw [pruneRepo_store] at hp'
    exact (NamedStore.sweep_entries.mp hp').1
  exact fun p hp q hq => h p (hsub p hp) q (hsub q hq)

/-! ## The targets -/

inductive App where
  | backend
  | web
  deriving DecidableEq

/-- The two manifests of the project. -/
structure Project where
  manifest : App → Manifest
  backend_image : (manifest .backend).image = imageName
  web_image : (manifest .web).image = webImageName

/-- What the targets read and write. -/
structure State where
  registry : Registry
  file : App → List String
  applied : App → Option (List String)

/-- `docker buildx build --push`: both tags are pushed, or the command fails, having pushed some. -/
inductive Outcome where
  | done
  | failed (tagged latest : Bool)
  deriving DecidableEq

def Outcome.pushed (tag : String) : Outcome → List String
  | .done => [tag, "latest"]
  | .failed tagged latest => (if tagged then [tag] else []) ++ if latest then ["latest"] else []

inductive Target where
  /-- `docker-build` and `web-docker-build` -/
  | dockerBuild (app : App) (tag : String) (digest : Digest) (outcome : Outcome)
  /-- `deploy` and `web-deploy` -/
  | deploy (app : App)
  | deployAll
  | generateK8s
  | registryPrune

variable (P : Project)

def Project.image (app : App) : String := (P.manifest app).image

/-- The recipes. `make` stops at the first line that fails. -/
def Target.run (c : State) : Target → State
  | .dockerBuild app tag digest outcome =>
    { c with
      registry := Function.update c.registry (P.image app)
        ((outcome.pushed tag).foldl (push digest) (c.registry (P.image app)))
      file := if outcome = .done
        then Function.update c.file app ((P.manifest app).pin tag (c.file app)) else c.file }
  | .deploy app => { c with applied := Function.update c.applied app (some (c.file app)) }
  | .deployAll => { c with applied := fun app => some (c.file app) }
  | .generateK8s => { c with file := fun app => (P.manifest app).lines "latest" }
  | .registryPrune =>
    { c with registry := SampleGrpc.registryPrune c.registry (c.file .backend) (c.file .web) }

/-! ## What the targets keep -/

def Project.fileTag (app : App) (c : State) : String := deployedTag (P.image app) (c.file app)

/-- The tag an applied manifest names. -/
def Project.liveTag (app : App) (c : State) : Option String :=
  (c.applied app).map (deployedTag (P.image app))

/-- Every image the cluster runs can be pulled. -/
def Project.Pullable (c : State) : Prop :=
  ∀ app, ∀ tag ∈ P.liveTag app c, Available (c.registry (P.image app)) tag

/-- The pinned version is the one that runs. -/
def Project.InStep (c : State) : Prop := ∀ app, ∀ tag ∈ P.liveTag app c, tag = P.fileTag app c

/-- What the recipes leave to the user: a build makes a version and has a digest of its own, what
is deployed is pinned, and pruning waits until it is deployed. -/
def Project.Careful (c : State) : Target → Prop
  | .dockerBuild app tag digest _ => VersionTag tag ∧ Fresh (c.registry (P.image app)) tag digest
  | .deploy app => P.fileTag app c ≠ "latest"
  | .deployAll => ∀ app, P.fileTag app c ≠ "latest"
  | .generateK8s => True
  | .registryPrune => P.InStep c

/-- The invariant of a release: the manifests are on `latest` or on a version that can be pulled,
and what runs is a version that can be pulled. -/
structure Project.Sound (c : State) : Prop where
  one : ∀ app, OnePerBuild (c.registry (P.image app))
  file : ∀ app, ∃ tag, c.file app = (P.manifest app).lines tag ∧
    (tag = "latest" ∨ VersionTag tag ∧ Available (c.registry (P.image app)) tag)
  live : ∀ app, ∀ tag ∈ P.liveTag app c,
    VersionTag tag ∧ Available (c.registry (P.image app)) tag

/-- Before the first release: the manifests are as `generate-k8s` renders them, nothing runs. -/
structure Project.Unreleased (c : State) : Prop where
  one : ∀ app, OnePerBuild (c.registry (P.image app))
  file : ∀ app, c.file app = (P.manifest app).lines "latest"
  applied : ∀ app, c.applied app = none

variable {P}

theorem Outcome.mem_pushed {outcome : Outcome} {tag tag' : String}
    (h : tag' ∈ outcome.pushed tag) : tag' = tag ∨ tag' = "latest" := by
  cases outcome with
  | done => simpa [pushed] using h
  | failed tagged latest =>
    rcases List.mem_append.mp h with h | h
    · exact .inl (by simpa using (List.mem_ite_nil_right.mp h).2)
    · exact .inr (by simpa using (List.mem_ite_nil_right.mp h).2)

theorem Project.image_injective : Function.Injective P.image := by
  have hne : P.image .backend ≠ P.image .web := by
    rw [image, image, P.backend_image, P.web_image]
    decide
  intro app app' h
  cases app <;> cases app'
  · rfl
  · exact (hne h).elim
  · exact (hne h.symm).elim
  · rfl

theorem registry_dockerBuild (c : State) (app app' : App) (tag : String) (digest : Digest)
    (outcome : Outcome) :
    ((Target.dockerBuild app tag digest outcome).run P c).registry (P.image app') =
      if app' = app then (outcome.pushed tag).foldl (push digest) (c.registry (P.image app))
      else c.registry (P.image app') := by
  by_cases happ : app' = app
  · rw [happ, if_pos rfl]
    exact Function.update_self ..
  · rw [if_neg happ]
    exact Function.update_of_ne (fun h => happ (P.image_injective h)) ..

theorem registry_registryPrune (c : State) (app : App) :
    (Target.registryPrune.run P c).registry (P.image app) =
      pruneRepo (P.fileTag app c) (c.registry (P.image app)) := by
  have hrun : (Target.registryPrune.run P c).registry =
      SampleGrpc.registryPrune c.registry (c.file .backend) (c.file .web) := by
    rw [Target.run]
  cases app with
  | backend =>
    have himage : P.image .backend = imageName := P.backend_image
    rw [hrun, Project.fileTag, himage, registryPrune_image]
  | web =>
    have himage : P.image .web = webImageName := P.web_image
    rw [hrun, Project.fileTag, himage, registryPrune_webImage]

namespace Project

@[simp] theorem liveTag_registryPrune (app : App) (c : State) :
    P.liveTag app (Target.registryPrune.run P c) = P.liveTag app c := by
  rw [liveTag, Target.run, liveTag]

theorem fileTag_eq {c : State} {app : App} {tag : String} (htag : IsTag tag)
    (h : c.file app = (P.manifest app).lines tag) : P.fileTag app c = tag := by
  rw [fileTag, h]
  exact (P.manifest app).deployedTag_lines htag

/-- A manifest that is not on `latest` is on a version that can be pulled. -/
theorem Sound.pinned {c : State} (h : P.Sound c) {app : App} (hne : P.fileTag app c ≠ "latest") :
    VersionTag (P.fileTag app c) ∧ Available (c.registry (P.image app)) (P.fileTag app c) := by
  obtain ⟨tag, hfile, rfl | ⟨hversion, havail⟩⟩ := h.file app
  · exact (hne (fileTag_eq isTag_latest hfile)).elim
  · rw [fileTag_eq hversion.toIsTag hfile]
    exact ⟨hversion, havail⟩

theorem Sound.pullable {c : State} (h : P.Sound c) : P.Pullable c :=
  fun app tag htag => (h.live app tag htag).2

/-- **When pruning is safe**: exactly when the pinned versions are the ones that run. -/
theorem Sound.prune_pullable_iff {c : State} (h : P.Sound c) :
    P.Pullable (Target.registryPrune.run P c) ↔ P.InStep c := by
  simp only [Pullable, liveTag_registryPrune]
  refine forall_congr' fun app => forall₂_congr fun tag htag => ?_
  obtain ⟨hversion, havail⟩ := h.live app tag htag
  rw [registry_registryPrune]
  exact havail.prune_iff (h.one app) hversion.ne_latest

theorem Unreleased.sound {c : State} (h : P.Unreleased c) : P.Sound c where
  one := h.one
  file := fun app => ⟨"latest", h.file app, .inl rfl⟩
  live := by
    intro app tag htag
    simp [liveTag, h.applied app] at htag

/-! ## Each target -/

theorem Sound.dockerBuild {c : State} (h : P.Sound c) {app : App} {tag : String} {digest : Digest}
    (hversion : VersionTag tag) (hfresh : Fresh (c.registry (P.image app)) tag digest)
    (outcome : Outcome) : P.Sound ((Target.dockerBuild app tag digest outcome).run P c) := by
  have havail (app' : App) (tag' : String) (h' : Available (c.registry (P.image app')) tag') :
      Available (((Target.dockerBuild app tag digest outcome).run P c).registry (P.image app'))
        tag' := by
    rw [registry_dockerBuild]
    by_cases happ : app' = app
    · subst happ
      rw [if_pos rfl]
      exact h'.pushAll digest _
    · rwa [if_neg happ]
  constructor
  case one =>
    intro app'
    rw [registry_dockerBuild]
    by_cases happ : app' = app
    · rw [if_pos happ]
      exact (h.one app).pushAll hfresh fun _ => Outcome.mem_pushed
    · rw [if_neg happ]
      exact h.one app'
  case file =>
    intro app'
    obtain ⟨tag', hfile, htag'⟩ := h.file app'
    by_cases hpinned : outcome = .done ∧ app' = app
    · obtain ⟨rfl, rfl⟩ := hpinned
      refine ⟨tag, ?_, .inr ⟨hversion, ?_⟩⟩
      · show Function.update c.file app' ((P.manifest app').pin tag (c.file app')) app' = _
        rw [Function.update_self, hfile, Manifest.pin_lines]
      · rw [registry_dockerBuild, if_pos rfl]
        exact available_pushAll List.mem_cons_self _
    · refine ⟨tag', ?_, htag'.imp_right fun ⟨hversion', h'⟩ => ⟨hversion', havail _ _ h'⟩⟩
      have hsame : ((Target.dockerBuild app tag digest outcome).run P c).file app' =
          c.file app' := by
        by_cases hdone : outcome = .done
        · have happ : app' ≠ app := fun happ => hpinned ⟨hdone, happ⟩
          simp [Target.run, hdone, happ]
        · simp [Target.run, hdone]
      rw [hsame, hfile]
  case live =>
    intro app' tag' htag'
    obtain ⟨hversion', h'⟩ := h.live app' tag' htag'
    exact ⟨hversion', havail _ _ h'⟩

/-- Applying manifests that are pinned, in place of what runs or not. -/
theorem Sound.apply {c : State} (h : P.Sound c) {applied : App → Option (List String)}
    (happlied : ∀ app, applied app = c.applied app ∨
      applied app = some (c.file app) ∧ P.fileTag app c ≠ "latest") :
    P.Sound { c with applied := applied } where
  one := h.one
  file := h.file
  live := by
    intro app tag htag
    rcases happlied app with hsame | ⟨hfile, hne⟩
    · exact h.live app tag (by simpa [liveTag, hsame] using htag)
    · obtain rfl : P.fileTag app c = tag := by simpa [liveTag, hfile, fileTag] using htag
      exact h.pinned hne

theorem Sound.registryPrune {c : State} (h : P.Sound c) (hstep : P.InStep c) :
    P.Sound (Target.registryPrune.run P c) where
  one := by
    intro app
    rw [registry_registryPrune]
    exact (h.one app).prune _
  file := by
    intro app
    obtain ⟨tag, hfile, rfl | ⟨hversion, havail⟩⟩ := h.file app
    · exact ⟨"latest", hfile, .inl rfl⟩
    · refine ⟨tag, hfile, .inr ⟨hversion, ?_⟩⟩
      rw [registry_registryPrune]
      exact (havail.prune_iff (h.one app) hversion.ne_latest).mpr
        (fileTag_eq hversion.toIsTag hfile).symm
  live := by
    intro app tag htag
    have havail := h.prune_pullable_iff.mpr hstep app tag htag
    rw [liveTag_registryPrune] at htag
    exact ⟨(h.live app tag htag).1, havail⟩

/-- **Every target keeps the invariant.** -/
theorem Sound.run {c : State} (h : P.Sound c) {target : Target} (hcareful : P.Careful c target) :
    P.Sound (target.run P c) := by
  cases target with
  | dockerBuild app tag digest outcome => exact h.dockerBuild hcareful.1 hcareful.2 outcome
  | deploy app =>
    refine h.apply fun app' => ?_
    by_cases happ : app' = app
    · subst happ
      exact .inr ⟨Function.update_self .., hcareful⟩
    · exact .inl (Function.update_of_ne happ ..)
  | deployAll => exact h.apply fun app => .inr ⟨rfl, hcareful app⟩
  | generateK8s => exact ⟨h.one, fun app => ⟨"latest", rfl, .inl rfl⟩, h.live⟩
  | registryPrune => exact h.registryPrune hcareful

end Project

/-! ## Runs -/

/-- A target of the Makefile, run to its end or to the line that fails. -/
def Make (P : Project) (c : State) (target : Target) (c' : State) : Prop := c' = target.run P c

theorem sound_run {c₀ c : State} {hist : List (Entry State Target)} (h₀ : P.Unreleased c₀)
    (h : Run (Make P) c₀ hist c) (hcareful : ∀ x ∈ hist, P.Careful x.before x.event) :
    P.Sound c := by
  refine h.invariant (fun hist c => (∀ x ∈ hist, P.Careful x.before x.event) → P.Sound c)
    (fun _ => h₀.sound) ?_ hcareful
  rintro hist c target _ ih rfl hcareful
  have hsound := ih fun x hx => hcareful x (List.mem_append_left _ hx)
  exact hsound.run (hcareful ⟨c, target, _⟩ (List.mem_append_right _ List.mem_cons_self))

/-- **What is deployed can be pulled**, and so can what is pinned, whatever is built, applied,
rendered anew or pruned; and it still can after the next `registry-prune` exactly when the pinned
versions are the ones that run. -/
theorem release_keeps_running {c₀ c : State} {hist : List (Entry State Target)}
    (h₀ : P.Unreleased c₀) (h : Run (Make P) c₀ hist c)
    (hcareful : ∀ x ∈ hist, P.Careful x.before x.event) :
    P.Pullable c ∧
    (∀ app, P.fileTag app c ≠ "latest" →
      Available (c.registry (P.image app)) (P.fileTag app c)) ∧
    (P.Pullable (Target.registryPrune.run P c) ↔ P.InStep c) := by
  have hsound := sound_run h₀ h hcareful
  exact ⟨hsound.pullable, fun _ hne => (hsound.pinned hne).2, hsound.prune_pullable_iff⟩

/-! A release of the backend. -/

def deploymentYaml : Manifest where
  image := imageName
  host := "192.168.1.110:32000".toList
  indent := "          image: ".toList
  before := ["      containers:", "        - name: greeter"]
  after := ["          imagePullPolicy: Always", "          env:"]
  image_ne := by decide
  host_ne := by decide
  plain := by decide +kernel
  noColon := by decide
  image_head := by decide
  host_head := by decide
  unpinned := by decide +kernel
  unnamed := by decide +kernel

def webDeploymentYaml : Manifest where
  image := webImageName
  host := "192.168.1.110:32000".toList
  indent := "          image: ".toList
  before := ["      containers:", "        - name: greeter-web"]
  after := ["          imagePullPolicy: Always", "          ports:"]
  image_ne := by decide
  host_ne := by decide
  plain := by decide +kernel
  noColon := by decide
  image_head := by decide
  host_head := by decide
  unpinned := by decide +kernel
  unnamed := by decide +kernel

def greeterProject : Project where
  manifest := fun
    | .backend => deploymentYaml
    | .web => webDeploymentYaml
  backend_image := rfl
  web_image := rfl

def firstBuild : Target := .dockerBuild .backend "0.3.0-3f2b8c1" ⟨"sha256:9a0b", by decide⟩ .done

def rendered : State where
  registry := fun _ =>
    ⟨[("0.2.0-77aa01c", "sha256:11f0"), ("latest", "sha256:11f0")], by decide, by decide⟩
  file := fun app => (greeterProject.manifest app).lines "latest"
  applied := fun _ => none

def built : State := firstBuild.run greeterProject rendered

def deployed : State := (Target.deploy .backend).run greeterProject built

theorem release_keeps_running_once :
    greeterProject.Pullable (Target.registryPrune.run greeterProject deployed) ∧
    (∀ app, greeterProject.fileTag app (Target.registryPrune.run greeterProject deployed) ≠
        "latest" →
      Available
        ((Target.registryPrune.run greeterProject deployed).registry (greeterProject.image app))
        (greeterProject.fileTag app (Target.registryPrune.run greeterProject deployed))) ∧
    (greeterProject.Pullable (Target.registryPrune.run greeterProject
        (Target.registryPrune.run greeterProject deployed)) ↔
      greeterProject.InStep (Target.registryPrune.run greeterProject deployed)) := by
  have hone : OnePerBuild (rendered.registry imageName) := by decide
  have hversion : VersionTag "0.3.0-3f2b8c1" := ⟨⟨by decide, by decide⟩, by decide⟩
  have hfresh : Fresh (rendered.registry imageName) "0.3.0-3f2b8c1"
      ⟨"sha256:9a0b", by decide⟩ := by decide
  have htag : greeterProject.fileTag .backend built = "0.3.0-3f2b8c1" := by decide +kernel
  have hunreleased : greeterProject.Unreleased rendered :=
    ⟨fun _ => hone, fun _ => rfl, fun _ => rfl⟩
  have hbuild : Make greeterProject rendered firstBuild built := rfl
  have hdeploy : Make greeterProject built (.deploy .backend) deployed := rfl
  have hprune : Make greeterProject deployed .registryPrune
      (Target.registryPrune.run greeterProject deployed) := rfl
  refine release_keeps_running hunreleased (((Run.nil.snoc hbuild).snoc hdeploy).snoc hprune) ?_
  simp only [List.nil_append, List.cons_append, List.forall_mem_cons]
  refine ⟨⟨hversion, hfresh⟩, ?_, ?_, by simp⟩
  · show greeterProject.fileTag .backend built ≠ "latest"
    rw [htag]
    decide
  · rintro app tag htag
    cases app with
    | backend => exact (Option.some.inj htag).symm
    | web => cases htag

end SampleGrpc.Release
