import Mathlib.Data.List.TakeWhile
import Mathlib.Logic.Function.Basic
import SampleGrpc.Registry.NamedStore

/-!
# Pruning the image registry

The delete loop of `make registry-prune`. It decides by tag name what to keep and deletes by
manifest digest. The registry answers a HEAD on a tag with the digest and, on a DELETE of a
digest, drops the manifest and every tag that points to it.

* `registryPrune_keeps_iff` — the kept tags survive exactly when no other tag of their repository
  shares a digest with them.
* `registryPrune_deletes_live` — the tags that one `docker-build` pushes share a digest.
-/

namespace SampleGrpc

/-! ## The deployed tag -/

def imageName : String := "sample-grpc"

def webImageName : String := "sample-grpc-web"

/-- The match of `prefix[^ ]+` at the start of the text. -/
def matchImage (pre s : List Char) : Option (List Char) :=
  match s.dropPrefix? pre with
  | some rest =>
    let tail := rest.takeWhile (· ≠ ' ')
    if tail = [] then none else some (pre ++ tail)
  | none => none

/-- The first match in a line. -/
def grepImage (pre : List Char) : List Char → Option (List Char)
  | [] => none
  | c :: cs => (matchImage pre (c :: cs)).or (grepImage pre cs)

/-- `cut -d: -f1` -/
def cutField1 (s : List Char) : List Char := s.takeWhile (· ≠ ':')

/-- `cut -d: -f2`, on a text with a colon in it -/
def cutField2 (s : List Char) : List Char := ((s.dropWhile (· ≠ ':')).drop 1).takeWhile (· ≠ ':')

/-- `grep -oE 'image:[^ ]+' file | head -1 | cut -d: -f2` -/
def deployedTag (image : String) (file : List String) : String :=
  match file.findSome? fun line => grepImage (image ++ ":").toList line.toList with
  | some m => String.ofList (cutField2 m)
  | none => ""

/-! ## The registry -/

/-- A repository: its tags, in the order it lists them, with the digests they point to. -/
structure Repository where
  tags : List (String × String)
  nodup : (tags.map Prod.fst).Nodup
  digest_ne : ∀ p ∈ tags, p.2 ≠ ""

abbrev Registry := String → Repository

/-- HEAD of a tag: its digest. -/
def Repository.head (r : Repository) (tag : String) : Option String :=
  (r.tags.find? fun p => p.1 = tag).map Prod.snd

/-- DELETE of a digest. -/
def Repository.delete (r : Repository) (digest : String) : Repository where
  tags := r.tags.filter fun p => p.2 ≠ digest
  nodup := r.nodup.sublist (List.filter_sublist.map Prod.fst)
  digest_ne := fun p hp => r.digest_ne p (List.mem_filter.mp hp).1

/-- One turn of the inner loop. -/
def pruneTag (keep : String) (r : Repository) (tag : String) : Repository :=
  if tag = "latest" ∨ tag = keep then r
  else
    let digest := (r.head tag).getD ""
    if digest ≠ "" then r.delete digest else r

/-- The inner loop, over the tags listed before it. -/
def pruneRepo (keep : String) (r : Repository) : Repository :=
  (r.tags.map Prod.fst).foldl (pruneTag keep) r

/-- One turn of the outer loop, for an entry `REPO:KEEP`. -/
def pruneEntry (reg : Registry) (entry : String) : Registry :=
  let repo := String.ofList (cutField1 entry.toList)
  let keep := String.ofList (cutField2 entry.toList)
  Function.update reg repo (pruneRepo keep (reg repo))

/-- The delete loop of `registry-prune`, given the lines of the two deployment files. -/
def registryPrune (reg : Registry) (deployment webDeployment : List String) : Registry :=
  [imageName ++ ":" ++ deployedTag imageName deployment,
    webImageName ++ ":" ++ deployedTag webImageName webDeployment].foldl pruneEntry reg

/-! ## The inner loop as a sweep -/

def Repository.store (r : Repository) : NamedStore String String := ⟨r.tags, r.nodup⟩

/-- The tags the loop does not keep. -/
def staleTag (keep tag : String) : Bool := ¬ (tag = "latest" ∨ tag = keep)

theorem pruneTag_store (keep : String) (r : Repository) (tag : String) :
    (pruneTag keep r tag).store = r.store.sweepName (staleTag keep) tag := by
  unfold pruneTag NamedStore.sweepName
  by_cases hkeep : tag = "latest" ∨ tag = keep
  · simp [staleTag, hkeep]
  · have hhead : r.store.resolve tag = r.head tag := rfl
    simp only [staleTag, hkeep, if_false, not_false_eq_true, decide_true, if_true, hhead]
    cases hd : r.head tag with
    | none => simp
    | some d =>
      have hne : d ≠ "" := r.digest_ne _ (NamedStore.resolve_eq_some_iff.mp (hhead.trans hd))
      simp [hne, Repository.store, Repository.delete, NamedStore.erase]

theorem pruneRepo_store (keep : String) (r : Repository) :
    (pruneRepo keep r).store = r.store.sweep (staleTag keep) := by
  have hfold (names : List String) (r : Repository) : (names.foldl (pruneTag keep) r).store =
      names.foldl (NamedStore.sweepName (staleTag keep)) r.store := by
    induction names generalizing r with
    | nil => rfl
    | cons name names ih => rw [List.foldl_cons, ih, pruneTag_store, List.foldl_cons]
  exact hfold _ r

/-! ## The outer loop -/

theorem ne_colon_of_notMem {s : List Char} (hs : ':' ∉ s) : ∀ c ∈ s, decide (c ≠ ':') = true := by
  intro c hc
  have hne : c ≠ ':' := fun h => hs (h ▸ hc)
  simp [hne]

theorem cutField1_append_colon {s : List Char} (hs : ':' ∉ s) (t : List Char) :
    cutField1 (s ++ ':' :: t) = s := by
  rw [cutField1, List.takeWhile_append_of_pos (ne_colon_of_notMem hs)]
  simp

theorem cutField2_append_colon {s t : List Char} (hs : ':' ∉ s) (ht : ':' ∉ t) :
    cutField2 (s ++ ':' :: t) = t := by
  have hself : t.takeWhile (· ≠ ':') = t :=
    List.takeWhile_eq_self_iff.mpr (ne_colon_of_notMem ht)
  rw [cutField2, List.dropWhile_append_of_pos (ne_colon_of_notMem hs)]
  simpa using hself

theorem colon_notMem_deployedTag (image : String) (file : List String) :
    ':' ∉ (deployedTag image file).toList := by
  unfold deployedTag
  split
  · intro hmem
    rw [String.toList_ofList, cutField2] at hmem
    simpa using List.mem_takeWhile_imp hmem
  · simp

/-- An entry is taken apart again into its image and the deployed tag. -/
theorem pruneEntry_eq (reg : Registry) {image : String} (himage : ':' ∉ image.toList)
    (file : List String) :
    pruneEntry reg (image ++ ":" ++ deployedTag image file) =
      Function.update reg image (pruneRepo (deployedTag image file) (reg image)) := by
  have htext : (image ++ ":" ++ deployedTag image file).toList =
      image.toList ++ ':' :: (deployedTag image file).toList := by
    simp
  unfold pruneEntry
  rw [htext, cutField1_append_colon himage,
    cutField2_append_colon himage (colon_notMem_deployedTag image file),
    String.ofList_toList, String.ofList_toList]

theorem registryPrune_image (reg : Registry) (deployment webDeployment : List String) :
    registryPrune reg deployment webDeployment imageName =
      pruneRepo (deployedTag imageName deployment) (reg imageName) := by
  have hne : imageName ≠ webImageName := by decide
  simp only [registryPrune, List.foldl_cons, List.foldl_nil]
  rw [pruneEntry_eq _ (by decide), pruneEntry_eq _ (by decide), Function.update_of_ne hne,
    Function.update_self]

theorem registryPrune_webImage (reg : Registry) (deployment webDeployment : List String) :
    registryPrune reg deployment webDeployment webImageName =
      pruneRepo (deployedTag webImageName webDeployment) (reg webImageName) := by
  have hne : webImageName ≠ imageName := by decide
  simp only [registryPrune, List.foldl_cons, List.foldl_nil]
  rw [pruneEntry_eq _ (by decide), pruneEntry_eq _ (by decide), Function.update_self,
    Function.update_of_ne hne]

/-! ## What survives -/

/-- `latest` and the deployed tag resolve as they did, if they did. -/
def KeepsTags (keep : String) (before after : Repository) : Prop :=
  ∀ tag, tag = "latest" ∨ tag = keep → ∀ d, before.head tag = some d → after.head tag = some d

/-- No other tag shares a digest with `latest` or the deployed tag. -/
def Unshared (keep : String) (r : Repository) : Prop :=
  ∀ p ∈ r.tags, ∀ q ∈ r.tags, (p.1 = "latest" ∨ p.1 = keep) → ¬ (q.1 = "latest" ∨ q.1 = keep) →
    q.2 ≠ p.2

theorem pruneRepo_keeps_iff (keep : String) (r : Repository) :
    KeepsTags keep r (pruneRepo keep r) ↔ Unshared keep r := by
  have hsweep := NamedStore.sweep_keeps_iff (staleTag keep) r.store
  rw [← pruneRepo_store] at hsweep
  have hhead (r : Repository) (tag : String) : r.head tag = r.store.resolve tag := rfl
  simp only [staleTag, decide_eq_false_iff_not, decide_eq_true_eq, not_not] at hsweep
  simp only [KeepsTags, Unshared, hhead]
  refine Iff.trans ⟨fun h tag d hkept => h tag hkept d, fun h tag hkept d => h tag d hkept⟩ ?_
  exact hsweep

/-- **When pruning spares the kept images**: exactly when, in both repositories, no other tag
shares a digest with `latest` or the deployed tag. -/
theorem registryPrune_keeps_iff (reg : Registry) (deployment webDeployment : List String) :
    (KeepsTags (deployedTag imageName deployment) (reg imageName)
        (registryPrune reg deployment webDeployment imageName) ∧
      KeepsTags (deployedTag webImageName webDeployment) (reg webImageName)
        (registryPrune reg deployment webDeployment webImageName)) ↔
    Unshared (deployedTag imageName deployment) (reg imageName) ∧
      Unshared (deployedTag webImageName webDeployment) (reg webImageName) := by
  rw [registryPrune_image, registryPrune_webImage, pruneRepo_keeps_iff, pruneRepo_keeps_iff]

/-- What one `docker-build` pushes: a version and `latest`, with one digest. -/
def afterBuild : Repository :=
  { tags := [("1.0.0-3f2b8c1", "sha256:9a0b"), ("latest", "sha256:9a0b")]
    nodup := by decide
    digest_ne := by decide }

/-- **Pruning deletes the live image**: after `docker-build`, with the manifests that
`generate-k8s` writes, the deployed `latest` is gone. -/
theorem registryPrune_deletes_live :
    deployedTag imageName ["          image: 192.168.1.110:32000/sample-grpc:latest"] = "latest" ∧
    (registryPrune (fun _ => afterBuild)
        ["          image: 192.168.1.110:32000/sample-grpc:latest"]
        ["          image: 192.168.1.110:32000/sample-grpc-web:latest"] imageName).head "latest" =
      none ∧
    ¬ KeepsTags "latest" afterBuild
      (registryPrune (fun _ => afterBuild)
        ["          image: 192.168.1.110:32000/sample-grpc:latest"]
        ["          image: 192.168.1.110:32000/sample-grpc-web:latest"] imageName) := by
  have hgone : (registryPrune (fun _ => afterBuild)
      ["          image: 192.168.1.110:32000/sample-grpc:latest"]
      ["          image: 192.168.1.110:32000/sample-grpc-web:latest"] imageName).head "latest" =
      none := by
    decide +kernel
  refine ⟨by decide +kernel, hgone, fun h => ?_⟩
  have hkept := h "latest" (.inl rfl) "sha256:9a0b" (by decide)
  rw [hgone] at hkept
  cases hkept

end SampleGrpc
