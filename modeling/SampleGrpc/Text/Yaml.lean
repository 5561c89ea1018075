import Mathlib.Data.List.Nodup

/-!
# YAML documents

The values that a document stands for, and the entries of a mapping by their keys.
-/

namespace SampleGrpc

inductive Yaml where
  | null
  | bool (b : Bool)
  | int (n : Int)
  | str (s : String)
  | seq (items : List Yaml)
  | map (entries : List (String × Yaml))

namespace Yaml

/-- The value under a key, of a mapping. -/
def get : Yaml → String → Option Yaml
  | .map entries, key => entries.lookup key
  | _, _ => none

/-- The value at a path of two keys. -/
def get₂ (doc : Yaml) (section_ key : String) : Option Yaml := (doc.get section_).bind (·.get key)

theorem get_map (entries : List (String × Yaml)) (key : String) :
    (map entries).get key = entries.lookup key := rfl

theorem get₂_of_get {doc section_ : Yaml} {name key : String} (h : doc.get name = some section_) :
    doc.get₂ name key = section_.get key := by rw [get₂, h, Option.bind_some]

theorem get₂_of_absent {doc : Yaml} {name key : String} (h : doc.get name = none) :
    doc.get₂ name key = none := by rw [get₂, h, Option.bind_none]

end Yaml

theorem lookup_of_notMem {α : Type} {k : String} {xs : List (String × α)}
    (h : k ∉ xs.map Prod.fst) : xs.lookup k = none := by
  rw [List.lookup_eq_none_iff]
  intro p hp
  have hne : k ≠ p.1 := fun heq => h (heq ▸ List.mem_map_of_mem hp)
  simpa using hne

/-- Behind entries without the key, the first entry with it counts. -/
theorem lookup_append_of_notMem {α : Type} {k : String} {xs ys : List (String × α)}
    (h : k ∉ xs.map Prod.fst) : (xs ++ ys).lookup k = ys.lookup k := by
  rw [List.lookup_append, lookup_of_notMem h, Option.none_or]

end SampleGrpc
