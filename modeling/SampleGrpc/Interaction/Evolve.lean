import Mathlib.Data.List.Forall2

/-!
# Evolution of a list of records

How a table changes when rows are edited in place and new ones appended, but none removed:
`Evolves rel fresh l l'` says that every record of `l` is still there, related by `rel` to what
it was, and that the others satisfy `fresh`. For a reflexive and transitive `rel` that keeps
`fresh`, evolutions compose.
-/

namespace SampleGrpc

variable {α : Type} {rel : α → α → Prop} {fresh : α → Prop} {l l' l'' : List α}

theorem forall₂_trans (hrel : ∀ a b c, rel a b → rel b c → rel a c)
    (h : List.Forall₂ rel l l') (h' : List.Forall₂ rel l' l'') : List.Forall₂ rel l l'' := by
  induction h generalizing l'' with
  | nil => exact h'
  | cons hab _ ih =>
    cases h' with
    | cons hbc htail => exact .cons (hrel _ _ _ hab hbc) (ih htail)

theorem forall₂_append_left {a b : List α} (h : List.Forall₂ rel (a ++ b) l) :
    ∃ l₁ l₂, l = l₁ ++ l₂ ∧ List.Forall₂ rel a l₁ ∧ List.Forall₂ rel b l₂ := by
  induction a generalizing l with
  | nil => exact ⟨[], l, rfl, .nil, h⟩
  | cons x a ih =>
    cases h with
    | cons hxy htail =>
      obtain ⟨l₁, l₂, rfl, h₁, h₂⟩ := ih htail
      exact ⟨_ :: l₁, l₂, rfl, .cons hxy h₁, h₂⟩

theorem exists_of_forall₂ (h : List.Forall₂ rel l l') {r : α} (hr : r ∈ l) :
    ∃ r' ∈ l', rel r r' := by
  induction h with
  | nil => simp at hr
  | @cons a b l l' hab _ ih =>
    rcases List.mem_cons.mp hr with rfl | hr
    · exact ⟨b, List.mem_cons_self, hab⟩
    · obtain ⟨r', hmem, hrel⟩ := ih hr
      exact ⟨r', List.mem_cons_of_mem _ hmem, hrel⟩

theorem of_forall₂ (h : List.Forall₂ rel l l') {r' : α} (hr : r' ∈ l') :
    ∃ r ∈ l, rel r r' := exists_of_forall₂ h.flip hr

def Evolves (rel : α → α → Prop) (fresh : α → Prop) (l l' : List α) : Prop :=
  ∃ kept new, l' = kept ++ new ∧ List.Forall₂ rel l kept ∧ ∀ r ∈ new, fresh r

namespace Evolves

theorem refl (hrel : ∀ r, rel r r) (l : List α) : Evolves rel fresh l l :=
  ⟨l, [], (List.append_nil l).symm, List.forall₂_same.mpr fun r _ => hrel r, by simp⟩

theorem append {new : List α} (hrel : ∀ r, rel r r) (l : List α) (hnew : ∀ r ∈ new, fresh r) :
    Evolves rel fresh l (l ++ new) :=
  ⟨l, new, rfl, List.forall₂_same.mpr fun r _ => hrel r, hnew⟩

theorem map {f : α → α} (l : List α) (hf : ∀ r ∈ l, rel r (f r)) :
    Evolves rel fresh l (l.map f) := by
  refine ⟨l.map f, [], (List.append_nil _).symm, ?_, by simp⟩
  rw [List.forall₂_map_right_iff]
  exact List.forall₂_same.mpr hf

theorem trans (hrel : ∀ a b c, rel a b → rel b c → rel a c)
    (hfresh : ∀ a b, fresh a → rel a b → fresh b)
    (h : Evolves rel fresh l l') (h' : Evolves rel fresh l' l'') : Evolves rel fresh l l'' := by
  obtain ⟨kept, new, rfl, hkept, hnew⟩ := h
  obtain ⟨kept', new', rfl, hkept', hnew'⟩ := h'
  -- The second step edits both the rows kept by the first and those it appended.
  obtain ⟨kept₁, kept₂, rfl, h₁, h₂⟩ := forall₂_append_left hkept'
  refine ⟨kept₁, kept₂ ++ new', List.append_assoc _ _ _, forall₂_trans hrel hkept h₁, ?_⟩
  intro r hr
  rcases List.mem_append.mp hr with hr | hr
  · obtain ⟨a, ha, har⟩ := of_forall₂ h₂ hr
    exact hfresh a r (hnew a ha) har
  · exact hnew' r hr

/-- Every record is still there. -/
theorem exists_of_mem (h : Evolves rel fresh l l') {r : α} (hr : r ∈ l) : ∃ r' ∈ l', rel r r' := by
  obtain ⟨kept, new, rfl, hkept, -⟩ := h
  obtain ⟨r', hmem, hrel⟩ := exists_of_forall₂ hkept hr
  exact ⟨r', List.mem_append_left _ hmem, hrel⟩

/-- Every record was there before or is fresh. -/
theorem of_mem (h : Evolves rel fresh l l') {r' : α} (hr : r' ∈ l') :
    (∃ r ∈ l, rel r r') ∨ fresh r' := by
  obtain ⟨kept, new, rfl, hkept, hnew⟩ := h
  rcases List.mem_append.mp hr with hr | hr
  · exact .inl (of_forall₂ hkept hr)
  · exact .inr (hnew r' hr)

theorem mono {rel' : α → α → Prop} {fresh' : α → Prop} (h : Evolves rel fresh l l')
    (hrel : ∀ a b, rel a b → rel' a b) (hfresh : ∀ a, fresh a → fresh' a) :
    Evolves rel' fresh' l l' := by
  obtain ⟨kept, new, rfl, hkept, hnew⟩ := h
  exact ⟨kept, new, rfl, hkept.imp hrel, fun r hr => hfresh r (hnew r hr)⟩

end Evolves

end SampleGrpc
