import Mathlib.Data.List.Pairwise

/-! A list that is in strict order is the result of sorting any rearrangement of it. -/

namespace ModuleGraph

variable {α : Type} {le : α → α → Bool} {lt : α → α → Prop} {l l' : List α}

theorem mergeSort_eq_of_perm (htrans : ∀ a b c, le a b = true → le b c = true → le a c = true)
    (htotal : ∀ a b, (le a b || le b a) = true) (hle : ∀ a b, lt a b → le a b = true)
    (hlt : ∀ a b, lt a b → ¬ le b a = true) (hperm : l.Perm l') (h : l'.Pairwise lt) :
    l.mergeSort le = l' := by
  have hforward : l'.Pairwise fun a b => le a b = true → le b a = true → a = b :=
    h.imp fun hab _ hba => absurd hba (hlt _ _ hab)
  have hbackward : l'.Pairwise fun a b => le b a = true → le a b = true → b = a :=
    h.imp fun hab hba => absurd hba (hlt _ _ hab)
  have hanti := hforward.forall_of_forall_of_flip (fun _ _ _ _ => rfl) hbackward
  have hsorted := (List.mergeSort_perm l le).trans hperm
  refine List.Perm.eq_of_pairwise (fun a b ha hb => ?_) (List.pairwise_mergeSort htrans htotal l)
    (h.imp (hle _ _)) hsorted
  exact hanti (hsorted.mem_iff.mp ha) hb

end ModuleGraph
