import Mathlib.Logic.Relation
import ModuleGraph.Proofs.DepthFirst.Basic

/-! What a depth-first search enters is what can be reached past the seen nodes, and in the order of
leaving every node stands behind those that it leads to, unless they lead back to it. -/

namespace ModuleGraph.DepthFirst

open Relation

variable {α : Type} {next : α → List α} {seen : Set α} {starts pre post : List α}

def StepOutside (next : α → List α) (seen : Set α) (u v : α) : Prop := v ∈ next u ∧ v ∉ seen

theorem reach_of_mem (h : DepthFirst next seen starts pre post) {x : α} (hx : x ∈ pre) :
    ∃ a ∈ starts, a ∉ seen ∧ ReflTransGen (StepOutside next seen) a x := by
  induction h with
  | done => simp at hx
  | skip _ _ ih =>
    obtain ⟨a, ha, hs, hr⟩ := ih hx
    exact ⟨a, List.mem_cons_of_mem _ ha, hs, hr⟩
  | @enter seen a rest pre post pre' post' fresh below others ih₁ ih₂ =>
    simp only [List.cons_append, List.mem_cons, List.mem_append] at hx
    rcases hx with rfl | hx | hx
    · exact ⟨x, List.mem_cons_self, fresh, .refl⟩
    · obtain ⟨b, hb, hs, hr⟩ := ih₁ hx
      refine ⟨a, List.mem_cons_self, fresh, ?_⟩
      have hfirst : StepOutside next seen a b := ⟨hb, fun hbs => hs (Or.inr hbs)⟩
      refine .head hfirst (ReflTransGen.mono ?_ _ _ hr)
      exact fun _ _ hstep => ⟨hstep.1, fun hv => hstep.2 (Or.inr hv)⟩
    · obtain ⟨b, hb, hs, hr⟩ := ih₂ hx
      refine ⟨b, List.mem_cons_of_mem _ hb, fun hbs => hs (Or.inl (Or.inr hbs)), ?_⟩
      refine ReflTransGen.mono ?_ _ _ hr
      exact fun _ _ hstep => ⟨hstep.1, fun hv => hstep.2 (Or.inl (Or.inr hv))⟩

theorem mem_pre_iff (h : DepthFirst next seen starts pre post) {x : α} :
    x ∈ pre ↔ ∃ a ∈ starts, a ∉ seen ∧ ReflTransGen (StepOutside next seen) a x := by
  constructor
  · exact h.reach_of_mem
  · rintro ⟨a, ha, hs, hr⟩
    induction hr with
    | refl => exact (h.mem_of_start ha).resolve_left hs
    | tail _ hstep ih => exact (h.mem_of_next ih hstep.1).resolve_left hstep.2

/-- A node that a left node leads to was seen before, or was left before it, or leads back. -/
theorem before_of_next (h : DepthFirst next seen starts pre post) {u v : α} (hu : u ∈ post)
    (hv : v ∈ next u) :
    v ∈ seen ∨ [v, u].Sublist post ∨ ReflTransGen (fun x y => y ∈ next x) v u := by
  induction h with
  | done => simp at hu
  | skip _ _ ih => exact ih hu
  | @enter seen a rest pre post pre' post' fresh below others ih₁ ih₂ =>
    have pair : ∀ {l₁ l₂ : List α}, v ∈ l₁ → u ∈ l₂ → [v, u].Sublist (l₁ ++ l₂) :=
      fun h₁ h₂ => (List.singleton_sublist.mpr h₁).append (List.singleton_sublist.mpr h₂)
    rcases List.mem_append.mp hu with hpost | hpost
    · -- `u` lies below `a`, which it may lead back to
      rcases ih₁ hpost with (rfl | hs) | hsub | hback
      · obtain ⟨b, hb, -, hr⟩ := below.reach_of_mem (below.mem_post_iff.mp hpost)
        exact Or.inr (Or.inr (.head hb (ReflTransGen.mono (fun _ _ hstep => hstep.1) _ _ hr)))
      · exact Or.inl hs
      · exact Or.inr (Or.inl (hsub.trans (List.sublist_append_left ..)))
      · exact Or.inr (Or.inr hback)
    rcases List.mem_cons.mp hpost with rfl | hpost'
    · -- `u` is `a`
      rcases below.mem_of_start hv with (rfl | hs) | hpre
      · exact Or.inr (Or.inr .refl)
      · exact Or.inl hs
      · exact Or.inr (Or.inl (pair (below.mem_post_iff.mpr hpre) List.mem_cons_self))
    · -- `u` is entered beside `a`, after all that lies below `a` has been left
      rcases ih₂ hpost' with ((rfl | hs) | hpre) | hsub | hback
      · have htail : [v, u].Sublist (v :: post') := (List.singleton_sublist.mpr hpost').cons_cons v
        exact Or.inr (Or.inl (htail.trans (List.sublist_append_right ..)))
      · exact Or.inl hs
      · exact Or.inr (Or.inl (pair (below.mem_post_iff.mpr hpre) (List.mem_cons_of_mem a hpost')))
      · exact Or.inr (Or.inl ((hsub.trans (List.sublist_cons_self ..)).trans
          (List.sublist_append_right ..)))
      · exact Or.inr (Or.inr hback)

end ModuleGraph.DepthFirst
