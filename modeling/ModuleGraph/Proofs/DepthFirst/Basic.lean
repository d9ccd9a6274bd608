import Mathlib.Data.List.Nodup
import Mathlib.Data.Set.Insert

/-! Depth-first search of a graph that is given by the list of successors of each node. A search
is a derivation: it says which nodes are entered, in the order of entering, and the same nodes in
the order of leaving. -/

namespace ModuleGraph

/-- From `starts`, one after the other, a search that passes over the `seen` nodes enters `pre` and
leaves `post`. -/
inductive DepthFirst {α : Type} (next : α → List α) :
    (seen : Set α) → (starts pre post : List α) → Prop where
  | done (seen : Set α) : DepthFirst next seen [] [] []
  | skip {seen : Set α} {a : α} {rest pre post : List α} (known : a ∈ seen)
      (others : DepthFirst next seen rest pre post) : DepthFirst next seen (a :: rest) pre post
  | enter {seen : Set α} {a : α} {rest pre post pre' post' : List α} (fresh : a ∉ seen)
      (below : DepthFirst next (insert a seen) (next a) pre post)
      (others : DepthFirst next (insert a seen ∪ {x | x ∈ pre}) rest pre' post') :
      DepthFirst next seen (a :: rest) (a :: pre ++ pre') (post ++ a :: post')

namespace DepthFirst

variable {α : Type} {next : α → List α} {seen : Set α} {starts pre post : List α}

theorem perm (h : DepthFirst next seen starts pre post) : post.Perm pre := by
  induction h with
  | done => exact List.Perm.refl _
  | skip _ _ ih => exact ih
  | enter _ _ _ ih₁ ih₂ => exact List.perm_middle.trans ((ih₁.append ih₂).cons _)

theorem mem_post_iff (h : DepthFirst next seen starts pre post) {x : α} :
    x ∈ post ↔ x ∈ pre :=
  h.perm.mem_iff

theorem not_mem_seen (h : DepthFirst next seen starts pre post) {x : α} (hx : x ∈ pre) :
    x ∉ seen := by
  induction h with
  | done => simp at hx
  | skip _ _ ih => exact ih hx
  | enter fresh _ _ ih₁ ih₂ =>
    simp only [List.mem_append, List.mem_cons] at hx
    rcases hx with (rfl | hx) | hx
    · exact fresh
    · exact fun hs => ih₁ hx (Or.inr hs)
    · exact fun hs => ih₂ hx (Or.inl (Or.inr hs))

theorem nodup_pre (h : DepthFirst next seen starts pre post) : pre.Nodup := by
  induction h with
  | done => exact List.nodup_nil
  | skip _ _ ih => exact ih
  | enter _ below others ih₁ ih₂ =>
    rw [List.cons_append, List.nodup_cons]
    constructor
    · rw [List.mem_append, not_or]
      exact ⟨fun ha => below.not_mem_seen ha (Or.inl rfl),
        fun ha => others.not_mem_seen ha (Or.inl (Or.inl rfl))⟩
    · refine List.Nodup.append ih₁ ih₂ ?_
      intro x hx hx'
      exact others.not_mem_seen hx' (Or.inr hx)

theorem nodup_post (h : DepthFirst next seen starts pre post) : post.Nodup :=
  h.perm.nodup_iff.mpr h.nodup_pre

theorem mem_of_start (h : DepthFirst next seen starts pre post) {a : α} (ha : a ∈ starts) :
    a ∈ seen ∨ a ∈ pre := by
  induction h with
  | done => simp at ha
  | skip known _ ih =>
    rcases List.mem_cons.mp ha with rfl | ha
    · exact Or.inl known
    · exact ih ha
  | enter _ _ _ _ ih₂ =>
    rcases List.mem_cons.mp ha with rfl | ha
    · simp
    · have := ih₂ ha
      simp only [Set.mem_union, Set.mem_insert_iff, Set.mem_ofPred_eq] at this
      simp only [List.cons_append, List.mem_cons, List.mem_append]
      grind

theorem mem_of_next (h : DepthFirst next seen starts pre post) {u v : α} (hu : u ∈ pre)
    (hv : v ∈ next u) : v ∈ seen ∨ v ∈ pre := by
  induction h with
  | done => simp at hu
  | skip _ _ ih => exact ih hu
  | enter _ below _ ih₁ ih₂ =>
    simp only [List.cons_append, List.mem_cons, List.mem_append] at hu ⊢
    rcases hu with rfl | hu | hu
    · have := below.mem_of_start hv
      simp only [Set.mem_insert_iff] at this
      grind
    · have := ih₁ hu
      simp only [Set.mem_insert_iff] at this
      grind
    · have := ih₂ hu
      simp only [Set.mem_union, Set.mem_insert_iff, Set.mem_ofPred_eq] at this
      grind

theorem unique {pre' post' : List α} (h : DepthFirst next seen starts pre post)
    (h' : DepthFirst next seen starts pre' post') : pre = pre' ∧ post = post' := by
  induction h generalizing pre' post' with
  | done => cases h'; exact ⟨rfl, rfl⟩
  | skip known _ ih =>
    cases h' with
    | skip _ others => exact ih others
    | enter fresh _ _ => exact absurd known fresh
  | enter fresh _ _ ih₁ ih₂ =>
    cases h' with
    | skip known _ => exact absurd known fresh
    | enter _ below others =>
      obtain ⟨rfl, rfl⟩ := ih₁ below
      obtain ⟨rfl, rfl⟩ := ih₂ others
      exact ⟨rfl, rfl⟩

theorem append {starts' pre' post' : List α} (h : DepthFirst next seen starts pre post)
    (h' : DepthFirst next (seen ∪ {x | x ∈ pre}) starts' pre' post') :
    DepthFirst next seen (starts ++ starts') (pre ++ pre') (post ++ post') := by
  induction h with
  | done =>
    simpa using h'
  | skip known _ ih => exact .skip known (ih h')
  | @enter seen a rest pre post pre₂ post₂ fresh below others _ ih₂ =>
    have hseen : insert a seen ∪ {x | x ∈ pre} ∪ {x | x ∈ pre₂} =
        seen ∪ {x | x ∈ a :: pre ++ pre₂} := by
      ext x
      simp only [Set.mem_union, Set.mem_insert_iff, Set.mem_ofPred_eq, List.cons_append,
        List.mem_cons, List.mem_append]
      grind
    have hrest := ih₂ (hseen ▸ h')
    rw [List.cons_append, List.append_assoc, List.append_assoc, List.cons_append]
    exact .enter fresh below hrest

end DepthFirst
end ModuleGraph
