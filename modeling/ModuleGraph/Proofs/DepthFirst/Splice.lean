import ModuleGraph.Distinct
import ModuleGraph.Proofs.DepthFirst.Order

/-! Searches and closed sets of nodes. A closed set is one that no edge leaves. What is seen of it
can be taken out of a search, and a search that comes into it for the first time at a node goes on
like the search from that node alone, less what is seen. -/

namespace ModuleGraph
namespace DepthFirst

open Relation

variable {α : Type} {next : α → List α} {seen : Set α} {starts pre post : List α}

def Closed (next : α → List α) (V : Set α) : Prop := ∀ u ∈ V, ∀ v ∈ next u, v ∈ V

theorem subset_of_closed (h : DepthFirst next seen starts pre post) {V : Set α}
    (hV : Closed next V) (hstarts : ∀ a ∈ starts, a ∈ V) {x : α} (hx : x ∈ pre) : x ∈ V := by
  obtain ⟨a, ha, -, hr⟩ := h.reach_of_mem hx
  clear hx
  induction hr with
  | refl => exact hstarts a ha
  | tail _ hstep ih => exact hV _ ih _ hstep.1

theorem congr_seen (h : DepthFirst next seen starts pre post) {seen' V : Set α}
    (hV : Closed next V) (hstarts : ∀ a ∈ starts, a ∈ V)
    (hagree : ∀ x ∈ V, x ∈ seen ↔ x ∈ seen') : DepthFirst next seen' starts pre post := by
  induction h generalizing seen' with
  | done => exact .done _
  | skip known _ ih =>
    obtain ⟨ha, hrest⟩ := List.forall_mem_cons.mp hstarts
    exact .skip ((hagree _ ha).mp known) (ih hrest hagree)
  | enter fresh _ _ ih₁ ih₂ =>
    obtain ⟨ha, hrest⟩ := List.forall_mem_cons.mp hstarts
    refine .enter (fun hs => fresh ((hagree _ ha).mpr hs)) ?_ ?_
    · refine ih₁ (hV _ ha) fun x hx => ?_
      simp only [Set.mem_insert_iff, hagree x hx]
    · refine ih₂ hrest fun x hx => ?_
      simp only [Set.mem_union, Set.mem_insert_iff, Set.mem_ofPred_eq, hagree x hx]

open scoped Classical in
theorem outside_closed (h : DepthFirst next seen starts pre post) {V : Set α}
    (hV : Closed next V) :
    DepthFirst next (seen ∪ V) starts (pre.filter (· ∉ V)) (post.filter (· ∉ V)) := by
  induction h with
  | done => exact .done _
  | skip known _ ih => exact .skip (Or.inl known) ih
  | @enter seen a rest pre post pre' post' fresh below others ih₁ ih₂ =>
    have hseen : insert a seen ∪ {x | x ∈ pre} ∪ V =
        insert a (seen ∪ V) ∪ {x | x ∈ pre.filter (· ∉ V)} := by
      ext x
      simp only [Set.mem_union, Set.mem_insert_iff, Set.mem_ofPred_eq, List.mem_filter,
        decide_eq_true_eq]
      grind
    by_cases ha : a ∈ V
    · -- all that is entered below `a` lies in the closed set and falls away with it
      have hpre : ∀ x ∈ pre, x ∈ V := fun x hx => below.subset_of_closed hV (hV a ha) hx
      have hpost : ∀ x ∈ post, x ∈ V := fun x hx => hpre x (below.mem_post_iff.mp hx)
      have hnone : ∀ {l : List α}, (∀ x ∈ l, x ∈ V) → l.filter (· ∉ V) = [] := by
        intro l hl
        exact List.filter_eq_nil_iff.mpr fun x hx => by simp [hl x hx]
      have hsame : insert a seen ∪ {x | x ∈ pre} ∪ V = seen ∪ V := by
        rw [hseen, hnone hpre]
        ext x
        simp only [Set.mem_union, Set.mem_insert_iff, Set.mem_ofPred_eq, List.not_mem_nil]
        constructor
        · rintro ((rfl | h) | h)
          · exact Or.inr ha
          · exact h
          · exact h.elim
        · exact fun h => Or.inl (Or.inr h)
      simp only [List.filter_append, List.filter_cons, hnone hpre, hnone hpost, ha,
        not_true_eq_false, decide_false, List.cons_append, List.nil_append]
      exact .skip (Or.inr ha) (hsame ▸ ih₂)
    · simp only [List.filter_append, List.filter_cons, ha, not_false_eq_true, decide_true,
        List.cons_append, if_true]
      refine .enter (fun hs => hs.elim fresh ha) ?_ (hseen ▸ ih₂)
      rwa [← Set.insert_union]

theorem closed_entered (h : DepthFirst next seen starts pre post) {V : Set α}
    (hV : Closed next V) (hs : Closed next (seen ∩ V)) :
    Closed next ((seen ∪ {x | x ∈ pre}) ∩ V) := by
  rintro u ⟨hu, huV⟩ v hv
  have hvV := hV u huV v hv
  rcases hu with hu | hu
  · exact ⟨Or.inl (hs u ⟨hu, huV⟩ v hv).1, hvV⟩
  · exact ⟨h.mem_of_next hu hv, hvV⟩

end DepthFirst

/-- The nodes that can be reached from `a`, in the order in which a search from `a` alone leaves
them. -/
def PostOrderFrom {α : Type} (next : α → List α) (a : α) (post : List α) : Prop :=
  ∃ pre, DepthFirst next ∅ [a] pre post

namespace PostOrderFrom

open DepthFirst Relation

variable {α : Type} {next : α → List α} {a : α} {post : List α}

theorem unique {post' : List α} (h : PostOrderFrom next a post)
    (h' : PostOrderFrom next a post') : post = post' := by
  obtain ⟨pre, h⟩ := h
  obtain ⟨pre', h'⟩ := h'
  exact (h.unique h').2

theorem nodup (h : PostOrderFrom next a post) : post.Nodup := by
  obtain ⟨pre, h⟩ := h
  exact h.nodup_post

theorem mem_iff (h : PostOrderFrom next a post) {x : α} :
    x ∈ post ↔ ReflTransGen (fun u v => v ∈ next u) a x := by
  obtain ⟨pre, h⟩ := h
  have hstep : StepOutside next ∅ = fun u v => v ∈ next u := by
    funext u v
    simp [StepOutside]
  rw [h.mem_post_iff, h.mem_pre_iff, hstep]
  simp

theorem eq_append (h : PostOrderFrom next a post) : ∃ before, post = before ++ [a] := by
  obtain ⟨pre, h⟩ := h
  cases h with
  | skip known _ => exact known.elim
  | enter _ _ others =>
    cases others
    exact ⟨_, rfl⟩

theorem mem_self (h : PostOrderFrom next a post) : a ∈ post := h.mem_iff.mpr .refl

theorem subset_of_closed (h : PostOrderFrom next a post) {V : Set α} (hV : Closed next V)
    (ha : a ∈ V) {x : α} (hx : x ∈ post) : x ∈ V := by
  obtain ⟨pre, h⟩ := h
  exact h.subset_of_closed hV (by simpa using ha) (h.mem_post_iff.mp hx)

open scoped Classical in
/-- A search that comes to `a` in a closed set, of which a closed part is seen, goes on like the
search from `a` alone, less what is seen. -/
theorem splice (h : PostOrderFrom next a post) {seen V : Set α} (hV : Closed next V) (ha : a ∈ V)
    (hs : Closed next (seen ∩ V)) :
    ∃ pre, DepthFirst next seen [a] pre (post.filter (· ∉ seen)) := by
  obtain ⟨W, hW⟩ : ∃ W, W = seen ∩ V := ⟨_, rfl⟩
  have hpost : post.filter (· ∉ W) = post.filter (· ∉ seen) := by
    apply List.filter_congr
    intro x hx
    have hxV := h.subset_of_closed hV ha hx
    simp [hW, hxV]
  obtain ⟨pre, h⟩ := h
  have hcut := h.outside_closed (hW ▸ hs)
  rw [hpost] at hcut
  refine ⟨_, hcut.congr_seen hV (by simpa using ha) fun x hx => ?_⟩
  simp [hW, hx]

open scoped Classical in
theorem splice_all [DecidableEq α] {starts : List α} {posts : List (List α)}
    (h : List.Forall₂ (PostOrderFrom next) starts posts) {seen V : Set α} (hV : Closed next V)
    (hstarts : ∀ a ∈ starts, a ∈ V) (hs : Closed next (seen ∩ V)) :
    ∃ pre, DepthFirst next seen starts pre ((distinct posts.flatten).filter (· ∉ seen)) := by
  induction h generalizing seen with
  | nil => exact ⟨[], .done _⟩
  | @cons a post rest posts hpost _ ih =>
    obtain ⟨ha, hrest⟩ := List.forall_mem_cons.mp hstarts
    obtain ⟨pre₁, h₁⟩ := hpost.splice hV ha hs
    obtain ⟨pre₂, h₂⟩ := ih hrest (h₁.closed_entered hV hs)
    refine ⟨pre₁ ++ pre₂, ?_⟩
    change DepthFirst next seen ([a] ++ rest) (pre₁ ++ pre₂) _
    rw [List.flatten_cons, distinct_append, distinct_of_nodup hpost.nodup, List.filter_append,
      List.filter_filter]
    convert h₁.append h₂ using 2
    apply List.filter_congr
    intro x _
    have hpre : x ∈ pre₁ ↔ x ∈ post ∧ x ∉ seen := by
      rw [← h₁.mem_post_iff]
      simp
    rw [← Bool.decide_and, decide_eq_decide, Set.mem_union, Set.mem_ofPred_eq, hpre]
    grind

end PostOrderFrom
end ModuleGraph
