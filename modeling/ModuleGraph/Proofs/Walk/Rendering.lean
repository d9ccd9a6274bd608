import ModuleGraph.Proofs.Walk.Nodes
import ModuleGraph.Walk.Shape

/-! What the outline of a result in tree form says about the walk: a depth-first visit of its names,
which passes over those that have come up already, leaves them in the order in which the walk has
completed these files, and no other file stands in it. -/

namespace ModuleGraph

namespace Outline

mutual

def visit (o : PostOrder) : Outline → PostOrder
  | mk members => visitAll o members

def visitAll (o : PostOrder) : List (Text × Outline) → PostOrder
  | [] => o
  | (name, below) :: rest =>
    if o.entered.contains name then visitAll o rest
    else
      let inner := visit ⟨name :: o.entered, o.left⟩ below
      visitAll ⟨inner.entered, inner.left ++ [name]⟩ rest

end

def postOrder (o : Outline) : List Path := (o.visit .start).left

mutual

def names : Outline → List Text
  | mk members => namesIn members

def namesIn : List (Text × Outline) → List Text
  | [] => []
  | (name, below) :: rest => name :: (names below ++ namesIn rest)

end

theorem mem_namesIn_iff {members : List (Text × Outline)} {name : Text} :
    name ∈ namesIn members ↔ ∃ m ∈ members, name = m.1 ∨ name ∈ m.2.names := by
  induction members with
  | nil => simp [namesIn]
  | cons m rest ih => simp [namesIn, ih, or_assoc]

mutual

theorem mem_visit {o : PostOrder} {f : Path} : (t : Outline) →
    f ∈ (t.visit o).left → f ∈ o.left ∨ f ∈ t.names
  | mk members => mem_visitAll members

theorem mem_visitAll {o : PostOrder} {f : Path} :
    (members : List (Text × Outline)) → f ∈ (visitAll o members).left →
      f ∈ o.left ∨ f ∈ namesIn members
  | [] => Or.inl
  | (name, below) :: rest => by
    intro hf
    rw [visitAll] at hf
    rw [namesIn, List.mem_cons, List.mem_append]
    split at hf
    · rcases mem_visitAll rest hf with hf | hf
      · exact Or.inl hf
      · exact Or.inr (Or.inr (Or.inr hf))
    · rcases mem_visitAll rest hf with hf | hf
      · rcases List.mem_append.mp hf with hf | hf
        · exact (mem_visit below hf).imp_right fun h => Or.inr (Or.inl h)
        · exact Or.inr (Or.inl (List.mem_singleton.mp hf))
      · exact Or.inr (Or.inr (Or.inr hf))

end

end Outline

namespace Walk

variable {c : Collaborators} {a : Cache}

namespace Cache.Drawn

theorem names_unfold (h : a.Drawn c) {above : List NodeId} {f : Path} {r : Ref}
    (hr : a.results.get? f = some r) {name : Text} (hname : name ∈ (a.graph.unfold above r).names) :
    name ∈ a.results.keys := by
  -- each step down leaves one more node above
  induction hoff : (a.graph.off above).length using Nat.strong_induction_on
    generalizing above f r with
  | _ n ih =>
    obtain ⟨id, hlt, rfl, -⟩ := h.members_eq hr
    by_cases hid : id ∈ above
    · rw [Graph.unfold, dif_neg fun hnot => hnot.1 hid] at hname
      simp [Outline.empty, Outline.names, Outline.namesIn] at hname
    · obtain ⟨id', heq, hunfold⟩ := h.unfold_eq hr fun id' heq => Ref.node.inj heq ▸ hid
      obtain rfl := Ref.node.inj heq
      rw [hunfold, Outline.names, Outline.mem_namesIn_iff] at hname
      obtain ⟨m, hm, hname⟩ := hname
      obtain ⟨d, hd, rfl⟩ := List.mem_map.mp hm
      have hkey := h.mem_keys_of_dependency (Table.mem_keys hr) hd
      rcases hname with rfl | hname
      · exact hkey
      · obtain ⟨r', hr'⟩ := Table.exists_of_mem_keys hkey
        rw [hr', Option.getD_some] at hname
        exact ih _ (hoff ▸ a.graph.length_off_cons hid hlt) hr' hname rfl

/-- A visit of the names of some files goes as a search through the files. The nodes above are those
of files that have come up. -/
theorem visitAll_unfold (h : a.Drawn c) {seen : Set Path} {starts pre post : List Path}
    (hsearch : DepthFirst c.dependencies seen starts pre post)
    (hkeys : ∀ d ∈ starts, d ∈ a.results.keys) {above : List NodeId}
    (habove : ∀ f id, a.results.get? f = some (.node id) → id ∈ above → f ∈ seen)
    {o : PostOrder} (hseen : ∀ f, f ∈ o.entered ↔ f ∈ seen) :
    ∃ entered, Outline.visitAll o (starts.map fun d =>
        (d, a.graph.unfold above ((a.results.get? d).getD (.list [])))) =
      ⟨entered, o.left ++ post⟩ ∧ ∀ f, f ∈ entered ↔ f ∈ seen ∨ f ∈ pre := by
  induction hsearch generalizing above o with
  | done seen => exact ⟨o.entered, by simp [Outline.visitAll], by simpa using hseen⟩
  | @skip seen d rest pre post known _ ih =>
    rw [List.map_cons, Outline.visitAll, if_pos (List.contains_iff_mem.mpr ((hseen _).mpr known))]
    exact ih (fun d' hd' => hkeys d' (List.mem_cons_of_mem d hd')) habove hseen
  | @enter seen d rest pre post pre' post' fresh below others ih₁ ih₂ =>
    obtain ⟨hkey, hkeys⟩ := List.forall_mem_cons.mp hkeys
    obtain ⟨r, hr⟩ := Table.exists_of_mem_keys hkey
    obtain ⟨id, heq, hunfold⟩ := h.unfold_eq hr fun id heq hid => fresh (habove _ id (heq ▸ hr) hid)
    subst heq
    have habove₁ : ∀ f id', a.results.get? f = some (.node id') → id' ∈ id :: above →
        f ∈ insert d seen := by
      intro f id' hf hid'
      rcases List.mem_cons.mp hid' with rfl | hid'
      · exact Or.inl (h.apart.own _ _ _ hr hf)
      · exact Or.inr (habove f id' hf hid')
    have hkeys₁ : ∀ d' ∈ c.dependencies d, d' ∈ a.results.keys :=
      fun d' => h.mem_keys_of_dependency hkey
    obtain ⟨entered₁, hvisit₁, hentered₁⟩ := ih₁ hkeys₁ habove₁
      (o := ⟨d :: o.entered, o.left⟩) fun f => by simp [hseen]
    obtain ⟨entered₂, hvisit₂, hentered₂⟩ := ih₂ hkeys
      (fun f id' hf hid' => Or.inl (Or.inr (habove f id' hf hid')))
      (o := ⟨entered₁, o.left ++ post ++ [d]⟩) hentered₁
    refine ⟨entered₂, ?_, fun f => ?_⟩
    · rw [List.map_cons, Outline.visitAll,
        if_neg fun hold => fresh ((hseen _).mp (List.contains_iff_mem.mp hold)), hr,
        Option.getD_some, hunfold, Outline.visit, hvisit₁]
      simpa using hvisit₂
    · rw [hentered₂, Set.mem_union, Set.mem_insert_iff, Set.mem_ofPred_eq, List.cons_append,
        List.mem_cons, List.mem_append, or_comm (a := f = d), or_assoc, or_assoc]

end Cache.Drawn

/-- The outline of a call that started without results: visited name by name, it leaves the files in
the order in which the call has completed them. Its names are these files. -/
theorem Performed.renders {x : Context} {g : Graph} {y : Outcome} {s s₁ : State} {r : Ref}
    {v : Visited Ref} (p : Performed x ⟨g, []⟩ y s r s₁ v) (htree : x.shape = .tree) :
    ∃ root, y.result = .ok (.node root) ∧
      let outline := y.state.graph.outline (.node root)
      outline.postOrder = y.state.completed ∧
      ∀ name, name ∈ outline.names ↔ name ∈ y.state.completed := by
  obtain ⟨hdrawn, root, hresult, houtline, hentry, hown⟩ := p.drawn htree
  obtain ⟨pre, post, held, -, hsearch, -, hcompleted, hkeys⟩ := p.trace
  have hkeys' : ∀ f, f ∈ y.cache.results.keys ↔ f ∈ post := by
    intro f
    rw [hkeys, hsearch.mem_post_iff]
    exact Iff.rfl
  have hvisit : (y.state.graph.outline (.node root)).postOrder = post := by
    have habove : ∀ f id, y.cache.results.get? f = some (.node id) → id ∈ [root] →
        f ∈ Cache.files ⟨g, []⟩ := by
      intro f id hf hid
      obtain rfl := List.mem_singleton.mp hid
      exact absurd hf (hown f)
    have hentered : ∀ d ∈ [x.filename], d ∈ y.cache.results.keys := by
      simpa using Table.mem_keys hentry
    obtain ⟨entered, hvisit, -⟩ := hdrawn.visitAll_unfold hsearch hentered habove
      (o := .start) fun f => Iff.rfl
    rw [List.map_singleton, hentry, Option.getD_some] at hvisit
    rw [Outline.postOrder, houtline, Outline.visit]
    exact congrArg PostOrder.left hvisit
  rw [hcompleted]
  refine ⟨root, hresult, hvisit, fun name => ⟨fun hname => ?_, fun hname => ?_⟩⟩
  · rw [houtline, Outline.names, Outline.mem_namesIn_iff] at hname
    obtain ⟨m, hm, hname⟩ := hname
    obtain rfl := List.mem_singleton.mp hm
    rw [← hkeys']
    rcases hname with rfl | hbelow
    · exact Table.mem_keys hentry
    · exact hdrawn.names_unfold hentry hbelow
  · rw [← hvisit] at hname
    exact (Outline.mem_visit _ hname).resolve_left List.not_mem_nil

end Walk
end ModuleGraph
