import Mathlib.Data.List.Chain
import ModuleGraph.Proofs.Walk.Nodes

/-! The outline of a result in tree form is the unfolding of the graph. A way down through the
outline goes along dependencies, from the entry file; it may come to any file once, and to a file
that it has come to already once more, at its end. -/

namespace ModuleGraph

namespace Outline

def keys (o : Outline) : List Text := o.members.map (·.1)

def follow? : Outline → List Text → Option Outline
  | o, [] => some o
  | o, name :: rest => (Table.get? o.members name).bind fun sub => sub.follow? rest

theorem nowhere_iff {Route : Prop} {At : Outline → Prop} (h : ¬ Route) :
    ((∃ sub : Outline, none = some sub) ↔ Route) ∧ ∀ sub, none = some sub → At sub := by
  simp [h]

end Outline

namespace Walk

open ModuleGraph.Path

variable {c : Collaborators} {a : Cache} {above : List NodeId} {before : List Path} {r : Ref}

/-- A way down below some files: each file is a dependency of the one before it, and none but the
last may be one that the way has come to already. -/
structure Collaborators.Route (c : Collaborators) (before : List Path) (keys : List Path) :
    Prop where
  chain : keys.IsChain fun key d => d ∈ c.dependencies key
  nodup : (before ++ keys.dropLast).Nodup

theorem Collaborators.route_cons_iff {key₀ key₁ : Path} {keys : List Path} :
    c.Route before (key₀ :: key₁ :: keys) ↔
      key₁ ∈ c.dependencies key₀ ∧
        c.Route (before ++ [key₀]) (key₁ :: keys) := by
  have hfiles : before ++ (key₀ :: key₁ :: keys).dropLast =
      before ++ [key₀] ++ (key₁ :: keys).dropLast := by simp
  constructor
  · rintro ⟨hchain, hnodup⟩
    obtain ⟨hfirst, hchain⟩ := List.isChain_cons_cons.mp hchain
    exact ⟨hfirst, hchain, hfiles ▸ hnodup⟩
  · rintro ⟨hfirst, hchain, hnodup⟩
    exact ⟨hchain.cons_cons hfirst, hfiles ▸ hnodup⟩

def Collaborators.keysAt (c : Collaborators) (before : List Path) (keys : List Path) : List Path :=
  match keys.getLast? with
  | none => []
  | some f => if (before ++ keys.dropLast).contains f then [] else c.dependencies f

theorem Collaborators.keysAt_cons (key₀ key₁ : Path) (keys : List Path) :
    c.keysAt before (key₀ :: key₁ :: keys) =
      c.keysAt (before ++ [key₀]) (key₁ :: keys) := by
  simp [keysAt]

/-- The ways down through the outline below a file are those along the dependencies. The nodes above
are those of the files before. -/
theorem Cache.Drawn.follow_unfold (h : a.Drawn c) (keys : List Path) (key₀ : Path)
    (hr : a.results.get? key₀ = some r)
    (habove : ∀ f id, a.results.get? f = some (.node id) → (id ∈ above ↔ f ∈ before))
    (hbefore : before.Nodup) :
    ((∃ sub, (a.graph.unfold above r).follow? keys = some sub) ↔ c.Route before (key₀ :: keys)) ∧
      ∀ sub, (a.graph.unfold above r).follow? keys = some sub →
        sub.keys = c.keysAt before (key₀ :: keys) := by
  -- with every name the file of the name before it joins those above
  induction keys generalizing key₀ r above before with
  | nil =>
    have hroute : c.Route before [key₀] := ⟨by simp, by simpa using hbefore⟩
    refine ⟨⟨fun _ => hroute, fun _ => ⟨_, rfl⟩⟩, fun sub hsub => ?_⟩
    obtain rfl := Option.some.inj hsub
    obtain ⟨id, -, rfl, -⟩ := h.members_eq hr
    by_cases hseen : key₀ ∈ before
    · have hid := (habove _ id hr).mpr hseen
      rw [Graph.unfold, dif_neg fun hnot => hnot.1 hid]
      simp [Outline.keys, Outline.empty, Outline.members, Collaborators.keysAt, hseen]
    · obtain ⟨id', heq, hunfold⟩ := h.unfold_eq hr fun id' heq hid' =>
        hseen ((habove _ id' (heq ▸ hr)).mp hid')
      rw [hunfold]
      simp [Outline.keys, Outline.members, Collaborators.keysAt, hseen, Function.comp_def]
  | cons key₁ keys ih =>
    obtain ⟨id, -, rfl, -⟩ := h.members_eq hr
    rw [Collaborators.route_cons_iff, Collaborators.keysAt_cons]
    by_cases hseen : key₀ ∈ before
    · -- the outline is cut off here
      have hid := (habove _ id hr).mpr hseen
      have hnone : (a.graph.unfold above (.node id)).follow? (key₁ :: keys) = none := by
        rw [Graph.unfold, dif_neg fun hnot => hnot.1 hid]
        rfl
      rw [hnone]
      refine Outline.nowhere_iff fun hroute => ?_
      have htwice := (List.nodup_append.mp hroute.2.nodup).1
      exact absurd rfl ((List.nodup_append.mp htwice).2.2 _ hseen _ (List.mem_singleton_self _))
    · obtain ⟨id', heq, hunfold⟩ := h.unfold_eq hr fun id' heq hid' =>
        hseen ((habove _ id' (heq ▸ hr)).mp hid')
      obtain rfl := Ref.node.inj heq
      rw [hunfold, Outline.follow?, Outline.members, Table.get?_map_mk]
      by_cases hdep : key₁ ∈ c.dependencies key₀
      · have hkey := h.mem_keys_of_dependency (Table.mem_keys hr) hdep
        obtain ⟨r₁, hr₁⟩ := Table.exists_of_mem_keys hkey
        rw [if_pos hdep, Option.bind_some, hr₁, Option.getD_some]
        have habove' : ∀ f id', a.results.get? f = some (.node id') →
            (id' ∈ id :: above ↔ f ∈ before ++ [key₀]) := by
          intro f id' hf
          rw [List.mem_cons, List.mem_append, List.mem_singleton, or_comm, habove f id' hf]
          refine or_congr_right ⟨?_, ?_⟩
          · rintro rfl
            exact h.apart.own _ _ _ hr hf
          · rintro rfl
            exact Ref.node.inj (Option.some.inj (hf.symm.trans hr))
        have hbefore' : (before ++ [key₀]).Nodup :=
          hbefore.append (List.nodup_singleton _) (by simpa using hseen)
        obtain ⟨hexists, hkeys⟩ := ih key₁ hr₁ habove' hbefore'
        exact ⟨hexists.trans (and_iff_right hdep).symm, hkeys⟩
      · rw [if_neg hdep, Option.bind_none]
        exact Outline.nowhere_iff fun hroute => hdep hroute.1

theorem Performed.follow_outline {x : Context} {g : Graph} {y : Outcome} {s s₁ : State} {r : Ref}
    {v : Visited Ref} (p : Performed x ⟨g, []⟩ y s r s₁ v) (htree : x.shape = .tree) :
    ∃ root, y.result = .ok (.node root) ∧
      (y.state.graph.outline (.node root)).keys = [x.filename] ∧
      ∀ name rest,
        ((∃ sub, (y.state.graph.outline (.node root)).follow? (name :: rest) = some sub) ↔
          name = x.filename ∧ x.collaborators.Route [] (name :: rest)) ∧
        ∀ sub, (y.state.graph.outline (.node root)).follow? (name :: rest) = some sub →
          sub.keys = x.collaborators.keysAt [] (name :: rest) := by
  obtain ⟨hdrawn, root, hresult, houtline, hentry, hown⟩ := p.drawn htree
  have habove : ∀ f id, y.cache.results.get? f = some (.node id) → (id ∈ [root] ↔ f ∈ []) := by
    intro f id hf
    have hne : id ≠ root := fun heq => hown f (heq ▸ hf)
    simp [hne]
  refine ⟨root, hresult, by rw [houtline]; rfl, fun name rest => ?_⟩
  rw [houtline, Outline.follow?, Outline.members, Table.get?]
  by_cases hname : x.filename = name
  · subst hname
    rw [if_pos rfl, Option.bind_some]
    obtain ⟨hexists, hkeys⟩ := hdrawn.follow_unfold rest x.filename hentry habove List.nodup_nil
    exact ⟨hexists.trans (and_iff_right rfl).symm, hkeys⟩
  · rw [if_neg hname]
    exact Outline.nowhere_iff fun hroute => hname hroute.1.symm

variable {w : World} {o : Options} {x : Context}

/-- The outline of a call in tree form from an entry file that is there, if the call starts without
results and ends with one, as it does unless the filter breaks it off. It is finite. It has a way
down along some files exactly if they start with the entry file, each is a dependency of the one
before it, and all but the last are different. Below the last one stand its dependencies, in order;
or nothing, if the way has come to it already. -/
theorem outline_unfolds_graph (h : Context.ofOptions w o = .ok x) (htree : o.shape = .tree)
    (hanchor : isAbsolute x.anchor = true) (hpresent : w.pathExists x.filename = true) (g : Graph)
    (unresolved : List Text) :
    let c := x.collaborators
    ∃ y, perform w o ⟨g, []⟩ unresolved = .ok y ∧ (c.Decisive → ∃ r, y.result = .ok r) ∧
      ∀ r, y.result = .ok r →
        let outline := y.state.graph.outline r
        outline.keys = [x.filename] ∧
        ∀ keys, keys ≠ [] →
          ((∃ sub, outline.follow? keys = some sub) ↔ keys.head? = some x.filename ∧
            keys.IsChain c.Edge ∧ keys.dropLast.Nodup) ∧
          ∀ sub, outline.follow? keys = some sub → ∀ f, keys.getLast? = some f →
            sub.keys = if f ∈ keys.dropLast then [] else c.dependencies f := by
  intro c
  have hshape : x.shape = .tree := (Context.fits h).shape.trans htree
  obtain ⟨y, hperform, hcases⟩ :=
    perform_cases h hanchor c.decides_decided hpresent ⟨g, []⟩ unresolved
  refine ⟨y, hperform, fun hc => ?_, fun r hr => ?_⟩
  · rcases hcases with ⟨r, s₁, v, -, p⟩ | ⟨hbreaks, -⟩
    · exact ⟨_, p.result⟩
    · exact absurd hc hbreaks
  · rcases hcases with ⟨r', s₁, v, -, p⟩ | ⟨-, reason, stack, -, -, -, hbroken⟩
    · obtain ⟨root, hresult, hkeys, hfollow⟩ := p.follow_outline hshape
      obtain rfl : r = .node root := Except.ok.inj (hr.symm.trans hresult)
      refine ⟨hkeys, fun keys hne => ?_⟩
      obtain ⟨name, rest, rfl⟩ := List.exists_cons_of_ne_nil hne
      obtain ⟨hexists, hat⟩ := hfollow name rest
      have hdependencies : c.decided.dependencies = c.dependencies :=
        Collaborators.decided_dependencies
      have hedge : (fun key d => d ∈ c.decided.dependencies key) = c.Edge := by
        rw [hdependencies, Collaborators.mem_dependencies_eq_edge]
      refine ⟨hexists.trans ?_, fun sub hsub f hf => ?_⟩
      · rw [List.head?_cons, Option.some_inj]
        refine and_congr_right fun _ =>
          ⟨fun hroute => ⟨?_, hroute.nodup⟩, fun hroute => ⟨?_, hroute.2⟩⟩
        · exact hedge ▸ hroute.chain
        · exact hedge ▸ hroute.1
      · rw [hat sub hsub, ← hdependencies]
        simp only [Collaborators.keysAt, hf, List.nil_append, List.contains_iff_mem]
    · rw [hbroken] at hr
      cases hr

theorem outline_of_two_files_unfolds : ∃ y r sub,
    perform TwoFiles.world (TwoFiles.options .tree ['/', 'f']) ⟨.empty, []⟩ [] = .ok y ∧
      y.result = .ok r ∧
      (y.state.graph.outline r).follow? [['/', 'f'], ['/', 'd'], ['/', 'f']] = some sub ∧
      sub.keys = [] := by
  have hname : given (some ['/', 'f']) = some ['/', 'f'] := rfl
  obtain ⟨y, hperform, hends, hunfolds⟩ :=
    outline_unfolds_graph (TwoFiles.ofOptions_eq .tree hname) rfl rfl
      (by decide +kernel) .empty []
  obtain ⟨r, hr⟩ := hends (TwoFiles.decisive .tree ['/', 'f'])
  obtain ⟨-, hways⟩ := hunfolds r hr
  obtain ⟨hexists, hkeys⟩ := hways [['/', 'f'], ['/', 'd'], ['/', 'f']] (by decide)
  rw [← Collaborators.mem_dependencies_eq_edge] at hexists
  obtain ⟨sub, hsub⟩ := hexists.mpr ⟨by decide +kernel, by decide +kernel, by decide +kernel⟩
  exact ⟨y, r, sub, hperform, hr, hsub, (hkeys sub hsub ['/', 'f'] (by decide +kernel)).trans
    (by decide +kernel)⟩

end Walk
end ModuleGraph
