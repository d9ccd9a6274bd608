import ModuleGraph.Proofs.Walk.Growth
import ModuleGraph.Proofs.Walk.Needs

/-! How lists end. Whatever the lists of a cache hold, a list that a call makes has no repeats, and
its own file stands at its end and nowhere else. This is so for the lists that are put together
within the walk, and for those that are made anew after it. -/

namespace ModuleGraph

def EndsWith (file : Path) (list : List Path) : Prop :=
  ∃ before, list = before ++ [file] ∧ before.Nodup ∧ file ∉ before

namespace EndsWith

variable {file : Path} {list : List Path}

theorem nodup (h : EndsWith file list) : list.Nodup := by
  obtain ⟨before, rfl, hnodup, hnot⟩ := h
  refine hnodup.append (List.nodup_singleton file) fun a ha hfile => ?_
  exact hnot (List.mem_singleton.mp hfile ▸ ha)

theorem of_distinct (names : List Text) (file : Path) :
    EndsWith file ((distinct names).filter (· ≠ file) ++ [file]) :=
  ⟨_, rfl, (nodup_distinct names).filter _, by simp⟩

end EndsWith

namespace PostOrder

variable {o o' o'' : PostOrder} {file : Path} {new new' : List Path}
  {dependencies : Table Path (List Path)} {known : Path → List Text} {fuel : ℕ}

/-- From `o` to `o'` the names `new` have been left, each once. They have been entered on the way,
and not before. -/
structure Adds (o o' : PostOrder) (new : List Path) : Prop where
  left : o'.left = o.left ++ new
  entered : ∀ a ∈ o.entered, a ∈ o'.entered
  nodup : new.Nodup
  fresh : ∀ a ∈ new, a ∉ o.entered ∧ a ∈ o'.entered

namespace Adds

theorem refl (o : PostOrder) : Adds o o [] :=
  ⟨(List.append_nil _).symm, fun _ => id, List.nodup_nil, by simp⟩

theorem trans (h : Adds o o' new) (h' : Adds o' o'' new') : Adds o o'' (new ++ new') := by
  refine ⟨?_, fun a ha => h'.entered a (h.entered a ha), ?_, fun a ha => ?_⟩
  · rw [h'.left, h.left, List.append_assoc]
  · exact h.nodup.append h'.nodup fun a ha ha' => (h'.fresh a ha').1 (h.fresh a ha).2
  · rcases List.mem_append.mp ha with ha | ha
    · exact ⟨(h.fresh a ha).1, h'.entered a (h.fresh a ha).2⟩
    · exact ⟨fun hold => (h'.fresh a ha).1 (h.entered a hold), (h'.fresh a ha).2⟩

theorem foldl {f : PostOrder → Path → PostOrder} (hf : ∀ o a, ∃ new, Adds o (f o a) new)
    (files : List Path) (o : PostOrder) : ∃ new, Adds o (files.foldl f o) new := by
  induction files generalizing o with
  | nil => exact ⟨[], refl o⟩
  | cons file rest ih =>
    obtain ⟨new, hstep⟩ := hf o file
    obtain ⟨new', hrest⟩ := ih (f o file)
    exact ⟨new ++ new', hstep.trans hrest⟩

theorem take (o : PostOrder) (name : Path) : ∃ new, Adds o (take o name) new := by
  unfold PostOrder.take
  split
  · exact ⟨[], refl o⟩
  · next hnew =>
    exact ⟨[name], rfl, fun a => List.mem_cons_of_mem name, List.nodup_singleton name,
      by simp [hnew]⟩

theorem enter (h : Adds ⟨file :: o.entered, o.left⟩ o' new) (hfile : file ∉ o.entered) :
    Adds o ⟨o'.entered, o'.left ++ [file]⟩ (new ++ [file]) ∧ file ∉ new := by
  have hnot : file ∉ new := fun hmem => (h.fresh file hmem).1 List.mem_cons_self
  refine ⟨⟨?_, fun a ha => h.entered a (List.mem_cons_of_mem file ha), ?_, fun a ha => ?_⟩, hnot⟩
  · rw [h.left, List.append_assoc]
  · refine h.nodup.append (List.nodup_singleton file) fun a ha hself => ?_
    exact hnot (List.mem_singleton.mp hself ▸ ha)
  · rcases List.mem_append.mp ha with ha | ha
    · have hfresh := h.fresh a ha
      exact ⟨fun hold => hfresh.1 (List.mem_cons_of_mem file hold), hfresh.2⟩
    · obtain rfl := List.mem_singleton.mp ha
      exact ⟨hfile, h.entered a List.mem_cons_self⟩

end Adds

theorem visit_succ_adds
    (hvisit : ∀ o d, d ∉ o.entered → ∃ new, Adds o (visit dependencies known fuel o d) new)
    (hfile : file ∉ o.entered) : ∃ new,
    Adds o (visit dependencies known (fuel + 1) o file) (new ++ [file]) ∧ file ∉ new := by
  cases hdeps : dependencies.get? file with
  | some deps =>
    obtain ⟨new, hbelow⟩ := Adds.foldl (f := fun (o : PostOrder) d =>
      if d ∈ o.entered then o else visit dependencies known fuel o d) (fun o d => by
        split
        · exact ⟨[], .refl o⟩
        · next hd => exact hvisit o d hd) deps ⟨file :: o.entered, o.left⟩
    rw [visit_recorded hdeps]
    exact ⟨new, hbelow.enter hfile⟩
  | none =>
    obtain ⟨new, htaken⟩ := Adds.foldl Adds.take (known file) ⟨file :: o.entered, o.left⟩
    simp only [visit, hdeps]
    exact ⟨new, htaken.enter hfile⟩

theorem visit_adds (fuel : ℕ) (o : PostOrder) (file : Path) (hfile : file ∉ o.entered) :
    ∃ new, Adds o (visit dependencies known fuel o file) new := by
  induction fuel generalizing o file with
  | zero => exact ⟨[], .refl o⟩
  | succ fuel ih =>
    obtain ⟨new, hadds, -⟩ := visit_succ_adds ih hfile
    exact ⟨new ++ [file], hadds⟩

/-- A list that is made anew ends with its file, whatever the lists are that it takes over. -/
theorem endsWith_below (dependencies : Table Path (List Path)) (known : Path → List Text)
    (file : Path) : EndsWith file (below dependencies known file) := by
  have hfile : file ∉ start.entered := List.not_mem_nil
  obtain ⟨new, hadds, hnot⟩ : ∃ new, Adds start
      (visit dependencies known (dependencies.length + 1) start file) (new ++ [file]) ∧
        file ∉ new :=
    visit_succ_adds (visit_adds dependencies.length) hfile
  have hnodup := hadds.nodup
  rw [List.nodup_append] at hnodup
  exact ⟨new, hadds.left, hnodup.1, hnot⟩

end PostOrder

namespace Walk

open ModuleGraph.Path

variable {w : World} {o : Options} {x : Context} {c : Collaborators} {cache : Cache}
  {s s₁ s' : State} {y : Outcome} {r : Ref} {v : Visited Ref} {paths : List Path}
  {results : List Ref} {f : Path}

theorem Collaborators.endsWith_gathered (c : Collaborators) (names : Path → List Text)
    (file : Path) : EndsWith file (c.gathered names file) :=
  .of_distinct _ file

theorem Walked.endsWith (h : Walked c .list s paths results s') (hnew : f ∉ s.seen)
    (hseen : f ∈ s'.seen) :
    ∃ list, s'.visited.results.get? f = some (.list list) ∧ EndsWith f list := by
  induction h with
  | done => exact absurd hseen hnew
  | known _ _ _ _ ih => exact ih hnew hseen
  | @fresh s s₁ s' file rest below results notes unseen inner others ih₁ ih₂ =>
    by_cases hleft : f ∈ (s₁.left .list file ((c.dependencies file).zip below)
        (s.provisional .list)).seen
    · rw [others.result_eq hleft]
      by_cases hff : f = file
      · subst hff
        exact ⟨_, inner.get?_left _, c.endsWith_gathered _ f⟩
      · -- a file below, whose list stays
        rw [State.seen_left] at hleft
        rw [State.seen_entered] at ih₁
        rw [State.left, Visited.results_put, Table.get?_set, if_neg hff]
        exact ih₁ (fun h => h.elim hff hnew) (hleft.resolve_left hff)
    · exact ih₂ hleft hseen

namespace Performed

variable (p : Performed x cache y s r s₁ v) (hlist : x.shape = .list)
include p hlist

theorem endsWith (hf : f ∈ y.state.extracted) :
    ∃ list, y.cache.results.get? f = some (.list list) ∧ EndsWith f list := by
  rw [p.results_cache, State.settlement, hlist]
  by_cases hstale : f ∈ s₁.pending.filter (· ≠ x.filename)
  · obtain ⟨others, -, hsettle⟩ := Shape.get?_settle_of_mem s₁.graph s₁.dependencies
      s₁.visited.results hstale
    exact ⟨_, hsettle, PostOrder.endsWith_below _ _ f⟩
  · rw [Shape.get?_settle_of_not_mem hstale]
    obtain ⟨pre, post, held, t, -, hextracted, -, -⟩ := p.trace
    have hwalked := p.walked
    rw [hlist] at hwalked
    exact hwalked.endsWith (t.search.not_mem_seen (hextracted ▸ hf))
      (t.seen_eq ▸ Or.inr (hextracted ▸ hf))

theorem endsWith_result (hnew : x.filename ∉ cache.files) :
    ∃ list, y.result = .ok (.list list) ∧ EndsWith x.filename list := by
  have hwalked := p.walked
  rw [hlist] at hwalked
  obtain ⟨⟨hseen, hhit⟩, -⟩ := List.forall₂_cons.mp hwalked.hits
  obtain ⟨list, hresult, hends⟩ := hwalked.endsWith (p.begins.seen ▸ hnew) hseen
  obtain rfl : r = .list list := Option.some.inj (hhit.symm.trans hresult)
  refine ⟨list, ?_, hends⟩
  rw [p.result, hlist, Shape.finalize, Graph.namesOf, distinct_of_nodup hends.nodup]

end Performed

theorem endsWith_of_perform (h : Context.ofOptions w o = .ok x) (hlist : o.shape = .list)
    (hanchor : isAbsolute x.anchor = true) (hpresent : w.pathExists x.filename = true)
    {unresolved : List Text} (hy : perform w o cache unresolved = .ok y) (hr : y.result = .ok r)
    (hnew : x.filename ∉ cache.files) :
    ∃ list, r = .list list ∧ EndsWith x.filename list := by
  obtain ⟨r', s₁, v, -, p⟩ :=
    performed_of_ok h hanchor x.collaborators.decides_decided hpresent hy ⟨r, hr⟩
  obtain ⟨list, hresult, hends⟩ := p.endsWith_result ((Context.fits h).shape.trans hlist) hnew
  exact ⟨list, Except.ok.inj (hr.symm.trans hresult), hends⟩

/-- A call in list form on any cache, whatever its lists hold. With a filter that gives a verdict it
ends with a result. If it does, the list of each file that it has walked has no repeats and ends
with the file, which stands in it nowhere else; and so it is with the result and the entry file, if
the entry file is there and the cache did not have it. -/
theorem lists_end_with_their_file (h : Context.ofOptions w o = .ok x) (hlist : o.shape = .list)
    (hanchor : isAbsolute x.anchor = true) (cache : Cache) (unresolved : List Text) :
    ∃ y, perform w o cache unresolved = .ok y ∧
      (x.collaborators.Decisive → ∃ r, y.result = .ok r) ∧
      ∀ r, y.result = .ok r →
        (∀ f ∈ y.state.extracted, ∃ list, y.cache.results.get? f = some (.list list) ∧
          EndsWith f list) ∧
        (w.pathExists x.filename = true → x.filename ∉ cache.files →
          ∃ list, r = .list list ∧ EndsWith x.filename list) := by
  obtain ⟨s, -, -, hperform⟩ := perform_eq h cache unresolved
  refine ⟨_, hperform, fun hc => exists_result_of_decisive h hanchor hc hperform,
    fun r hr => ⟨fun f hf => ?_, fun hpresent hnew =>
      endsWith_of_perform h hlist hanchor hpresent hperform hr hnew⟩⟩
  cases hpresent : w.pathExists x.filename with
  | false =>
    obtain ⟨-, -, hextracted⟩ := outcome_of_absent h hpresent hperform
    rw [hextracted] at hf
    cases hf
  | true =>
    obtain ⟨r', s₁, v, -, p⟩ :=
      performed_of_ok h hanchor x.collaborators.decides_decided hpresent hperform ⟨r, hr⟩
    exact p.endsWith ((Context.fits h).shape.trans hlist) hf

theorem list_of_four_files_ends_with_entry :
    let items : List Text := [['/', 'e'], ['/', 'z'], ['/', 'e'], ['/', 'f']]
    ∃ y list, perform FourFiles.world (FourFiles.options ['/', 'e'] .absent)
        (FourFiles.seeded items) [] = .ok y ∧
      y.result = .ok (.list list) ∧ EndsWith ['/', 'e'] list := by
  intro items
  obtain ⟨y, hperform, hends, hall⟩ :=
    lists_end_with_their_file FourFiles.ofOptions_eq rfl rfl (FourFiles.seeded items) []
  obtain ⟨r, hr⟩ := hends fun _ h => by cases h
  obtain ⟨list, rfl, hlist⟩ := (hall r hr).2 (by decide +kernel) fun hmem => by
    have hk := FourFiles.mem_files.mp hmem
    revert hk
    decide +kernel
  exact ⟨y, list, hperform, hr, hlist⟩

end Walk
end ModuleGraph
