import ModuleGraph.Proofs.Walk.Extraction
import ModuleGraph.Proofs.Walk.Finished
import ModuleGraph.Proofs.Walk.Listing
import ModuleGraph.Proofs.Walk.Settling

/-! Calls in list form that share a cache. Whether a list is put together within a walk or settled
after it, the cache holds the depth-first post-order of each of its files after every call. So no
call can tell which calls came before it. -/

namespace ModuleGraph.Walk

open ModuleGraph.Path DepthFirst

variable {w : World} {o : Options} {x : Context} {c : Collaborators} {cache : Cache} {s s₁ : State}
  {y : Outcome} {r : Ref} {v : Visited Ref}

theorem Cache.Full.finished (h : cache.Full c) (hs : cache.Begins s) : Finished c s := by
  have hfinished : s.finished = cache.files := by
    ext f
    simp only [State.finished, Cache.files, Set.mem_ofPred_eq, hs.stage f]
    by_cases hf : f ∈ cache.results.keys <;> simp [hf]
  exact ⟨hfinished ▸ h.closed, hfinished ▸ (h.standing hs).full⟩

theorem Trace.get?_dependencies {paths pre post held : List Path}
    (t : Trace c s paths s₁ pre post held) (hs : cache.Begins s) (f : Path) :
    s₁.dependencies.get? f = if f ∈ pre then some (c.dependencies f) else none := by
  rw [t.recorded, hs.dependencies]
  rfl

theorem Performed.pending_eq {pre post held : List Path} (p : Performed x cache y s r s₁ v)
    (t : Trace x.collaborators s [x.filename] s₁ pre post held) : s₁.pending = held := by
  rw [t.pending, p.begins.pending, List.nil_append]

/-- Settling leaves the lists alone that are not held back, and that of the entry file. -/
theorem Performed.get?_kept (p : Performed x cache y s r s₁ v) (hlist : x.shape = .list)
    {f : Path} (hf : f ∉ s₁.pending ∨ f = x.filename) :
    y.cache.results.get? f = s₁.visited.results.get? f := by
  rw [p.results_cache, State.settlement, hlist, Shape.get?_settle_of_not_mem]
  rw [List.mem_filter, decide_eq_true_eq]
  exact fun hmem => hf.elim (· hmem.1) hmem.2

theorem Performed.get?_held {pre post held : List Path}
    (p : Performed x cache y s r s₁ v) (hlist : x.shape = .list)
    (hcache : cache.Full x.collaborators)
    (t : Trace x.collaborators s [x.filename] s₁ pre post held) {f : Path} (hf : f ∈ held)
    (hne : f ≠ x.filename) :
    ∃ post, PostOrderFrom x.collaborators.dependencies f post ∧
      y.cache.results.get? f = some (.list post) := by
  have hrecorded := t.get?_dependencies p.begins
  have hkeys : ∀ d, d ∈ s₁.dependencies.keys ↔ d ∈ pre := by
    intro d
    rw [← not_iff_not, ← Table.get?_eq_none_iff, hrecorded]
    by_cases hd : d ∈ pre <;> simp [hd]
  have hold : ∀ d ∈ cache.files, d ∉ pre := by
    intro d hd hpre
    exact t.search.not_mem_seen hpre (p.begins.seen ▸ hd)
  have hnext : ∀ u deps, s₁.dependencies.get? u = some deps →
      u ∈ pre ∧ x.collaborators.dependencies u = deps := by
    intro u deps hdeps
    rw [hrecorded] at hdeps
    split at hdeps
    · next hu => exact ⟨hu, Option.some.inj hdeps⟩
    · cases hdeps
  have hfull : ∀ d ∈ cache.files, ∃ post, PostOrderFrom x.collaborators.dependencies d post ∧
      s₁.visited.results.get? d = some (.list post) := by
    intro d hd
    have hseen : d ∈ s.seen := p.begins.seen ▸ hd
    rw [p.walked.result_eq hseen]
    exact (hcache.standing p.begins).full d hd
  rw [p.results_cache, State.settlement, hlist, p.pending_eq t]
  refine Shape.postOrder_settle hcache.closed hfull
    (fun d hd => by rw [hrecorded, if_neg (hold d hd)]) (fun u deps hdeps => (hnext u deps hdeps).2)
    (fun u deps hdeps d hd => ?_) (fun d hd => ?_)
    (List.mem_filter.mpr ⟨hf, decide_eq_true hne⟩)
  · obtain ⟨hu, rfl⟩ := hnext u deps hdeps
    have hseen := t.search.mem_of_next hu hd
    rwa [p.begins.seen, ← hkeys] at hseen
  · exact (hkeys d).mpr (t.held_subset (List.mem_filter.mp hd).1)

theorem Performed.postOrder {pre post held : List Path} (p : Performed x cache y s r s₁ v)
    (hlist : x.shape = .list) (hcache : cache.Full x.collaborators)
    (t : Trace x.collaborators s [x.filename] s₁ pre post held) {f : Path} (hf : f ∈ pre) :
    ∃ post, PostOrderFrom x.collaborators.dependencies f post ∧
      y.cache.results.get? f = some (.list post) := by
  have hkept : f ∉ held ∨ f = x.filename →
      y.cache.results.get? f = s₁.visited.results.get? f :=
    fun hf => p.get?_kept hlist (by rwa [p.pending_eq t])
  by_cases hheld : f ∈ held
  · by_cases hname : f = x.filename
    · -- the entry file itself, whose list came out of the walk
      obtain ⟨entryPost, hentryPost, hentry, -⟩ := p.list hlist hcache
      rw [hkept (Or.inr hname), hname]
      exact ⟨entryPost, hentryPost, hentry⟩
    · exact p.get?_held hlist hcache t hheld hname
  · -- a file that was finished within the walk
    have hdone : f ∈ s₁.finished := by
      show s₁.visited.stage f = .done
      rw [t.stage, if_neg hheld, if_pos hf]
    have hwalked := p.walked
    rw [hlist] at hwalked
    rw [hkept (Or.inl hheld)]
    exact (hwalked.finished (hcache.finished p.begins)).full f hdone

theorem Performed.full (p : Performed x cache y s r s₁ v) (hlist : x.shape = .list)
    (hcache : cache.Full x.collaborators) : y.cache.Full x.collaborators := by
  obtain ⟨pre, post, held, t, hsearch, -, -, hkeys⟩ := p.trace
  have hfiles : ∀ f, f ∈ y.cache.files ↔ f ∈ cache.files ∨ f ∈ pre := by
    intro f
    simp only [Cache.files, Set.mem_ofPred_eq, hkeys, List.mem_append]
  have hfull : ∀ f ∈ y.cache.files, ∃ post, PostOrderFrom x.collaborators.dependencies f post ∧
      y.cache.results.get? f = some (.list post) := by
    intro f hf
    rcases (hfiles f).mp hf with hold | hpre
    · have hseen : f ∈ s.seen := p.begins.seen ▸ hold
      have hheld : f ∉ s₁.pending := fun h =>
        hsearch.not_mem_seen (t.held_subset (p.pending_eq t ▸ h)) hold
      rw [p.get?_kept hlist (Or.inl hheld), p.walked.result_eq hseen]
      exact (hcache.standing p.begins).full f hold
    · exact p.postOrder hlist hcache t hpre
  refine ⟨p.nodup_keys hcache.nodup, fun u hu d hd => ?_, fun f r hr => ?_⟩
  · rw [hfiles] at hu ⊢
    exact hu.elim (fun h => Or.inl (hcache.closed u h d hd)) fun h => hsearch.mem_of_next h hd
  · have hf : f ∈ y.cache.files := by
      by_contra hnone
      rw [Table.get?_eq_none_iff.mpr hnone] at hr
      cases hr
    obtain ⟨post, hpost, hresult⟩ := hfull f hf
    exact ⟨post, hpost, Option.some.inj (hr.symm.trans hresult)⟩

theorem perform_of_full (h : Context.ofOptions w o = .ok x) (hlist : o.shape = .list)
    (hanchor : isAbsolute x.anchor = true) (hc : x.collaborators.Decisive)
    (hcache : cache.Full x.collaborators) (unresolved : List Text) :
    ∃ y, perform w o cache unresolved = .ok y ∧ y.context = x ∧ y.cache.Full x.collaborators ∧
      (w.pathExists x.filename = true → ∃ post, y.result = .ok (.list post) ∧
        PostOrderFrom x.collaborators.dependencies x.filename post) ∧
      (w.pathExists x.filename = false → y.result = .ok (.list [])) := by
  have hx := Context.fits h
  have hshape : x.shape = .list := hx.shape.trans hlist
  cases hpresent : w.pathExists x.filename with
  | true =>
    obtain ⟨y, s, r, s₁, v, hperform, p⟩ := perform_of_found h hanchor hc hpresent cache unresolved
    obtain ⟨post, hpost, -, hresult⟩ := p.list hshape hcache
    have hfull := p.full hshape hcache
    exact ⟨y, hperform, context_of_perform h hperform, hfull, fun _ => ⟨post, hresult, hpost⟩,
      fun h => Bool.noConfusion h⟩
  | false =>
    obtain ⟨y, hperform, hcontext, hresult, hafter, -⟩ :=
      perform_of_absent h hpresent cache unresolved
    rw [hshape] at hresult
    refine ⟨y, hperform, hcontext, ?_, fun h => Bool.noConfusion h, fun _ => hresult⟩
    rw [hafter]
    exact ⟨hcache.nodup, hcache.closed, hcache.full⟩

/-- Calls in list form that share a cache, which is empty at first, and differ in their entry files
alone: each gives what it gives on an empty cache, the depth-first post-order from its entry file,
and after each of them the cache holds for each of its files the post-order from that file. -/
theorem list_calls_independent_of_history (h : Context.ofOptions w o = .ok x)
    (hlist : o.shape = .list) (hanchor : isAbsolute x.anchor = true)
    (hc : x.collaborators.Decisive) {calls : List Call}
    (hcalls : ∀ call ∈ calls, ∃ name, call.options = { o with filename := name }) :
    List.Forall₂ (fun call outcome =>
      outcome.map Outcome.result =
        (perform w call.options .empty call.unresolved).map Outcome.result ∧
      ∀ y, outcome = .ok y →
        let next := x.collaborators.dependencies
        (w.pathExists y.context.filename = true → ∃ post, y.result = .ok (.list post) ∧
          PostOrderFrom next y.context.filename post) ∧
        (w.pathExists y.context.filename = false → y.result = .ok (.list [])) ∧
        ∀ f r, y.cache.results.get? f = some r → ∃ post, PostOrderFrom next f post ∧ r = .list post)
      calls (outcomes w .empty calls) := by
  refine (forall₂_outcomes (Cache.Full x.collaborators) (Cache.full_of_empty _) ?_).1
  intro cache hcache call hcall
  obtain ⟨name, hoptions⟩ := hcalls call hcall
  have hrenamed := (Context.fits h).renamed name
  rw [← hoptions] at hrenamed
  cases hname : given name with
  | none =>
    rw [hname] at hrenamed
    simp only [perform_of_rejected hrenamed]
    exact ⟨⟨trivial, fun y hy => by cases hy⟩, hcache⟩
  | some filename =>
    rw [hname] at hrenamed
    have hform : call.options.shape = .list := by rw [hoptions]; exact hlist
    obtain ⟨y, hperform, hcontext, hfull, hpresent, habsent⟩ :=
      perform_of_full hrenamed hform hanchor hc hcache call.unresolved
    obtain ⟨y₀, hperform₀, -, -, hpresent₀, habsent₀⟩ :=
      perform_of_full hrenamed hform hanchor hc (Cache.full_of_empty .empty)
        call.unresolved
    have hsame : y.result = y₀.result := by
      cases hfile : w.pathExists (w.canonical filename (some x.anchor)) with
      | true =>
        obtain ⟨post, hresult, hpost⟩ := hpresent hfile
        obtain ⟨post₀, hresult₀, hpost₀⟩ := hpresent₀ hfile
        rw [hresult, hresult₀, hpost.unique hpost₀]
      | false => rw [habsent hfile, habsent₀ hfile]
    have hempty : perform w call.options .empty call.unresolved = .ok y₀ := hperform₀
    simp only [hperform, hempty]
    refine ⟨⟨congrArg Except.ok hsame, ?_⟩, hfull⟩
    rintro y' ⟨⟩
    rw [hcontext]
    exact ⟨hpresent, habsent, hfull.full⟩

theorem list_calls_on_two_files :
    let calls := TwoFiles.calls .list
    List.Forall₂ (fun call outcome => outcome.map Outcome.result =
        (perform TwoFiles.world call.options .empty call.unresolved).map Outcome.result)
      calls (outcomes TwoFiles.world .empty calls) := by
  intro calls
  have hcalls : ∀ call ∈ calls, ∃ name,
      call.options = { TwoFiles.options .list ['/', 'd'] with filename := name } := by
    intro call hcall
    obtain ⟨name, -, hoptions⟩ := TwoFiles.mem_calls hcall
    exact ⟨some name, hoptions⟩
  have h := list_calls_independent_of_history (TwoFiles.ofOptions_eq .list rfl) rfl rfl
    (TwoFiles.decisive .list ['/', 'd']) hcalls
  exact h.imp fun _ _ hcall => hcall.1

end ModuleGraph.Walk
