import ModuleGraph.Proofs.Walk.Perform

/-! What a call extracts: the files that the entry file leads to past the cache, each once, in the
order in which a depth-first search enters them. In this order they come into the cache, so that no
later call extracts them again. -/

namespace ModuleGraph.Walk

open ModuleGraph.Path Relation

variable {w : World} {o : Options} {x : Context} {cache : Cache} {y : Outcome} {s s₁ : State}
  {r : Ref} {v : Visited Ref}

def extractions (outcome : Except Options.Fault Outcome) : List Path :=
  match outcome with
  | .ok y => y.state.extracted
  | .error _ => []

theorem Performed.trace (p : Performed x cache y s r s₁ v) : ∃ pre post held,
    Trace x.collaborators s [x.filename] s₁ pre post held ∧
      DepthFirst x.collaborators.dependencies cache.files [x.filename] pre post ∧
      y.state.extracted = pre ∧ y.state.completed = post ∧
      y.cache.results.keys = cache.results.keys ++ pre := by
  obtain ⟨pre, post, held, t⟩ := p.walked.trace
  have hkeys := t.keys p.begins.paired
  refine ⟨pre, post, held, t, ?_, ?_, ?_, ?_⟩
  · have hsearch := t.search
    rwa [p.begins.seen] at hsearch
  · rw [p.extracted, t.extracted, p.begins.extracted, List.nil_append]
  · rw [p.completed, t.completed, p.begins.completed, List.nil_append]
  · rw [Outcome.cache, p.visited, p.settled.keys, hkeys, p.begins.results]

theorem Performed.nodup_keys (p : Performed x cache y s r s₁ v)
    (hkeys : cache.results.keys.Nodup) : y.cache.results.keys.Nodup := by
  obtain ⟨pre, post, held, -, hsearch, -, -, hafter⟩ := p.trace
  rw [hafter]
  exact hkeys.append hsearch.nodup_pre fun f hf hpre => hsearch.not_mem_seen hpre hf

theorem Performed.results_cache (p : Performed x cache y s r s₁ v) :
    y.cache.results = s₁.settlement x.shape x.filename := by
  rw [Outcome.cache, p.visited, p.settled.results]

theorem keys_after (call : Call) (hcall : call.options.Regular w) (cache : Cache) :
    let outcome := perform w call.options cache call.unresolved
    (cache.after outcome).results.keys = cache.results.keys ++ extractions outcome ∧
      (extractions outcome).Nodup ∧ ∀ f ∈ extractions outcome, f ∉ cache.results.keys := by
  intro outcome
  cases hoptions : Context.ofOptions w call.options with
  | error e =>
    have houtcome : outcome = .error e := perform_of_rejected hoptions cache call.unresolved
    simp [houtcome, Cache.after, extractions]
  | ok x =>
    obtain ⟨hanchor, hc⟩ := hcall x hoptions
    cases hpresent : w.pathExists x.filename with
    | false =>
      obtain ⟨y, hperform, -, -, hcache, hextracted⟩ :=
        perform_of_absent hoptions hpresent cache call.unresolved
      simp [outcome, hperform, Cache.after, extractions, hcache, hextracted]
    | true =>
      obtain ⟨y, s, r, s₁, v, hperform, p⟩ :=
        perform_of_found hoptions hanchor hc hpresent cache call.unresolved
      obtain ⟨pre, post, held, -, hsearch, hextracted, -, hkeys⟩ := p.trace
      simp only [outcome, hperform, Cache.after, extractions, hextracted]
      exact ⟨hkeys, hsearch.nodup_pre, fun f hf => hsearch.not_mem_seen hf⟩

theorem nodup_extractions {calls : List Call} (hcalls : ∀ call ∈ calls, call.options.Regular w)
    (cache : Cache) :
    ((outcomes w cache calls).flatMap extractions).Nodup ∧
      ∀ f ∈ (outcomes w cache calls).flatMap extractions, f ∉ cache.results.keys := by
  induction calls generalizing cache with
  | nil => simp [outcomes]
  | cons call rest ih =>
    obtain ⟨hcall, hrest⟩ := List.forall_mem_cons.mp hcalls
    obtain ⟨hkeys, hnodup, hnew⟩ := keys_after call hcall cache
    obtain ⟨hnodups, hnews⟩ :=
      ih hrest (cache.after (perform w call.options cache call.unresolved))
    simp only [hkeys, List.mem_append, not_or] at hnews
    simp only [outcomes, List.flatMap_cons, List.mem_append]
    refine ⟨hnodup.append hnodups fun f hf hf' => (hnews f hf').2 hf, ?_⟩
    rintro f (hf | hf)
    · exact hnew f hf
    · exact (hnews f hf).1

/-- Calls of either shape end with a result. From an entry file that is there, a call extracts
what a depth-first search enters that passes over the cache: each file that can be reached past
the cache, once, in pre-order. In the same order the files come into the cache; they are completed
in the corresponding post-order. No two calls that share a cache extract the same file. -/
theorem calls_search_depth_first {calls : List Call}
    (hcalls : ∀ call ∈ calls, call.options.Regular w) (cache : Cache) :
    ((outcomes w cache calls).flatMap extractions).Nodup ∧
    ∀ call ∈ calls, ∀ x, Context.ofOptions w call.options = .ok x → ∀ cache : Cache,
      ∃ y result, perform w call.options cache call.unresolved = .ok y ∧ y.result = .ok result ∧
        (w.pathExists x.filename = false →
          y.state.extracted = [] ∧ y.cache.results = cache.results) ∧
        (w.pathExists x.filename = true →
          let entry := x.filename
          y.state.extracted.Nodup ∧
          (∀ f, f ∈ y.state.extracted ↔ entry ∉ cache.files ∧
            ReflTransGen (fun u v => x.collaborators.Edge u v ∧ v ∉ cache.files) entry f) ∧
          DepthFirst x.collaborators.dependencies cache.files [entry]
            y.state.extracted y.state.completed ∧
          y.cache.results.keys = cache.results.keys ++ y.state.extracted) := by
  refine ⟨(nodup_extractions hcalls cache).1, fun call hcall x hx cache => ?_⟩
  obtain ⟨hanchor, hc⟩ := hcalls call hcall x hx
  cases hpresent : w.pathExists x.filename with
  | false =>
    obtain ⟨y, hperform, -, hresult, hcache, hextracted⟩ :=
      perform_of_absent hx hpresent cache call.unresolved
    exact ⟨y, _, hperform, hresult, fun _ => ⟨hextracted, by rw [hcache]⟩,
      fun h => Bool.noConfusion h⟩
  | true =>
    obtain ⟨y, s, r, s₁, v, hperform, p⟩ :=
      perform_of_found hx hanchor hc hpresent cache call.unresolved
    obtain ⟨pre, post, held, -, hsearch, rfl, rfl, hkeys⟩ := p.trace
    refine ⟨y, _, hperform, p.result, fun h => Bool.noConfusion h, fun _ => ?_⟩
    refine ⟨hsearch.nodup_pre, fun f => ?_, hsearch, hkeys⟩
    have hstep : DepthFirst.StepOutside x.collaborators.dependencies cache.files =
        fun u v => x.collaborators.Edge u v ∧ v ∉ cache.files := by
      funext u v
      rw [DepthFirst.StepOutside, Collaborators.mem_dependencies_iff_edge]
    rw [hsearch.mem_pre_iff, hstep]
    simp

theorem two_files_searched_once : ((outcomes TwoFiles.world .empty
    (TwoFiles.calls .tree)).flatMap extractions).Nodup :=
  (calls_search_depth_first (fun _ => TwoFiles.regular) .empty).1

end ModuleGraph.Walk
