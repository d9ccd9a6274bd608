import ModuleGraph.Proofs.Walk.Extraction
import ModuleGraph.Proofs.Walk.Records

/-! The specifiers that lead nowhere, over calls that share them. Each call puts those of the files
that it extracts behind what the calls before it have left, and then removes repeats; in the end the
repeats might as well have been removed all at once. -/

namespace ModuleGraph.Walk

open ModuleGraph.Path

variable {w : World} {o : Options} {x : Context} {cache : Cache} {unresolved : List Text}
  {y : Outcome}

def missingIn (outcome : Except Options.Fault Outcome) : List Text :=
  match outcome with
  | .ok y => y.state.extracted.flatMap y.context.collaborators.missing
  | .error _ => []

theorem Collaborators.mem_missing_iff {c : Collaborators} {file : Path} {specifier : Text} :
    specifier ∈ c.missing file ↔ specifier ∈ c.specifiers file ∧
      ∀ path, (c.resolve specifier file).value = .ok (some path) →
        path = [] ∨ ¬ c.isPresent (c.canonical path) := by
  have hnowhere : (c.target? file specifier).isNone ↔ ∀ path,
      (c.resolve specifier file).value = .ok (some path) →
        path = [] ∨ ¬ c.isPresent (c.canonical path) := by
    rw [Option.isNone_iff_eq_none]
    constructor
    · intro hnone path hpath
      by_contra hboth
      rw [not_or, not_not] at hboth
      have hsome := target?_eq_some_iff.mpr ⟨path, hpath, hboth.1, hboth.2, rfl⟩
      rw [hnone] at hsome
      cases hsome
    · intro hall
      rw [Option.eq_none_iff_forall_ne_some]
      intro d hd
      obtain ⟨path, hpath, hne, hpresent, -⟩ := target?_eq_some_iff.mp hd
      exact (hall path hpath).elim hne fun habsent => habsent hpresent
  rw [missing, List.mem_filter, hnowhere]

theorem unresolved_of_ok (h : Context.ofOptions w o = .ok x)
    (hanchor : isAbsolute x.anchor = true) (hy : perform w o cache unresolved = .ok y)
    (hresult : ∃ r, y.result = .ok r) :
    y.state.unresolved = distinct (unresolved ++ missingIn (.ok y)) ∧
      y.state.extracted.Nodup ∧ ∀ file ∈ y.state.extracted, file ∉ cache.files := by
  rw [missingIn, context_of_perform h hy]
  cases hpresent : w.pathExists x.filename with
  | false =>
    obtain ⟨-, -, hextracted⟩ := outcome_of_absent h hpresent hy
    obtain ⟨-, -, -, hunresolved, -⟩ := state_of_absent h hpresent hy
    simp [hunresolved, hextracted]
  | true =>
    obtain ⟨r, s₁, v, -, p⟩ :=
      performed_of_ok h hanchor x.collaborators.decides_decided hpresent hy hresult
    obtain ⟨hunresolved, -⟩ := p.records (.opened x.collaborators.decided cache o x unresolved)
    obtain ⟨pre, post, held, -, hsearch, hextracted, -⟩ := p.trace
    refine ⟨hunresolved, hextracted ▸ hsearch.nodup_pre, fun file hfile => ?_⟩
    exact hsearch.not_mem_seen (hextracted ▸ hfile)

/-- Calls that end with results, each on any cache, and that share their unresolved specifiers:
after each call there are those from before the first call and, for each call so far and each file
in the order in which the call extracted it, the specifiers of the file that lead nowhere, every one
where it came up first. A specifier leads nowhere if its resolution fails or finds nothing, or if
nothing is there. The cache of a call adds nothing. -/
theorem unresolved_holds_what_leads_nowhere {requests : List Request}
    (hanchored : ∀ request ∈ requests, request.options.Anchored w) (unresolved : List Text)
    (hends : ∀ outcome ∈ outcomesSharing w unresolved requests,
      ∃ y r, outcome = .ok y ∧ y.result = .ok r) :
    let outcomes := outcomesSharing w unresolved requests
    (∀ n y, outcomes[n]? = some (.ok y) → y.state.unresolved =
      distinct (unresolved ++ (outcomes.take (n + 1)).flatMap missingIn)) ∧
    List.Forall₂ (fun request outcome => ∃ y, outcome = .ok y ∧
      Context.ofOptions w request.options = .ok y.context ∧
      y.state.extracted.Nodup ∧ (∀ file ∈ y.state.extracted, file ∉ request.cache.files) ∧
      let c := y.context.collaborators
      ∀ file, (c.missing file).Sublist (c.specifiers file) ∧
        ∀ specifier, specifier ∈ c.missing file ↔ specifier ∈ c.specifiers file ∧
          ∀ path, (c.resolve specifier file).value = .ok (some path) →
            path = [] ∨ ¬ c.isPresent (c.canonical path))
      requests outcomes := by
  induction requests generalizing unresolved with
  | nil => simp [outcomesSharing]
  | cons request rest ih =>
    obtain ⟨hanchor, hanchors⟩ := List.forall_mem_cons.mp hanchored
    rw [outcomesSharing] at hends ⊢
    obtain ⟨⟨y, r, hy, hr⟩, hothers⟩ := List.forall_mem_cons.mp hends
    simp only [hy, unresolvedAfter] at hothers ⊢
    cases hoptions : Context.ofOptions w request.options with
    | error e =>
      rw [perform_of_rejected hoptions] at hy
      cases hy
    | ok x =>
      obtain ⟨hunresolved, hnodup, hnew⟩ :=
        unresolved_of_ok hoptions (hanchor x hoptions) hy ⟨r, hr⟩
      obtain ⟨hafter, hrest⟩ := ih hanchors y.state.unresolved hothers
      refine ⟨fun n z hz => ?_, .cons ⟨y, rfl, ?_, hnodup, hnew, fun file => ?_⟩ hrest⟩
      · cases n with
        | zero =>
          obtain rfl := Except.ok.inj (Option.some.inj hz)
          simpa using hunresolved
        | succ n =>
          -- what the first call has removed would have been removed by the later ones
          rw [hafter n z hz, hunresolved, distinct_distinct_append, List.append_assoc,
            List.take_succ_cons, List.flatMap_cons]
      · exact (context_of_perform hoptions hy).symm ▸ hoptions
      · exact ⟨List.filter_sublist, fun specifier => Collaborators.mem_missing_iff⟩

namespace TwoFiles

def resolveFile : Resolver := fun specifier _ _ =>
  pure (.ok (if specifier = ['f'] then some ['/', 'f'] else none))

def requests : List Request :=
  [⟨{ options .tree ['/', 'd'] with resolver := .function resolveFile }, .empty⟩,
   ⟨{ options .list ['/', 'f'] with resolver := .function resolveFile }, .empty⟩]

theorem anchored {request : Request} (h : request ∈ requests) :
    request.options.Anchored world := by
  have hanchor : ∀ shape name, given (some name) = some name →
      Options.Anchored world { options shape name with resolver := .function resolveFile } := by
    intro shape name hname x hx
    unfold Context.ofOptions at hx
    simp only [options, hname] at hx
    cases hx
    rfl
  simp only [requests, List.mem_cons, List.not_mem_nil, or_false] at h
  rcases h with rfl | rfl
  · exact hanchor .tree ['/', 'd'] rfl
  · exact hanchor .list ['/', 'f'] rfl

end TwoFiles

theorem unresolved_of_two_files : ∃ y,
    (outcomesSharing TwoFiles.world [['z'], ['z']] TwoFiles.requests)[1]? = some (.ok y) ∧
      y.state.unresolved = [['z'], ['d']] := by
  have hends : ∀ outcome ∈ outcomesSharing TwoFiles.world [['z'], ['z']] TwoFiles.requests,
      ∃ y r, outcome = .ok y ∧ y.result = .ok r := by
    have hall : ((outcomesSharing TwoFiles.world [['z'], ['z']] TwoFiles.requests).all fun outcome =>
          match outcome with
          | .ok y => y.result.isOk
          | .error _ => false) = true := by
      decide +kernel
    intro outcome houtcome
    have hok := List.all_eq_true.mp hall outcome houtcome
    cases outcome with
    | error e => cases hok
    | ok y =>
      cases hresult : y.result with
      | error e => simp [hresult, Except.isOk, Except.toBool] at hok
      | ok r => exact ⟨y, r, rfl, hresult⟩
  obtain ⟨hafter, -⟩ := unresolved_holds_what_leads_nowhere
    (fun _ hrequest => TwoFiles.anchored hrequest) [['z'], ['z']] hends
  obtain ⟨y, r, hy, -⟩ := hends _ (List.getElem_mem (show 1 < _ by decide +kernel))
  have hsecond := List.getElem?_eq_some_iff.mpr ⟨_, hy⟩
  exact ⟨y, hsecond, (hafter 1 y hsecond).trans (by decide +kernel)⟩

end ModuleGraph.Walk
