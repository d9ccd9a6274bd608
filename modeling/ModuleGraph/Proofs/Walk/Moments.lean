import ModuleGraph.Proofs.Walk.Perform

/-! The stages of files while a walk goes on. Whenever the walk comes to a file, has begun it or
goes on from it, the files in progress are those on the way down to that place and those held back.
So the cache refuses no step, a file is begun once and finished once, and a walk that ends with a
result leaves no file in progress. -/

namespace ModuleGraph

inductive Stage.Moves : Stage → Stage → Prop
  | stays (stage : Stage) : Moves stage stage
  | begins : Moves .unseen .inProgress
  | finishes : Moves .inProgress .done

namespace Walk

open ModuleGraph.Path

variable {c c' : Collaborators} {shape : Shape} {s s₁ s' : State} {file path : Path}
  {paths stack inner : List Path} {results : List Ref}

structure Moment where
  stack : List Path
  state : State

/-- The moments of a walk through some files: when it comes to a file, the moments `below` the file,
and when it goes on from it. -/
def along (stack : List Path) (walk : Path → Walk Ref) (below : Path → State → List Moment) :
    List Path → State → List Moment
  | [], _ => []
  | path :: rest, s => ⟨stack, s⟩ :: (below path s ++
      match walk path s with
      | (.ok _, s') => ⟨stack, s'⟩ :: along stack walk below rest s'
      | (.error _, _) => [])

def momentsBelow (c : Collaborators) (shape : Shape) :
    (depth : ℕ) → List Path → Path → State → List Moment
  | 0, _, _, _ => []
  | depth + 1, stack, path, s =>
    let file := c.canonical path
    if c.isPresent file ∧ s.visited.stage file = .unseen then
      match enter c shape file s with
      | (.ok (_, deps), s') => ⟨file :: stack, s'⟩ ::
          along (file :: stack) (traverse c shape depth)
            (momentsBelow c shape depth (file :: stack)) deps s'
      | (.error _, _) => []
    else []

def moments (c : Collaborators) (shape : Shape) (entry : Path) (s : State) : List Moment :=
  along [] (traverse c shape c.depth) (momentsBelow c shape c.depth []) [entry] s

/-- The files in progress are those on the stack and those held back, none of them twice, and the
cache has a result for every file that has been begun. -/
structure State.Balanced (stack : List Path) (s : State) : Prop where
  nodup : (stack ++ s.pending).Nodup
  open_iff : ∀ f, s.visited.stage f = .inProgress ↔ f ∈ stack ++ s.pending
  paired : s.visited.Paired

namespace State.Balanced

theorem of_begins {cache : Cache} (hs : cache.Begins s) : s.Balanced [] := by
  refine ⟨?_, fun f => ?_, hs.paired⟩
  · simp [hs.pending]
  · rw [hs.pending, hs.stage]
    split <;> simp

theorem entered (shape : Shape) (hs : s.Balanced stack) (hfile : s.visited.stage file = .unseen)
    (notes : List Log.Record) : (s.entered c shape file notes).Balanced (file :: stack) := by
  have hnew : file ∉ stack ++ s.pending := by
    rw [← hs.open_iff, hfile]
    decide
  refine ⟨List.nodup_cons.mpr ⟨hnew, hs.nodup⟩, fun f => ?_, State.paired_entered hs.paired notes⟩
  rw [State.entered_stage, List.cons_append, List.mem_cons]
  by_cases hf : f = file
  · simp [hf]
  · rw [if_neg hf]
    exact (hs.open_iff f).trans (or_iff_right hf).symm

theorem walked (hs : s.Balanced stack) (h : Walked c shape s paths results s') :
    s'.Balanced stack := by
  obtain ⟨pre, post, held, t⟩ := h.trace
  have hseen : ∀ f ∈ stack ++ s.pending, f ∈ s.seen := by
    intro f hf
    rw [State.seen, Set.mem_ofPred_eq, (hs.open_iff f).mpr hf]
    decide
  have hnew : ∀ f ∈ pre, f ∉ stack ++ s.pending :=
    fun f hf hold => t.search.not_mem_seen hf (hseen f hold)
  refine ⟨?_, fun f => ?_, t.paired hs.paired⟩
  · rw [t.pending, ← List.append_assoc]
    exact hs.nodup.append (t.held_sublist.nodup t.search.nodup_post)
      fun f hold hheld => hnew f (t.held_subset hheld) hold
  · rw [t.stage, t.pending, ← List.append_assoc, List.mem_append, ← hs.open_iff]
    by_cases hheld : f ∈ held
    · simp [hheld]
    · by_cases hpre : f ∈ pre
      · have hold : s.visited.stage f ≠ .inProgress := mt (hs.open_iff f).mp (hnew f hpre)
        simp [hheld, hpre, hold]
      · simp [hheld, hpre]

end State.Balanced

theorem Partway.balanced {outer : List Path} (h : Partway c shape s paths inner s')
    (hs : s.Balanced outer) : s'.Balanced (inner ++ outer) := by
  induction h generalizing outer with
  | here judged walked =>
    have hwalked := hs.walked walked
    exact ⟨hwalked.nodup, hwalked.open_iff, hwalked.paired⟩
  | within notes walked unseen _ ih =>
    rw [List.append_assoc]
    exact ih ((hs.walked walked).entered _ unseen notes)

/-- What a walk and the settling after it do from one moment to the next: nothing to the cache, or a
file is begun or completed, or what was held back is settled. -/
inductive State.Step (shape : Shape) : State → State → Prop
  | stays {s s' : State} (same : s'.visited = s.visited) : Step shape s s'
  | begins {s s' : State} {file : Path} (unseen : s.visited.stage file = .unseen)
      (put : s'.visited = s.visited.put file .inProgress (s.provisional shape)) : Step shape s s'
  | completes {s : State} {file : Path} {r : Ref} (deps : List (Path × Ref))
      (opened : s.visited.stage file = .inProgress)
      (hit : s.visited.results.get? file = some r) : Step shape s (s.left shape file deps r)
  | settles {s s' : State} {entry : Path}
      (opened : ∀ f ∈ s.pending, s.visited.stage f = .inProgress)
      (settled : Settled shape entry s s'.visited) : Step shape s s'

def State.Moves (s s' : State) : Prop := ∀ f, (s.visited.stage f).Moves (s'.visited.stage f)

theorem State.Step.moves (h : State.Step shape s s') : s.Moves s' := by
  intro f
  cases h with
  | stays same => exact same ▸ .stays _
  | @begins _ file unseen put =>
    rw [put, Visited.stage_put]
    by_cases hf : f = file
    · rw [if_pos hf, hf, unseen]
      exact .begins
    · rw [if_neg hf]
      exact .stays _
  | @completes file r deps opened hit =>
    rw [State.left_stage]
    by_cases hf : f = file
    · rw [if_pos hf, hf, opened]
      split
      · exact .stays _
      · exact .finishes
    · rw [if_neg hf]
      exact .stays _
  | settles opened settled =>
    rw [settled.stage]
    by_cases hf : f ∈ s.pending
    · rw [if_pos hf, opened f hf]
      exact .finishes
    · rw [if_neg hf]
      exact .stays _

/-- What holds of the moments of a walk through `paths`, up to a last state: at each the walk has
come part of the way, and from one to the next it goes by a step. -/
structure Watched (c : Collaborators) (shape : Shape) (s : State) (paths stack : List Path)
    (ms : List Moment) (last : State) : Prop where
  partway : ∀ m ∈ ms, ∃ inner, m.stack = inner ++ stack ∧ Partway c shape s paths inner m.state
  chain : List.IsChain (State.Step shape) (s :: ms.map Moment.state ++ [last])

theorem Watched.enter {ms : List Moment} {last : State} {notes : List Log.Record}
    (h : Watched c shape (s.entered c shape path notes)
      (c.dependencies path) (path :: stack) ms last)
    (hunseen : s.visited.stage path = .unseen) :
    Watched c shape s [path] stack
      (⟨path :: stack, s.entered c shape path notes⟩ :: ms) last := by
  refine ⟨fun m hm => ?_, ?_⟩
  · rcases List.mem_cons.mp hm with rfl | hm
    · exact ⟨[path], rfl, (Partway.start _ _).enter notes hunseen⟩
    · obtain ⟨inner, hstack, hpartway⟩ := h.partway m hm
      exact ⟨inner ++ [path], by simp [hstack], hpartway.enter notes hunseen⟩
  · exact h.chain.cons_cons (.begins hunseen rfl)

def Ends {α : Type} (shape : Shape) (last : State) : Except Fault α × State → Prop
  | (.ok _, s') => State.Step shape s' last
  | (.error _, s') => last = s'

theorem along_watched {walk : Path → Walk Ref} {below : Path → State → List Moment}
    {files : Finset Path} {depth : ℕ}
    (hwalk : ∀ s path, s.visited.Paired → c'.Found path → (s.unseen files).card < depth →
      (∃ r s', walk path s = (.ok r, s') ∧ Walked c' shape s [path] [r] s') ∨
      ¬ c.Decisive ∧ ∃ reason stack s', walk path s = (.error (.filter reason), s') ∧
        stack ≠ [] ∧ Partway c' shape s [path] stack s')
    (hbelow : ∀ s path, s.visited.Paired → c'.Found path → (s.unseen files).card < depth →
      Watched c' shape s [path] stack (below path s) (walk path s).2)
    (hs : s.visited.Paired) (hpaths : ∀ p ∈ paths, c'.Found p)
    (hcard : (s.unseen files).card < depth) (last : State)
    (hlast : Ends shape last (forEach (fun d => do return (d, ← walk d)) paths s)) :
    Watched c' shape s paths stack (along stack walk below paths s) last := by
  induction paths generalizing s with
  | nil =>
    have hstep : State.Step shape s last := hlast
    exact ⟨by simp [along], by simpa [along] using hstep⟩
  | cons p rest ih =>
    obtain ⟨hp, hrest⟩ := List.forall_mem_cons.mp hpaths
    have hhere := hbelow s p hs hp hcard
    rcases hwalk s p hs hp hcard with ⟨r, s₁, hrun, hwalked⟩ | ⟨-, reason, -, s₁, hrun, -, -⟩
    · have hcard₁ : (s₁.unseen files).card < depth :=
        (Finset.card_le_card (hwalked.unseen_subset files)).trans_lt hcard
      have hlast₁ : Ends shape last (forEach (fun d => do return (d, ← walk d)) rest s₁) := by
        rw [forEach_of_ok hrun, bind_apply] at hlast
        cases hruns : forEach (fun d => do return (d, ← walk d)) rest s₁ with
        | mk result s₂ =>
          rw [hruns] at hlast
          cases result <;> exact hlast
      have hbeside := ih (hwalked.paired hs) hrest hcard₁ hlast₁
      simp only [along, hrun] at hhere ⊢
      refine ⟨fun m hm => ?_, ?_⟩
      · rw [List.mem_cons, List.mem_append, List.mem_cons] at hm
        rcases hm with rfl | hm | rfl | hm
        · exact ⟨[], rfl, .start s _⟩
        · obtain ⟨inner, hstack, hpartway⟩ := hhere.partway m hm
          exact ⟨inner, hstack, hpartway.more rest⟩
        · exact ⟨[], rfl, (Partway.start s₁ rest).after_walked hwalked⟩
        · obtain ⟨inner, hstack, hpartway⟩ := hbeside.partway m hm
          exact ⟨inner, hstack, hpartway.after_walked hwalked⟩
      · have hchain := List.isChain_cons_split.mpr ⟨hhere.chain, hbeside.chain⟩
        simpa using hchain.cons_cons (.stays rfl)
    · rw [forEach_of_error hrun] at hlast
      obtain rfl : last = s₁ := hlast
      simp only [along, hrun] at hhere ⊢
      refine ⟨fun m hm => ?_, ?_⟩
      · rw [List.append_nil, List.mem_cons] at hm
        rcases hm with rfl | hm
        · exact ⟨[], rfl, .start s _⟩
        · obtain ⟨inner, hstack, hpartway⟩ := hhere.partway m hm
          exact ⟨inner, hstack, hpartway.more rest⟩
      · simpa using hhere.chain.cons_cons (.stays rfl)

theorem momentsBelow_watched (shape : Shape) (hc : c.Decides c') {files : Finset Path}
    (hfiles : c'.Grounded files) (depth : ℕ) (stack : List Path) (s : State) (path : Path)
    (hs : s.visited.Paired) (hpath : c'.Found path) (hcard : (s.unseen files).card < depth) :
    Watched c' shape s [path] stack (momentsBelow c shape depth stack path s)
      (traverse c shape depth path s).2 := by
  induction depth generalizing stack s path with
  | zero => omega
  | succ depth ih =>
    have hfound : c.Found path := by
      have hthere := hpath
      rw [hc.same] at hthere
      exact hthere
    by_cases hunseen : s.visited.stage path = .unseen
    · rw [traverse_of_unseen shape hfound.2 hfound.1 hunseen depth]
      simp only [momentsBelow, hfound.2, hfound.1, hunseen, and_self, if_true]
      rcases enter_apply shape hc hunseen with
        ⟨notes, henter⟩ | ⟨-, reason, judged, notes, henter⟩
      · have hcard' :=
          State.card_unseen_entered c' shape (hfiles.mem path hpath) hunseen hcard notes
        have hwalk := traverse_cases shape hc hfiles depth
        have hs' : (s.entered c' shape path notes).visited.Paired :=
          State.paired_entered hs notes
        have hdeps : ∀ d ∈ c'.dependencies path, c'.Found d := fun d => hfiles.stable.found
        have hbelow := along_watched (c := c) hwalk (ih (path :: stack)) hs' hdeps hcard'
        rw [bind_of_ok henter]
        simp only [henter]
        rcases forEach_cases hwalk hs' hdeps hcard' with
          ⟨results, s₁, hruns, hwalked⟩ | ⟨-, reason, -, s₁, hruns, -, -⟩
        · have hopen := hwalked.open_entered
          rw [bind_of_ok hruns, complete_apply (hwalked.paired hs') hopen]
          refine (hbelow _ ?_).enter hunseen
          rw [hruns]
          exact .completes _ hopen hwalked.result_entered
        · rw [bind_apply, hruns]
          refine (hbelow _ ?_).enter hunseen
          rw [hruns]
          rfl
      · have hstep : State.Step shape s
            { s.entered c' shape path notes with judged := judged } :=
          .begins hunseen rfl
        rw [bind_apply, henter]
        exact ⟨by simp, by simpa using hstep⟩
    · obtain ⟨r, hr⟩ := hs.exists_result hunseen
      obtain ⟨notes, hrun⟩ := traverse_of_seen shape hfound hunseen hr depth
      have hstep : State.Step shape s { s with notes := notes } := .stays rfl
      simp only [hrun, momentsBelow, hfound.2, hunseen, and_false, if_false]
      exact ⟨by simp, by simpa using hstep⟩

theorem Performed.stage_eq_done {x : Context} {cache : Cache} {y : Outcome} {r : Ref}
    {v : Visited Ref} (p : Performed x cache y s r s₁ v) {f : Path}
    (hf : f ∈ y.cache.results.keys) : y.state.visited.stage f = .done := by
  have hbalanced := (State.Balanced.of_begins p.begins).walked p.walked
  rw [Outcome.cache, p.visited, p.settled.keys, ← hbalanced.paired.seen_iff] at hf
  rw [p.visited, p.settled.stage]
  split
  · rfl
  · next hnot =>
    have hclosed : s₁.visited.stage f ≠ .inProgress := by
      rw [ne_eq, hbalanced.open_iff, List.nil_append]
      exact hnot
    cases hstage : s₁.visited.stage f with
    | unseen => exact absurd hstage hf
    | inProgress => exact absurd hstage hclosed
    | done => rfl

variable {w : World} {o : Options} {x : Context}

theorem moments_watched (h : Context.ofOptions w o = .ok x) (hanchor : isAbsolute x.anchor = true)
    (hpresent : w.pathExists x.filename = true) (cache : Cache) (unresolved : List Text) :
    let start := cache.opened o x unresolved
    ∀ last, Ends x.shape last
        (traverse x.collaborators x.shape x.collaborators.depth x.filename start) →
      Watched x.collaborators.decided x.shape start [x.filename] []
        (moments x.collaborators x.shape x.filename start) last := by
  intro start last hlast
  have hx := Context.fits h
  have hc := x.collaborators.decides_decided
  have hfiles := hc.grounded (hx.grounded hanchor)
  have hfound := hc.found (hx.found hanchor hpresent)
  have hcard : (start.unseen (normalForms w)).card < x.collaborators.depth :=
    (Finset.card_le_card (Finset.filter_subset _ _)).trans_lt (hx.grounded hanchor).card_lt
  refine along_watched (c := x.collaborators) (traverse_cases x.shape hc hfiles _)
    (momentsBelow_watched x.shape hc hfiles _ []) (cache.begins_opened o x unresolved).paired
    (List.forall_mem_singleton.mpr hfound) hcard last ?_
  cases hwalk : traverse x.collaborators x.shape x.collaborators.depth x.filename start with
  | mk result s' =>
    rw [hwalk] at hlast
    cases result with
    | ok r =>
      rw [forEach_of_ok hwalk]
      exact hlast
    | error e =>
      rw [forEach_of_error hwalk]
      exact hlast

theorem perform_watched {cache : Cache} {unresolved : List Text} {y : Outcome}
    (h : Context.ofOptions w o = .ok x) (hanchor : isAbsolute x.anchor = true)
    (hpresent : w.pathExists x.filename = true)
    (hy : perform w o cache unresolved = .ok y) :
    let start := cache.opened o x unresolved
    Watched x.collaborators.decided x.shape start [x.filename] []
      (moments x.collaborators x.shape x.filename start) y.state := by
  refine moments_watched h hanchor hpresent cache unresolved y.state ?_
  obtain ⟨y', hperform, hcases⟩ :=
    perform_cases h hanchor x.collaborators.decides_decided hpresent cache unresolved
  obtain rfl := Except.ok.inj (hperform.symm.trans hy)
  rcases hcases with ⟨r, s₁, v, hwalk, p⟩ | ⟨-, reason, stack, hwalk, -⟩
  · rw [hwalk]
    have hbalanced := (State.Balanced.of_begins p.begins).walked p.walked
    exact .settles (fun f hf => (hbalanced.open_iff f).mpr hf) (p.visited ▸ p.settled)
  · rw [hwalk]
    rfl

theorem perform_ends (h : Context.ofOptions w o = .ok x) (hanchor : isAbsolute x.anchor = true)
    (cache : Cache) (unresolved : List Text) : ∃ y, perform w o cache unresolved = .ok y ∧
      (∀ e, y.result = .error e → ∃ reason, e = .filter reason) ∧ y.state.visited.Paired ∧
      ∀ r, y.result = .ok r → y.state.pending = [] ∧
        ∀ f ∈ y.cache.results.keys, y.state.visited.stage f = .done := by
  cases hpresent : w.pathExists x.filename with
  | false =>
    obtain ⟨y, hperform, -, hresult, -, -⟩ := perform_of_absent h hpresent cache unresolved
    obtain ⟨hvisited, hpending, -⟩ := state_of_absent h hpresent hperform
    refine ⟨y, hperform, fun e he => ?_, hvisited ▸ Visited.paired_ofResults _,
      fun r _ => ⟨hpending, fun f hf => ?_⟩⟩
    · rw [hresult] at he
      cases he
    · rw [Outcome.cache, hvisited] at hf
      rw [hvisited, Visited.stage_ofResults, if_pos]
      rw [Table.contains, Option.isSome_iff_ne_none]
      exact fun hnone => Table.get?_eq_none_iff.mp hnone hf
  | true =>
    obtain ⟨y, hperform, hy⟩ :=
      perform_cases h hanchor x.collaborators.decides_decided hpresent cache unresolved
    refine ⟨y, hperform, ?_⟩
    rcases hy with ⟨r, s₁, v, -, p⟩ | ⟨-, reason, stack, -, -, hpartway, hresult⟩
    · refine ⟨fun e he => ?_, p.visited ▸ p.settled.paired,
        fun r _ => ⟨p.pending, fun f hf => p.stage_eq_done hf⟩⟩
      rw [p.result] at he
      cases he
    · rw [hresult]
      exact ⟨fun e he => ⟨reason, (Except.error.inj he).symm⟩,
        (hpartway.balanced (.of_begins (cache.begins_opened o x unresolved))).paired,
        fun r hr => by cases hr⟩

/-- Calls on any cache, with any filter: they end with a result, unless the filter breaks them off.
At every moment of a walk the files in progress are those on the stack and those held back, none
of them twice. At every moment and at the end the cache has a stage for exactly the files for which
it has a result, in the same order. From one moment to the next, and to the end, a file is at most
begun or at most finished. When a call has ended with a result, none is held back and all are done.
-/
theorem open_files_on_stack_or_held_back {w : World} {calls : List Call}
    (hcalls : ∀ call ∈ calls, call.options.Anchored w) (cache : Cache) :
    (∀ outcome ∈ outcomes w cache calls, ∀ y, outcome = .ok y →
      ∀ e, y.result = .error e → ∃ reason, e = .filter reason) ∧
    ∀ call ∈ calls, ∀ x, Context.ofOptions w call.options = .ok x → ∀ cache : Cache,
      ∃ y, perform w call.options cache call.unresolved = .ok y ∧
        (w.pathExists x.filename = true →
          let start := cache.opened call.options x call.unresolved
          let ms := moments x.collaborators x.shape x.filename start
          (∀ m ∈ ms, (m.stack ++ m.state.pending).Nodup ∧
            (∀ f, m.state.visited.stage f = .inProgress ↔ f ∈ m.stack ∨ f ∈ m.state.pending) ∧
            m.state.visited.stages.keys = m.state.visited.results.keys ∧
            ∀ f, f ∈ m.state.visited.results.keys ↔ m.state.visited.stage f ≠ .unseen) ∧
          List.IsChain State.Moves (start :: ms.map Moment.state ++ [y.state])) ∧
        (y.state.visited.stages.keys = y.state.visited.results.keys ∧
          ∀ f, f ∈ y.state.visited.results.keys ↔ y.state.visited.stage f ≠ .unseen) ∧
        ∀ r, y.result = .ok r → y.state.pending = [] ∧
          ∀ f ∈ y.cache.results.keys, y.state.visited.stage f = .done := by
  refine ⟨fun outcome houtcome y hy => ?_, fun call hcall x hx cache => ?_⟩
  · obtain ⟨call, hcall, cache', rfl⟩ := mem_outcomes houtcome
    cases hoptions : Context.ofOptions w call.options with
    | error e =>
      rw [perform_of_rejected hoptions] at hy
      cases hy
    | ok x =>
      obtain ⟨y', hperform, hfault, -⟩ :=
        perform_ends hoptions (hcalls call hcall x hoptions) cache' call.unresolved
      obtain rfl := Except.ok.inj (hperform.symm.trans hy)
      exact hfault
  have hanchor := hcalls call hcall x hx
  obtain ⟨y, hperform, -, hpaired, hdone⟩ := perform_ends hx hanchor cache call.unresolved
  refine ⟨y, hperform, fun hpresent => ?_, ⟨hpaired.keys, fun _ => hpaired.seen_iff.symm⟩, hdone⟩
  intro start ms
  have hwatched := perform_watched hx hanchor hpresent hperform
  refine ⟨fun m hm => ?_, hwatched.chain.imp fun _ _ => State.Step.moves⟩
  obtain ⟨inner, hstack, hpartway⟩ := hwatched.partway m hm
  have hbalanced := hpartway.balanced (.of_begins (cache.begins_opened _ x _))
  rw [← hstack] at hbalanced
  refine ⟨hbalanced.nodup, fun f => ?_, hbalanced.paired.keys,
    fun _ => hbalanced.paired.seen_iff.symm⟩
  rw [hbalanced.open_iff, List.mem_append]

theorem open_files_of_unsure_call :
    let o := { TwoFiles.options .list ['/', 'd'] with
      filter := .function TwoFiles.unsure }
    ∃ y, perform TwoFiles.world o .empty [] = .ok y ∧ y.result = .error (.filter "no verdict") ∧
      let start := Cache.empty.opened o y.context []
      let ms := moments y.context.collaborators .list y.context.filename start
      ms.map Moment.stack = [[], [['/', 'd']], [['/', 'd']]] ∧
      (∀ m ∈ ms, ∀ f, m.state.visited.stage f = .inProgress ↔
        f ∈ m.stack ∨ f ∈ m.state.pending) ∧
      List.IsChain State.Moves (start :: ms.map Moment.state ++ [y.state]) := by
  intro o
  have hoptions : Context.ofOptions TwoFiles.world o =
      .ok (TwoFiles.contextWith .list TwoFiles.unsure ['/', 'd']) :=
    TwoFiles.ofOptions_filtered .list TwoFiles.unsure rfl
  have hcalls : ∀ call ∈ [Call.mk o []], call.options.Anchored TwoFiles.world := by
    intro call hcall x hx
    obtain rfl := List.mem_singleton.mp hcall
    cases hoptions.symm.trans hx
    rfl
  obtain ⟨y, hperform, hmoments, -⟩ := (open_files_on_stack_or_held_back hcalls .empty).2 _
    List.mem_cons_self _ hoptions .empty
  obtain ⟨hall, hchain⟩ := hmoments (by decide +kernel)
  have hy : (perform TwoFiles.world o .empty []).map Outcome.result =
      .ok (.error (.filter "no verdict")) := by
    decide +kernel
  rw [hperform] at hy
  refine ⟨y, hperform, Except.ok.inj hy, ?_⟩
  rw [context_of_perform hoptions hperform]
  exact ⟨by decide +kernel, fun m hm => (hall m hm).2.1, hchain⟩

end Walk
end ModuleGraph
