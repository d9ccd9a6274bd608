import ModuleGraph.Proofs.DepthFirst.Splice
import ModuleGraph.Proofs.Walk.Trace

/-! Walks in list form. The list of a file is put together from the lists of its dependencies,
which are empty or lack something as long as a cycle is open. Less what the walk has listed before,
the lists still come to what a depth-first search leaves, in its order. -/

namespace ModuleGraph.Walk

open DepthFirst

variable {c : Collaborators} {s s' s₁ : State} {file : Path} {paths paths' : List Path}
  {results results' : List Ref} {done entered stack : Set Path} {pre post pre' post' : List Path}

def State.listed (s : State) (results : List Ref) : List Path := results.flatMap s.graph.namesOf

/-- Where a walk stands in a search that has `entered` some files and not left those on the
`stack`. The files that were `done` before the walk have full lists. Any other file entered has a
list too; what it holds has been entered and left. -/
structure Standing (c : Collaborators) (done entered stack : Set Path) (s : State) : Prop where
  closed : Closed c.dependencies (entered ∩ done)
  stack_subset : stack ⊆ entered
  stack_not_done : ∀ f ∈ stack, f ∉ done
  done_seen : ∀ f ∈ done, f ∈ s.seen
  seen_iff : ∀ f, f ∉ done → (f ∈ s.seen ↔ f ∈ entered)
  full : ∀ f ∈ done, ∃ post, PostOrderFrom c.dependencies f post ∧
    s.visited.results.get? f = some (.list post)
  partly : ∀ f ∈ entered, f ∉ done → ∃ items, s.visited.results.get? f = some (.list items) ∧
    items.Nodup ∧ ∀ a ∈ items, a ∈ entered ∧ a ∉ stack

open scoped Classical in
/-- What a walk lists: less what was left before, it is what the search leaves. -/
structure Lists (c : Collaborators) (done entered stack : Set Path) (s : State)
    (paths : List Path) (results : List Ref) (s' : State) (pre post : List Path) : Prop where
  search : DepthFirst c.dependencies entered paths pre post
  listed : (distinct (s.listed results)).filter (· ∉ entered \ stack) = post
  subset : ∀ a ∈ s.listed results, (a ∈ entered ∨ a ∈ pre) ∧ a ∉ stack
  graph : s'.graph = s.graph
  standing : Standing c done (entered ∪ {x | x ∈ pre}) stack s'

theorem Lists.disjoint (hstack : stack ⊆ entered)
    (l : Lists c done entered stack s paths results s' pre post) {a : Path} (ha : a ∈ pre) :
    a ∉ stack :=
  fun hs => l.search.not_mem_seen ha (hstack hs)

open scoped Classical in
theorem Lists.append {s'' : State} (hstack : stack ⊆ entered)
    (l : Lists c done entered stack s paths results s' pre post)
    (l' : Lists c done (entered ∪ {x | x ∈ pre}) stack s' paths' results' s'' pre' post') :
    Lists c done entered stack s (paths ++ paths') (results ++ results') s'' (pre ++ pre')
      (post ++ post') := by
  have hlisted : ∀ rs, s'.listed rs = s.listed rs := fun rs => by
    rw [State.listed, State.listed, l.graph]
  have hpre : ∀ a ∈ pre, a ∈ s.listed results := by
    intro a ha
    have hpost := l.search.mem_post_iff.mpr ha
    rw [← l.listed, List.mem_filter, mem_distinct] at hpost
    exact hpost.1
  have hentered : entered ∪ {x | x ∈ pre ++ pre'} = entered ∪ {x | x ∈ pre} ∪ {x | x ∈ pre'} := by
    ext a
    simp only [Set.mem_union, Set.mem_ofPred_eq, List.mem_append, or_assoc]
  have hnames : s.listed (results ++ results') = s.listed results ++ s.listed results' := by
    simp only [State.listed, List.flatMap_append]
  refine ⟨?_, ?_, ?_, l'.graph.trans l.graph, hentered ▸ l'.standing⟩
  · exact l.search.append l'.search
  · rw [hnames, distinct_append, List.filter_append, l.listed, ← l'.listed, hlisted,
      List.filter_filter]
    congr 1
    apply List.filter_congr
    intro a _
    rw [← Bool.decide_and, decide_eq_decide]
    have hsubset := l.subset a
    have hdisjoint : a ∈ pre → a ∉ stack := l.disjoint hstack
    have hall := hpre a
    simp only [Set.mem_sdiff, Set.mem_union, Set.mem_ofPred_eq]
    grind
  · intro a ha
    rw [hnames, List.mem_append] at ha
    rcases ha with ha | ha
    · have := l.subset a ha
      rw [List.mem_append]
      grind
    · have := l'.subset a (hlisted results' ▸ ha)
      simp only [Set.mem_union, Set.mem_ofPred_eq, List.mem_append] at this ⊢
      grind

theorem assemble_list {deps : List Path} {below : List Ref} (hlength : below.length = deps.length)
    (file : Path) (provisional : Ref) :
    Shape.list.assemble s.graph file (deps.zip below) provisional =
      (s.graph, .list ((distinct (s.listed below)).filter (· ≠ file) ++ [file])) := by
  have hsnd : (deps.zip below).map (·.2) = below := List.map_snd_zip hlength.le
  have hneeded : (deps.zip below).flatMap (fun d => s.graph.namesOf d.2) = s.listed below := by
    calc (deps.zip below).flatMap (fun d => s.graph.namesOf d.2)
        = ((deps.zip below).map (·.2)).flatMap s.graph.namesOf := by
          rw [List.flatMap_map]
      _ = s.listed below := by rw [hsnd, State.listed]
  simp only [Shape.assemble, hneeded]

/-- A file that was done before the walk has the full list. The search goes on to that part of it
which it has not entered. -/
theorem Standing.known_done {r : Ref} (notes : List Log.Record) (hdone : Closed c.dependencies done)
    (hs : Standing c done entered stack s) (hfull : file ∈ done)
    (hr : s.visited.results.get? file = some r) :
    ∃ pre post, Lists c done entered stack s [file] [r] { s with notes := notes } pre post := by
  classical
  obtain ⟨post, hpost, hresult⟩ := hs.full file hfull
  obtain rfl : r = .list post := by rw [hresult] at hr; exact (Option.some.inj hr).symm
  obtain ⟨pre, hsearch⟩ := hpost.splice hdone hfull hs.closed
  have hlisted : s.listed [.list post] = post := by simp [State.listed, Graph.namesOf]
  have hnew : ∀ a ∈ post, a ∉ stack := fun a ha hstack =>
    hs.stack_not_done a hstack (hpost.subset_of_closed hdone hfull ha)
  have hpre : ∀ a ∈ pre, a ∈ done := fun a ha =>
    hsearch.subset_of_closed hdone (by simpa using hfull) ha
  refine ⟨pre, _, ?_, rfl, ?_, rfl, ?_⟩
  · have hfilter : (distinct (s.listed [.list post])).filter (· ∉ entered \ stack) =
        post.filter (· ∉ entered) := by
      rw [hlisted, distinct_of_nodup hpost.nodup]
      apply List.filter_congr
      intro a ha
      simp [hnew a ha]
    rwa [hfilter]
  · intro a ha
    rw [hlisted] at ha
    refine ⟨?_, hnew a ha⟩
    by_cases hentered : a ∈ entered
    · exact Or.inl hentered
    · have : a ∈ post.filter (· ∉ entered) := by simp [ha, hentered]
      exact Or.inr (hsearch.mem_post_iff.mp this)
  · refine ⟨hsearch.closed_entered hdone hs.closed,
      hs.stack_subset.trans Set.subset_union_left, hs.stack_not_done, hs.done_seen,
      fun f hf => ?_, hs.full, fun f hf hfdone => ?_⟩
    · have hnot : f ∉ pre := fun h => hf (hpre f h)
      rw [Set.mem_union, Set.mem_ofPred_eq, or_iff_left hnot]
      exact hs.seen_iff f hf
    · have hnot : f ∉ pre := fun h => hfdone (hpre f h)
      obtain ⟨items, hitems, hnodup, hold⟩ := hs.partly f (hf.resolve_right hnot) hfdone
      exact ⟨items, hitems, hnodup, fun a ha => ⟨Or.inl (hold a ha).1, (hold a ha).2⟩⟩

theorem Standing.known_entered {r : Ref} (notes : List Log.Record)
    (hs : Standing c done entered stack s) (hentered : file ∈ entered) (hfull : file ∉ done)
    (hr : s.visited.results.get? file = some r) :
    Lists c done entered stack s [file] [r] { s with notes := notes } [] [] := by
  classical
  obtain ⟨items, hitems, -, hold⟩ := hs.partly file hentered hfull
  obtain rfl : r = .list items := by rw [hitems] at hr; exact (Option.some.inj hr).symm
  have hlisted : s.listed [.list items] = items := by simp [State.listed, Graph.namesOf]
  have hempty : entered ∪ {x | x ∈ ([] : List Path)} = entered := by simp
  refine ⟨?_, ?_, ?_, rfl, ?_⟩
  · exact .skip hentered (.done _)
  · rw [hlisted, List.filter_eq_nil_iff]
    intro a ha
    simpa using hold a (mem_distinct.mp ha)
  · intro a ha
    rw [hlisted] at ha
    exact ⟨Or.inl (hold a ha).1, (hold a ha).2⟩
  · rw [hempty]
    exact ⟨hs.closed, hs.stack_subset, hs.stack_not_done, hs.done_seen, hs.seen_iff, hs.full,
      hs.partly⟩

theorem Standing.known {r : Ref} (notes : List Log.Record) (hdone : Closed c.dependencies done)
    (hs : Standing c done entered stack s)
    (hseen : s.visited.stage file ≠ .unseen) (hr : s.visited.results.get? file = some r) :
    ∃ pre post, Lists c done entered stack s [file] [r] { s with notes := notes } pre post := by
  by_cases hfull : file ∈ done
  · exact hs.known_done notes hdone hfull hr
  · have hentered : file ∈ entered := (hs.seen_iff file hfull).mp hseen
    exact ⟨[], [], hs.known_entered notes hentered hfull hr⟩

theorem Standing.begun (notes : List Log.Record) (hs : Standing c done entered stack s)
    (hfile : s.visited.stage file = .unseen) :
    Standing c done (insert file entered) (insert file stack) (s.entered c .list file notes) := by
  have hunseen : file ∉ s.seen := fun h => h hfile
  have hdone : file ∉ done := fun h => hunseen (hs.done_seen file h)
  have hnew : file ∉ entered := fun h => hunseen ((hs.seen_iff file hdone).mpr h)
  have hresult : ∀ f, f ≠ file →
      (s.entered c .list file notes).visited.results.get? f = s.visited.results.get? f := by
    intro f hf
    rw [State.entered, Visited.results_put, Table.get?_set, if_neg hf]
  refine ⟨?_, Set.insert_subset_insert hs.stack_subset, ?_, fun f hf => ?_, fun f hf => ?_,
    fun f hf => ?_, fun f hf hfdone => ?_⟩
  · rw [Set.insert_inter_of_notMem hdone]
    exact hs.closed
  · rintro f (rfl | hf)
    · exact hdone
    · exact hs.stack_not_done f hf
  · rw [State.seen_entered]
    exact Or.inr (hs.done_seen f hf)
  · rw [State.seen_entered, Set.mem_insert_iff, Set.mem_insert_iff, hs.seen_iff f hf]
  · rw [hresult f fun h => hdone (h ▸ hf)]
    exact hs.full f hf
  · by_cases hff : f = file
    · refine ⟨[], ?_, List.nodup_nil, by simp⟩
      rw [State.entered, Visited.results_put, Table.get?_set, if_pos hff]
      rfl
    · obtain ⟨items, hitems, hnodup, hold⟩ := hs.partly f (hf.resolve_left hff) hfdone
      refine ⟨items, by rw [hresult f hff, hitems], hnodup, fun a ha => ?_⟩
      obtain ⟨hentered, hstack⟩ := hold a ha
      exact ⟨Or.inr hentered, fun h => h.elim (fun haf => hnew (haf ▸ hentered)) hstack⟩

theorem Standing.completed {items : List Path} {deps : List (Path × Ref)} {r : Ref}
    (hs : Standing c done entered (insert file stack) s)
    (hassemble : Shape.list.assemble s.graph file deps r = (s.graph, .list items))
    (hnodup : items.Nodup) (hitems : ∀ a ∈ items, a ∈ entered ∧ a ∉ stack) :
    Standing c done entered stack (s.left .list file deps r) := by
  have hentered : file ∈ entered := hs.stack_subset (Or.inl rfl)
  have hdone : file ∉ done := hs.stack_not_done file (Or.inl rfl)
  have hresult : ∀ f, f ≠ file →
      (s.left .list file deps r).visited.results.get? f = s.visited.results.get? f := by
    intro f hf
    rw [State.left, Visited.results_put, Table.get?_set, if_neg hf]
  refine ⟨hs.closed, fun f hf => hs.stack_subset (Or.inr hf),
    fun f hf => hs.stack_not_done f (Or.inr hf), fun f hf => ?_, fun f hf => ?_, fun f hf => ?_,
    fun f hf hfdone => ?_⟩
  · rw [State.seen_left]
    exact Or.inr (hs.done_seen f hf)
  · rw [State.seen_left, Set.mem_insert_iff, hs.seen_iff f hf]
    exact ⟨fun h => h.elim (fun hff => hff ▸ hentered) id, Or.inr⟩
  · rw [hresult f fun h => hdone (h ▸ hf)]
    exact hs.full f hf
  · by_cases hff : f = file
    · refine ⟨items, ?_, hnodup, hitems⟩
      rw [State.left, Visited.results_put, Table.get?_set, if_pos hff, hassemble]
    · obtain ⟨items', hitems', hnodup', hold⟩ := hs.partly f hf hfdone
      refine ⟨items', by rw [hresult f hff, hitems'], hnodup', fun a ha => ?_⟩
      exact ⟨(hold a ha).1, fun h => (hold a ha).2 (Or.inr h)⟩

section Enter

/-! A walk that begins a file, walks below it and gives it its list. -/

variable {below : List Ref} {notes : List Log.Record}
  (hs : Standing c done entered stack s) (hunseen : s.visited.stage file = .unseen)
  (hlength : below.length = (c.dependencies file).length)
  (l : Lists c done (insert file entered) (insert file stack) (s.entered c .list file notes)
    (c.dependencies file) below s₁ pre post)

namespace Lists

include l in
theorem not_listed : file ∉ s₁.listed below := by
  intro h
  rw [State.listed, l.graph] at h
  exact (l.subset file h).2 (Or.inl rfl)

include l hlength in
theorem assembled (r : Ref) :
    Shape.list.assemble s₁.graph file ((c.dependencies file).zip below) r =
      (s₁.graph, .list (distinct (s₁.listed below) ++ [file])) := by
  have hfilter : (distinct (s₁.listed below)).filter (· ≠ file) = distinct (s₁.listed below) := by
    rw [List.filter_eq_self]
    intro a ha
    exact decide_eq_true fun h => l.not_listed (h ▸ mem_distinct.mp ha)
  rw [assemble_list hlength, hfilter]

include l in
theorem nodup_assembled : (distinct (s₁.listed below) ++ [file]).Nodup := by
  refine (nodup_distinct _).append (List.nodup_singleton file) fun a ha hfile => ?_
  obtain rfl := List.mem_singleton.mp hfile
  exact l.not_listed (mem_distinct.mp ha)

include hs hunseen l

theorem mem_assembled {a : Path} (ha : a ∈ distinct (s₁.listed below) ++ [file]) :
    a ∈ insert file entered ∪ {x | x ∈ pre} ∧ a ∉ stack := by
  rcases List.mem_append.mp ha with ha | ha
  · rw [mem_distinct, State.listed, l.graph] at ha
    obtain ⟨hentered, hstack⟩ := l.subset a ha
    exact ⟨hentered, fun h => hstack (Or.inr h)⟩
  · obtain rfl := List.mem_singleton.mp ha
    have hstack : a ∉ stack := fun h =>
      (hs.seen_iff a (hs.stack_not_done a h)).mpr (hs.stack_subset h) hunseen
    exact ⟨Or.inl (Or.inl rfl), hstack⟩

include hlength

theorem enter (r : Ref) :
    Lists c done entered stack s [file]
      [(Shape.list.assemble s₁.graph file ((c.dependencies file).zip below) r).2]
      (s₁.left .list file ((c.dependencies file).zip below) r) (file :: pre) (post ++ [file]) := by
  classical
  have hnew : file ∉ entered := fun h =>
    (hs.seen_iff file fun hdone => hs.done_seen file hdone hunseen).mpr h hunseen
  have hassemble := l.assembled hlength r
  have hmem : ∀ a, a ∈ s.listed [.list (distinct (s₁.listed below) ++ [file])] ↔
      a ∈ distinct (s₁.listed below) ++ [file] := by
    intro a
    simp [State.listed, Graph.namesOf]
  have hunion : entered ∪ {x | x ∈ file :: pre} = insert file entered ∪ {x | x ∈ pre} := by
    ext a
    simp only [Set.mem_union, Set.mem_ofPred_eq, List.mem_cons, Set.mem_insert_iff]
    grind
  rw [hassemble]
  refine ⟨?_, ?_, fun a ha => ?_, ?_, ?_⟩
  · have hsearch := DepthFirst.enter hnew l.search (.done _)
    rwa [List.append_nil] at hsearch
  · have hlist : s.listed [.list (distinct (s₁.listed below) ++ [file])] =
        distinct (s₁.listed below) ++ [file] := by
      simp [State.listed, Graph.namesOf]
    have hpost : (distinct (s₁.listed below)).filter (· ∉ entered \ stack) = post := by
      have hnames : s₁.listed below = (s.entered c .list file notes).listed below := by
        rw [State.listed, State.listed, l.graph]
      rw [← l.listed, ← hnames]
      apply List.filter_congr
      intro a ha
      have hne : a ≠ file := fun h => l.not_listed (h ▸ mem_distinct.mp ha)
      simp [hne]
    rw [hlist, distinct_of_nodup l.nodup_assembled, List.filter_append, hpost]
    simp [hnew]
  · have hself := mem_assembled hs hunseen l ((hmem a).mp ha)
    rwa [← hunion] at hself
  · rw [State.left, hassemble]
    exact l.graph
  · rw [hunion]
    exact l.standing.completed hassemble l.nodup_assembled fun a ha =>
      mem_assembled hs hunseen l ha

end Lists
end Enter

/-- What a walk lists comes to what a depth-first search leaves. -/
theorem Walked.lists (h : Walked c .list s paths results s') (hdone : Closed c.dependencies done)
    (hs : Standing c done entered stack s) :
    ∃ pre post, Lists c done entered stack s paths results s' pre post := by
  induction h generalizing entered stack with
  | done s =>
    have hempty : entered ∪ {x | x ∈ ([] : List Path)} = entered := by simp
    exact ⟨[], [], .done _, rfl, by simp [State.listed], rfl, by rwa [hempty]⟩
  | known notes seen hit _ ih =>
    obtain ⟨pre₁, post₁, l₁⟩ := hs.known notes hdone seen hit
    obtain ⟨pre₂, post₂, l₂⟩ := ih l₁.standing
    exact ⟨_, _, l₁.append hs.stack_subset l₂⟩
  | fresh notes unseen inner others ih₁ ih₂ =>
    obtain ⟨pre₁, post₁, l₁⟩ := ih₁ (hs.begun notes unseen)
    have l := Lists.enter hs unseen inner.length_eq l₁
    obtain ⟨pre₂, post₂, l₂⟩ := ih₂ (l _).standing
    exact ⟨_, _, (l _).append hs.stack_subset l₂⟩

end ModuleGraph.Walk
