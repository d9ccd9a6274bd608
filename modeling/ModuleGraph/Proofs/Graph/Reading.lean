import Mathlib.Data.List.TakeWhile
import ModuleGraph.Path
import ModuleGraph.Proofs.Graph.Drawing

/-! A drawing read back. No stroke holds a slash; where every name begins with one, the first slash
of a line is where its name begins, and the strokes before it tell how deep the name stands. The
names in order, each with its depth, tell the outline. -/

namespace ModuleGraph

open ModuleGraph.Path (isAbsolute)

namespace Outline

mutual

/-- The names of an outline in the order in which they stand in it, each with its depth. -/
def levels (depth : Nat) : Outline → List (Nat × Text)
  | mk members => levelsIn depth members

def levelsIn (depth : Nat) : List (Text × Outline) → List (Nat × Text)
  | [] => []
  | (name, below) :: rest => (depth, name) :: (below.levels (depth + 1) ++ levelsIn depth rest)

end

/-- What follows the levels of an outline does not belong to it: it is nothing, or goes on with
a name that is less deep. -/
def EndsAbove (depth : Nat) (rest : List (Nat × Text)) : Prop :=
  ∀ e ∈ rest.head?, e.1 < depth

theorem endsAbove_nil (depth : Nat) : EndsAbove depth [] := by
  rintro e ⟨⟩

theorem endsAbove_levelsIn {depth : Nat} {rest : List (Nat × Text)} (h : EndsAbove depth rest)
    (members : List (Text × Outline)) : EndsAbove (depth + 1) (levelsIn depth members ++ rest) := by
  intro e he
  cases members with
  | nil => exact Nat.lt_succ_of_lt (h e he)
  | cons m more =>
    obtain rfl := Option.some.inj he
    exact Nat.lt_succ_self depth

mutual

/-- The levels tell the outline and where it ends. -/
theorem levels_append_inj {depth : Nat} {rest rest' : List (Nat × Text)}
    (hrest : EndsAbove depth rest) (hrest' : EndsAbove depth rest') : (o o' : Outline) →
      o.levels depth ++ rest = o'.levels depth ++ rest' → o = o' ∧ rest = rest'
  | mk members, mk members', h => by
    obtain ⟨rfl, hrest⟩ := levelsIn_append_inj hrest hrest' members members' h
    exact ⟨rfl, hrest⟩

theorem levelsIn_append_inj {depth : Nat} {rest rest' : List (Nat × Text)}
    (hrest : EndsAbove depth rest) (hrest' : EndsAbove depth rest') :
    (members members' : List (Text × Outline)) →
      levelsIn depth members ++ rest = levelsIn depth members' ++ rest' →
        members = members' ∧ rest = rest'
  | [], [], h => ⟨rfl, h⟩
  | [], (name, below) :: more, h => by
    -- what follows would begin at this depth
    have hlt := hrest (depth, name) (by rw [show rest = _ from h]; rfl)
    exact absurd hlt (Nat.lt_irrefl depth)
  | (name, below) :: more, [], h => by
    have hlt := hrest' (depth, name) (by rw [show rest' = _ from h.symm]; rfl)
    exact absurd hlt (Nat.lt_irrefl depth)
  | (name, below) :: more, (name', below') :: more', h => by
    rw [levelsIn, levelsIn, List.cons_append, List.cons_append, List.append_assoc,
      List.append_assoc] at h
    obtain ⟨hname, hafter⟩ := List.cons.inj h
    obtain ⟨rfl, hmore⟩ := levels_append_inj (endsAbove_levelsIn hrest more)
      (endsAbove_levelsIn hrest' more') below below' hafter
    obtain ⟨rfl, hrest⟩ := levelsIn_append_inj hrest hrest' more more' hmore
    obtain rfl : name = name' := congrArg Prod.snd hname
    exact ⟨rfl, hrest⟩

end

theorem levels_injective {depth : Nat} {o o' : Outline} (h : o.levels depth = o'.levels depth) :
    o = o' :=
  (levels_append_inj (endsAbove_nil depth) (endsAbove_nil depth) o o' (congrArg (· ++ []) h)).1

mutual

def Rooted : Outline → Prop
  | mk members => RootedIn members

def RootedIn : List (Text × Outline) → Prop
  | [] => True
  | (name, below) :: rest => isAbsolute name = true ∧ below.Rooted ∧ RootedIn rest

end

theorem rootedIn_iff {members : List (Text × Outline)} :
    RootedIn members ↔ ∀ m ∈ members, isAbsolute m.1 = true ∧ m.2.Rooted := by
  induction members with
  | nil => simp [RootedIn]
  | cons m rest ih => simp [RootedIn, ih, and_assoc]

def read (line : Text) : Nat × Text :=
  ((line.takeWhile (· ≠ '/')).length / 4, line.dropWhile (· ≠ '/'))

theorem read_append {stem name : Text} (hstem : '/' ∉ stem) (hname : isAbsolute name = true) :
    read (stem ++ name) = (stem.length / 4, name) := by
  have hpass : ∀ c ∈ stem, decide (c ≠ '/') = true :=
    fun c hc => decide_eq_true fun h => hstem (h ▸ hc)
  cases name with
  | nil => cases hname
  | cons c rest =>
    obtain rfl : c = '/' := by simpa [isAbsolute] using hname
    rw [read, List.takeWhile_append_of_pos hpass, List.dropWhile_append_of_pos hpass]
    simp

theorem length_joint (last : Bool) : (Strokes.boxes.joint last).length = 4 := by
  cases last <;> rfl

theorem length_margin (last : Bool) : (Strokes.boxes.margin last).length = 4 := by
  cases last <;> rfl

theorem not_mem_joint (last : Bool) : '/' ∉ Strokes.boxes.joint last := by
  cases last <;> decide

theorem not_mem_margin (last : Bool) : '/' ∉ Strokes.boxes.margin last := by
  cases last <;> decide

mutual

theorem map_read_drawing {indent : Text} (depth : Nat) (hindent : '/' ∉ indent)
    (hdepth : indent.length = 4 * depth) (way : List Text) : (o : Outline) → o.Rooted →
      (o.drawing .boxes indent way).map (fun e => read e.2) = o.levels (depth + 1)
  | mk members, h => map_read_drawingIn depth hindent hdepth way members h

theorem map_read_drawingIn {indent : Text} (depth : Nat) (hindent : '/' ∉ indent)
    (hdepth : indent.length = 4 * depth) (way : List Text) :
    (members : List (Text × Outline)) → RootedIn members →
      (drawingIn .boxes indent way members).map (fun e => read e.2) = levelsIn (depth + 1) members
  | [], _ => rfl
  | (name, below) :: rest, ⟨hname, hbelow, hrest⟩ => by
    have hstem : '/' ∉ indent ++ Strokes.boxes.joint rest.isEmpty :=
      fun h => (List.mem_append.mp h).elim hindent (not_mem_joint _)
    have hcolumns : (indent ++ Strokes.boxes.joint rest.isEmpty).length / 4 = depth + 1 := by
      rw [List.length_append, length_joint]
      omega
    have hdeeper : '/' ∉ indent ++ Strokes.boxes.margin rest.isEmpty :=
      fun h => (List.mem_append.mp h).elim hindent (not_mem_margin _)
    have hdepth' : (indent ++ Strokes.boxes.margin rest.isEmpty).length = 4 * (depth + 1) := by
      rw [List.length_append, length_margin]
      omega
    rw [drawingIn, List.map_cons, List.map_append,
      map_read_drawing (depth + 1) hdeeper hdepth' (way ++ [name]) below hbelow,
      map_read_drawingIn depth hindent hdepth way rest hrest, read_append hstem hname, hcolumns,
      levelsIn]

end

theorem map_read_drawn {o : Outline} (h : o.Rooted) :
    (o.drawn .boxes).map (fun e => read e.2) = o.levels 0 := by
  obtain ⟨members⟩ := o
  rw [drawn, Outline.members, levels]
  replace h : RootedIn members := h
  induction members with
  | nil => rfl
  | cons m rest ih =>
    obtain ⟨hname, hbelow, hrest⟩ := h
    have hread : read m.1 = (0, m.1) := read_append List.not_mem_nil hname
    rw [List.flatMap_cons, List.map_append, ih hrest, List.map_cons,
      map_read_drawing 0 List.not_mem_nil rfl _ _ hbelow, hread]
    rfl

theorem eq_of_drawn_eq {o o' : Outline} (ho : o.Rooted) (ho' : o'.Rooted)
    (h : (o.drawn .boxes).map (·.2) = (o'.drawn .boxes).map (·.2)) : o = o' := by
  have hread := congrArg (List.map read) h
  rw [List.map_map, List.map_map] at hread
  exact levels_injective ((map_read_drawn ho).symm.trans (hread.trans (map_read_drawn ho')))

end Outline

namespace Graph

variable {g g' : Graph} {top top' id : NodeId} {r : Ref} {way : List Text} {above : List NodeId}

/-- What stands below a node is a finite nested mapping: each way down leads to a node, which maps
a name once, and none comes back to a node that it has passed. -/
structure Nested (g : Graph) (top : NodeId) : Prop where
  keyed : g.Keyed
  mapping : ∀ way r, g.follow? (.node top) way = some r → ∃ id < g.size, r = .node id
  acyclic : ∀ way, g.returns (.node top) way = false

def Rooted (g : Graph) (top : NodeId) : Prop :=
  ∀ way id, g.follow? (.node top) way = some (.node id) →
    ∀ name ∈ (g.members id).keys, isAbsolute name = true

def Above (g : Graph) (top : NodeId) (way : List Text) (above : List NodeId) : Prop :=
  ∀ id ∈ above, ∃ n < way.length, g.follow? (.node top) (way.take n) = some (.node id)

theorem above_nil (g : Graph) (top : NodeId) : g.Above top [] [] := by
  rintro id ⟨⟩

theorem Above.concat {name : Text} (h : g.Above top way above)
    (hid : g.follow? (.node top) way = some (.node id)) :
    g.Above top (way ++ [name]) (id :: above) := by
  intro id' hid'
  rw [List.length_append, List.length_singleton]
  rcases List.mem_cons.mp hid' with rfl | hid'
  · exact ⟨way.length, Nat.lt_succ_self _, by rw [List.take_left, hid]⟩
  · obtain ⟨n, hn, hfollow⟩ := h id' hid'
    exact ⟨n, Nat.lt_succ_of_lt hn, by rwa [List.take_append_of_le_length (Nat.le_of_lt hn)]⟩

theorem keyed_of_lt (h : ∀ id < g.size, (g.members id).keys.Nodup) : g.Keyed := by
  intro id
  by_cases hid : id < g.size
  · exact h id hid
  · rw [members, List.getElem?_eq_none (Nat.le_of_not_lt hid)]
    exact List.nodup_nil

namespace Nested

theorem top_lt (h : g.Nested top) : top < g.size := by
  obtain ⟨id, hid, heq⟩ := h.mapping [] _ rfl
  exact Ref.node.inj heq ▸ hid

theorem not_mem_above (h : g.Nested top) (hid : g.follow? (.node top) way = some (.node id))
    (habove : g.Above top way above) : id ∉ above := by
  intro hmem
  obtain ⟨n, hn, hfollow⟩ := habove id hmem
  have hreturns := h.acyclic way
  rw [returns, hid] at hreturns
  refine absurd ?_ (Bool.eq_false_iff.mp hreturns)
  exact List.any_eq_true.mpr ⟨n, List.mem_range.mpr hn, decide_eq_true hfollow⟩

theorem unfold_eq (h : g.Nested top) (hid : g.follow? (.node top) way = some (.node id))
    (habove : g.Above top way above) :
    g.unfold above (.node id) =
      .mk ((g.members id).map fun (name, r) => (name, g.unfold (id :: above) r)) := by
  obtain ⟨id', hlt, heq⟩ := h.mapping way _ hid
  obtain rfl := Ref.node.inj heq
  rw [unfold, dif_pos ⟨h.not_mem_above hid habove, hlt⟩]

theorem rooted (h : g.Nested top)
    (hnames : ∀ id < g.size, ∀ name ∈ (g.members id).keys, isAbsolute name = true) :
    g.Rooted top := by
  intro way id hid
  obtain ⟨id', hlt, heq⟩ := h.mapping way _ hid
  obtain rfl := Ref.node.inj heq
  exact hnames id hlt

theorem rooted_unfold (h : g.Nested top) (hnames : g.Rooted top)
    (hr : g.follow? (.node top) way = some r) (habove : g.Above top way above) :
    (g.unfold above r).Rooted := by
  -- each step down leaves one more node above
  induction hoff : (g.off above).length using Nat.strong_induction_on
    generalizing way above r with
  | _ n ih =>
    obtain ⟨id, hlt, rfl⟩ := h.mapping way r hr
    rw [h.unfold_eq hr habove]
    refine Outline.rootedIn_iff.mpr fun m hm => ?_
    obtain ⟨⟨name, r⟩, hmember, rfl⟩ := List.mem_map.mp hm
    refine ⟨hnames way id hr name (List.mem_map_of_mem hmember), ?_⟩
    exact ih _ (hoff ▸ g.length_off_cons (h.not_mem_above hr habove) hlt)
      (follow?_member h.keyed hr hmember) (habove.concat hr) rfl

theorem rooted_outline (h : g.Nested top) (hnames : g.Rooted top) :
    (g.outline (.node top)).Rooted :=
  h.rooted_unfold hnames rfl (above_nil g top)

theorem lines_eq (h : g.Nested top) :
    g.lines .boxes (.node top) = .ok (((g.outline (.node top)).drawn .boxes).map (·.2)) := by
  have hself : ∀ name, (name, .node top) ∉ g.members top := by
    intro name hm
    have hback : g.follow? (.node top) ([] ++ [name]) = some (.node top) :=
      follow?_member h.keyed rfl hm
    exact h.not_mem_above hback ((above_nil g top).concat rfl) List.mem_cons_self
  rw [lines_eq_drawn h.keyed h.top_lt hself]
  refine congrArg Except.ok (List.map_congr_left fun e _ => ?_)
  rw [marked, h.acyclic, if_neg Bool.false_ne_true]

/-- Where each node of a graph maps only to nodes after it, no way goes round in a circle. -/
theorem of_later (hkeyed : g.Keyed) (htop : top < g.size)
    (hlater : ∀ id < g.size, ∀ m ∈ g.members id, ∃ id' < g.size, id < id' ∧ m.2 = .node id') :
    g.Nested top := by
  have hdown : ∀ way id r, id < g.size → g.follow? (.node id) way = some r →
      ∃ id' < g.size, id + way.length ≤ id' ∧ r = .node id' := by
    intro way
    induction way with
    | nil =>
      rintro id r hid ⟨⟩
      exact ⟨id, hid, Nat.le_refl id, rfl⟩
    | cons name way ih =>
      intro id r hid hr
      rw [follow?, Option.bind_eq_some_iff] at hr
      obtain ⟨r', hr', hr⟩ := hr
      obtain ⟨id', hid', hlt, rfl⟩ := hlater id hid _ (Table.mem_of_get? hr')
      obtain ⟨id'', hid'', hle, rfl⟩ := ih id' r hid' hr
      refine ⟨id'', hid'', ?_, rfl⟩
      calc id + (name :: way).length = id + 1 + way.length := by
            rw [List.length_cons, Nat.add_right_comm, Nat.add_assoc]
        _ ≤ id' + way.length := Nat.add_le_add_right hlt _
        _ ≤ id'' := hle
  refine ⟨hkeyed, fun way r hr => ?_, fun way => ?_⟩
  · obtain ⟨id, hid, -, rfl⟩ := hdown way top r htop hr
    exact ⟨id, hid, rfl⟩
  · refine Bool.eq_false_iff.mpr fun hreturns => ?_
    rw [returns] at hreturns
    split at hreturns
    · next id hid =>
      obtain ⟨n, hn, hpassed⟩ := List.any_eq_true.mp hreturns
      rw [List.mem_range] at hn
      have hpassed : g.follow? (.node top) (way.take n) = some (.node id) :=
        of_decide_eq_true hpassed
      -- the rest of the way would lead from the node to itself
      have hrest : g.follow? (.node id) (way.drop n) = some (.node id) := by
        rwa [← List.take_append_drop n way, follow?_append, hpassed, Option.bind_some] at hid
      obtain ⟨id', hlt, -, heq⟩ := hdown _ top _ htop hpassed
      obtain rfl := Ref.node.inj heq
      obtain ⟨id'', -, hle, heq⟩ := hdown _ id _ hlt hrest
      obtain rfl := Ref.node.inj heq
      rw [List.length_drop] at hle
      omega
    · cases hreturns

end Nested

theorem namesOf_follow?_eq (h : g.Nested top) (h' : g'.Nested top') {pre : List Text}
    {r r' : Ref} {above above' : List NodeId}
    (hr : g.follow? (.node top) pre = some r) (hr' : g'.follow? (.node top') pre = some r')
    (habove : g.Above top pre above) (habove' : g'.Above top' pre above')
    (hunfold : g.unfold above r = g'.unfold above' r') (way : List Text) :
    (g.follow? r way).map g.namesOf = (g'.follow? r' way).map g'.namesOf := by
  induction way generalizing pre r r' above above' with
  | nil =>
    obtain ⟨id, -, rfl⟩ := h.mapping pre r hr
    obtain ⟨id', -, rfl⟩ := h'.mapping pre r' hr'
    rw [h.unfold_eq hr habove, h'.unfold_eq hr' habove'] at hunfold
    have hkeys := congrArg (List.map Prod.fst) (Outline.mk.inj hunfold)
    rw [List.map_map, List.map_map] at hkeys
    exact congrArg some hkeys
  | cons name way ih =>
    obtain ⟨id, -, rfl⟩ := h.mapping pre r hr
    obtain ⟨id', -, rfl⟩ := h'.mapping pre r' hr'
    rw [h.unfold_eq hr habove, h'.unfold_eq hr' habove'] at hunfold
    have hget := congrArg (Table.get? · name) (Outline.mk.inj hunfold)
    simp only [Table.get?_map_snd] at hget
    rw [follow?, follow?]
    cases hm : Table.get? (g.members id) name with
    | none =>
      rw [hm, Option.map_none, eq_comm, Option.map_eq_none_iff] at hget
      rw [hget]
      rfl
    | some r =>
      rw [hm, Option.map_some, eq_comm, Option.map_eq_some_iff] at hget
      obtain ⟨r', hm', hbelow⟩ := hget
      rw [hm', Option.bind_some, Option.bind_some]
      exact ih (follow?_member h.keyed hr (Table.mem_of_get? hm))
        (follow?_member h'.keyed hr' (Table.mem_of_get? hm')) (habove.concat hr)
        (habove'.concat hr') hbelow.symm

/-- Drawing loses nothing. Two nested mappings whose names begin with a slash, and may otherwise be
any texts, have the same outline if they have the same lines: each way down leads to a node in both
or in neither, and the nodes there have the same names in the same order. -/
theorem nested_mapping_of_lines (h : g.Nested top) (h' : g'.Nested top')
    (hnames : g.Rooted top) (hnames' : g'.Rooted top')
    (hlines : g.lines .boxes (.node top) = g'.lines .boxes (.node top')) :
    g.outline (.node top) = g'.outline (.node top') ∧
      ∀ way, (g.follow? (.node top) way).map g.namesOf =
        (g'.follow? (.node top') way).map g'.namesOf := by
  rw [h.lines_eq, h'.lines_eq] at hlines
  have houtline := Outline.eq_of_drawn_eq (h.rooted_outline hnames) (h'.rooted_outline hnames')
    (Except.ok.inj hlines)
  refine ⟨houtline, fun way => ?_⟩
  exact namesOf_follow?_eq h h' rfl rfl (above_nil g top) (above_nil g' top') houtline way

def shared : Graph :=
  ⟨[[("/│   ".toList, .node 1)],
    [("/├── /b".toList, .node 2), ("/└── ".toList, .node 2)],
    [("/".toList, .node 3)],
    []]⟩

def copied : Graph :=
  ⟨[[("/│   ".toList, .node 1)],
    [("/├── /b".toList, .node 2), ("/└── ".toList, .node 4)],
    [("/".toList, .node 3)],
    [],
    [("/".toList, .node 5)],
    []]⟩

theorem nested_shared : shared.Nested 0 :=
  .of_later (keyed_of_lt (by decide)) (by decide) (by decide)

theorem nested_copied : copied.Nested 0 :=
  .of_later (keyed_of_lt (by decide)) (by decide) (by decide)

theorem shared_node_drawn_like_copies :
    shared.lines .boxes (.node 0) = copied.lines .boxes (.node 0) ∧
      ∀ way, (shared.follow? (.node 0) way).map shared.namesOf =
        (copied.follow? (.node 0) way).map copied.namesOf := by
  have hlines : shared.lines .boxes (.node 0) = copied.lines .boxes (.node 0) := by
    decide +kernel
  have hnames := nested_mapping_of_lines nested_shared nested_copied
    (nested_shared.rooted (by decide)) (nested_copied.rooted (by decide)) hlines
  exact ⟨hlines, hnames.2⟩

end Graph
end ModuleGraph
