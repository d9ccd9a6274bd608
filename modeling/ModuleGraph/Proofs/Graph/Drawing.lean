import Mathlib.Data.List.Basic
import Mathlib.Data.Nat.Init
import ModuleGraph.Graph.Lines
import ModuleGraph.Graph.Outline

/-! The drawing of a graph beside the drawing of its outline. Both have a line for each way down the
outline, in the same order. The lines differ where a way comes back to a node that it has passed:
there the outline is cut off, and the drawing of the graph has a mark. -/

namespace ModuleGraph

namespace Outline

mutual

/-- The ways down an outline, name by name, in the order in which their ends stand in it. -/
def ways : Outline → List (List Text)
  | mk members => waysIn members

def waysIn : List (Text × Outline) → List (List Text)
  | [] => []
  | (name, below) :: rest => [name] :: (below.ways.map (name :: ·) ++ waysIn rest)

end

mutual

def Keyed : Outline → Prop
  | mk members => (Table.keys members).Nodup ∧ KeyedIn members

def KeyedIn : List (Text × Outline) → Prop
  | [] => True
  | (_, below) :: rest => below.Keyed ∧ KeyedIn rest

end

theorem keyedIn_iff {members : List (Text × Outline)} :
    KeyedIn members ↔ ∀ m ∈ members, m.2.Keyed := by
  induction members with
  | nil => simp [KeyedIn]
  | cons m rest ih => simp [KeyedIn, ih]

theorem keyed_ofNames (names : List Text) : (ofNames names).Keyed := by
  refine ⟨?_, keyedIn_iff.mpr ?_⟩
  · rw [Table.keys, List.map_map]
    exact (List.map_id (distinct names)).symm ▸ nodup_distinct names
  · intro m hm
    obtain ⟨n, -, rfl⟩ := List.mem_map.mp hm
    exact ⟨List.nodup_nil, trivial⟩

end Outline

namespace Strokes

def joint (s : Strokes) (last : Bool) : Text := if last then s.lastBranch else s.branch

def margin (s : Strokes) (last : Bool) : Text := if last then s.blank else s.through

end Strokes

namespace Outline

mutual

/-- What stands below a name: the way to each entry, from the `way` to the name on, and the line
that draws it. -/
def drawing (s : Strokes) (indent : Text) (way : List Text) : Outline → List (List Text × Text)
  | mk members => drawingIn s indent way members

def drawingIn (s : Strokes) (indent : Text) (way : List Text) :
    List (Text × Outline) → List (List Text × Text)
  | [] => []
  | (name, below) :: rest =>
    (way ++ [name], indent ++ s.joint rest.isEmpty ++ name) ::
      (below.drawing s (indent ++ s.margin rest.isEmpty) (way ++ [name]) ++
        drawingIn s indent way rest)

end

def drawn (s : Strokes) (o : Outline) : List (List Text × Text) :=
  o.members.flatMap fun (name, below) => ([name], name) :: below.drawing s [] [name]

mutual

theorem map_fst_drawing (s : Strokes) (indent : Text) (way : List Text) : (o : Outline) →
    (o.drawing s indent way).map (·.1) = o.ways.map (way ++ ·)
  | mk members => map_fst_drawingIn s indent way members

theorem map_fst_drawingIn (s : Strokes) (indent : Text) (way : List Text) :
    (members : List (Text × Outline)) →
      (drawingIn s indent way members).map (·.1) = (waysIn members).map (way ++ ·)
  | [] => rfl
  | (name, below) :: rest => by
    have hbelow := map_fst_drawing s (indent ++ s.margin rest.isEmpty) (way ++ [name]) below
    have hrest := map_fst_drawingIn s indent way rest
    simp [drawingIn, waysIn, hbelow, hrest, Function.comp_def]

end

theorem map_fst_drawn (s : Strokes) (o : Outline) : (o.drawn s).map (·.1) = o.ways := by
  obtain ⟨members⟩ := o
  rw [drawn, ways, Outline.members]
  induction members with
  | nil => rfl
  | cons m rest ih =>
    rw [List.flatMap_cons, List.map_append, ih, List.map_cons, map_fst_drawing, waysIn]
    rfl

theorem markLast_cons {α : Type} (a : α) (rest : List α) :
    Graph.markLast (a :: rest) = (a, rest.isEmpty) :: Graph.markLast rest := by
  cases rest <;> rfl

theorem drawingIn_leaves (s : Strokes) (indent : Text) (way names : List Text) :
    drawingIn s indent way (names.map fun n => (n, empty)) =
      (Graph.markLast names).map fun (item, last) =>
        (way ++ [item], indent ++ s.joint last ++ item) := by
  induction names with
  | nil => rfl
  | cons name rest ih =>
    rw [List.map_cons, drawingIn, ih, markLast_cons, List.map_cons, List.isEmpty_map]
    rfl

mutual

/-- Each line ends with the name to which its way leads, four columns further in for each name
before it. -/
theorem columns_drawing {indent : Text} {way : List Text}
    (hindent : 4 * way.length = indent.length + 4) :
    (o : Outline) → ∀ e ∈ o.drawing .boxes indent way,
      ∃ before name stem, e.1 = before ++ [name] ∧ e.2 = stem ++ name ∧
        stem.length = 4 * before.length
  | mk members => columns_drawingIn hindent members

theorem columns_drawingIn {indent : Text} {way : List Text}
    (hindent : 4 * way.length = indent.length + 4) :
    (members : List (Text × Outline)) → ∀ e ∈ drawingIn .boxes indent way members,
      ∃ before name stem, e.1 = before ++ [name] ∧ e.2 = stem ++ name ∧
        stem.length = 4 * before.length
  | [] => by simp [drawingIn]
  | (name, below) :: rest => by
    intro e he
    have hjoint : (Strokes.boxes.joint rest.isEmpty).length = 4 := by
      cases rest.isEmpty <;> rfl
    have hmargin : (Strokes.boxes.margin rest.isEmpty).length = 4 := by
      cases rest.isEmpty <;> rfl
    rw [drawingIn, List.mem_cons, List.mem_append] at he
    rcases he with rfl | he | he
    · exact ⟨way, name, _, rfl, rfl, by rw [List.length_append, hjoint, hindent]⟩
    · refine columns_drawing ?_ below e he
      simp only [List.length_append, List.length_singleton, hmargin]
      omega
    · exact columns_drawingIn hindent rest e he

end

theorem columns_drawn (o : Outline) : ∀ e ∈ o.drawn .boxes,
    ∃ before name stem, e.1 = before ++ [name] ∧ e.2 = stem ++ name ∧
      stem.length = 4 * before.length := by
  intro e he
  obtain ⟨⟨name, below⟩, -, he⟩ := List.mem_flatMap.mp he
  rcases List.mem_cons.mp he with rfl | he
  · exact ⟨[], name, [], rfl, rfl, rfl⟩
  · exact columns_drawing rfl below e he

end Outline

namespace Graph

variable {g : Graph} {s : Strokes} {root r : Ref} {way : List Text} {above : List NodeId}
  {indent : Text} {name : Text}

def Keyed (g : Graph) : Prop := ∀ id, (g.members id).keys.Nodup

theorem Keyed.unfold (h : g.Keyed) (above : List NodeId) (r : Ref) : (g.unfold above r).Keyed := by
  -- each step down leaves one more node above
  induction hoff : (g.off above).length using Nat.strong_induction_on generalizing above r with
  | _ n ih =>
    cases r with
    | list items =>
      rw [Graph.unfold]
      exact Outline.keyed_ofNames items
    | node id =>
      rw [Graph.unfold]
      split
      · next hnew =>
        refine ⟨?_, Outline.keyedIn_iff.mpr fun m hm => ?_⟩
        · rw [Table.keys, List.map_map]
          exact h id
        · obtain ⟨⟨name, r⟩, -, rfl⟩ := List.mem_map.mp hm
          exact ih _ (hoff ▸ g.length_off_cons hnew.1 hnew.2) (id :: above) r rfl
      · exact ⟨List.nodup_nil, trivial⟩

def follow? (g : Graph) : Ref → List Text → Option Ref
  | r, [] => some r
  | .node id, name :: rest => (Table.get? (g.members id) name).bind fun r => g.follow? r rest
  | .list _, _ :: _ => none

/-- Whether a way comes back, at its end, to a node that it has passed. -/
def returns (g : Graph) (root : Ref) (way : List Text) : Bool :=
  match g.follow? root way with
  | some (.node id) =>
    (List.range way.length).any fun n => g.follow? root (way.take n) = some (.node id)
  | _ => false

theorem follow?_append (g : Graph) (r : Ref) (way more : List Text) :
    g.follow? r (way ++ more) = (g.follow? r way).bind fun r => g.follow? r more := by
  induction way generalizing r with
  | nil => rfl
  | cons name rest ih =>
    cases r with
    | list items => rfl
    | node id =>
      rw [List.cons_append, follow?, follow?, Option.bind_assoc]
      exact Option.bind_congr fun r _ => ih r

theorem follow?_member {id : NodeId} {m : Text × Ref} (hg : g.Keyed)
    (h : g.follow? root way = some (.node id)) (hm : m ∈ g.members id) :
    g.follow? root (way ++ [m.1]) = some m.2 := by
  rw [follow?_append, h, Option.bind_some, follow?, Table.get?_eq_of_mem (hg id) hm]
  rfl

def PassedBy (g : Graph) (root : Ref) (way : List Text) (ids : List NodeId) : Prop :=
  ∀ id, id ∈ ids ↔ ∃ n ≤ way.length, g.follow? root (way.take n) = some (.node id)

theorem PassedBy.concat {id : NodeId} (h : g.PassedBy root way above)
    (hid : g.follow? root (way ++ [name]) = some (.node id)) :
    g.PassedBy root (way ++ [name]) (id :: above) := by
  intro id'
  rw [List.mem_cons, h id']
  constructor
  · rintro (rfl | ⟨n, hn, hfollow⟩)
    · exact ⟨_, Nat.le_refl _, by rwa [List.take_length]⟩
    · exact ⟨n, Nat.le_trans hn (by simp), by rwa [List.take_append_of_le_length hn]⟩
  · rintro ⟨n, hn, hfollow⟩
    rw [List.length_append, List.length_singleton] at hn
    rcases Nat.le_succ_iff.mp hn with hn | rfl
    · exact Or.inr ⟨n, hn, by rwa [List.take_append_of_le_length hn] at hfollow⟩
    · rw [List.take_of_length_le (by simp), hid] at hfollow
      exact Or.inl (Ref.node.inj (Option.some.inj hfollow)).symm

theorem returns_concat_node {id : NodeId} (h : g.PassedBy root way above)
    (hid : g.follow? root (way ++ [name]) = some (.node id)) :
    g.returns root (way ++ [name]) = decide (id ∈ above) := by
  rw [returns, hid, Bool.eq_iff_iff, decide_eq_true_iff, h id, List.any_eq_true]
  simp only [List.mem_range, decide_eq_true_iff, List.length_append, List.length_singleton]
  refine exists_congr fun n => ?_
  rw [Nat.lt_succ_iff]
  refine and_congr_right fun hn => ?_
  rw [List.take_append_of_le_length hn]

theorem returns_of_not_node (h : ∀ id, g.follow? root way ≠ some (.node id)) :
    g.returns root way = false := by
  rw [returns]
  split
  · next id hid => exact absurd hid (h id)
  · rfl

theorem returns_of_list {items : List Text} (h : g.follow? root way = some (.list items)) :
    g.returns root way = false := by
  refine returns_of_not_node fun id hid => ?_
  rw [h] at hid
  cases hid

theorem returns_below_list {items : List Text} (item : Text)
    (h : g.follow? root way = some (.list items)) : g.returns root (way ++ [item]) = false := by
  refine returns_of_not_node fun id hid => ?_
  rw [follow?_append, h] at hid
  cases hid

theorem passedBy_nil (g : Graph) (top : NodeId) : g.PassedBy (.node top) [] [top] := by
  intro id
  simp [follow?, eq_comm]

theorem one_lt_length_of_returns {top : NodeId} (hself : ∀ name, (name, .node top) ∉ g.members top)
    (h : g.returns (.node top) way) : 1 < way.length := by
  match way with
  | [] => simp [returns, follow?] at h
  | [name] =>
    cases hr : g.follow? (.node top) ([] ++ [name]) with
    | none => rw [returns, ← List.nil_append [name], hr] at h; cases h
    | some r =>
      cases r with
      | list items => rw [← List.nil_append [name], returns_of_list hr] at h; cases h
      | node id =>
        rw [← List.nil_append [name], returns_concat_node (passedBy_nil g top) hr,
          decide_eq_true_iff, List.mem_singleton] at h
        subst h
        rw [List.nil_append, follow?, Option.bind_eq_some_iff] at hr
        obtain ⟨r, hr, heq⟩ := hr
        obtain rfl := Option.some.inj heq
        exact absurd (Table.mem_of_get? hr) (hself name)
  | _ :: _ :: _ => simp

def marked (s : Strokes) (g : Graph) (root : Ref) (e : List Text × Text) : Text :=
  if g.returns root e.1 then e.2 ++ s.circular else e.2

theorem linesBelow_cons (s : Strokes) (g : Graph) (above : List NodeId) (indent name : Text)
    (r : Ref) (rest : List (Text × Ref)) :
    linesBelow s g above indent ((name, r) :: rest) =
      (let stem := indent ++ s.joint rest.isEmpty ++ name
      let deeper := indent ++ s.margin rest.isEmpty
      match r with
      | .list items =>
        stem :: (markLast (distinct items)).map fun (item, last) => deeper ++ s.joint last ++ item
      | .node id =>
        if id ∈ above then [stem ++ s.circular]
        else if id < g.size then stem :: linesBelow s g (id :: above) deeper (g.members id)
        else [stem]) ++ linesBelow s g above indent rest := by
  rw [linesBelow, linesBelow, Outline.markLast_cons, List.flatMap_cons]
  rfl

theorem marked_leaves (s : Strokes) (indent : Text) {items : List Text}
    (h : g.follow? root way = some (.list items)) (names : List Text) :
    (Outline.drawingIn s indent way (names.map fun n => (n, .empty))).map (g.marked s root) =
      (markLast names).map fun (item, last) => indent ++ s.joint last ++ item := by
  rw [Outline.drawingIn_leaves, List.map_map]
  refine List.map_congr_left fun m _ => ?_
  rw [Function.comp_apply, marked, returns_below_list m.1 h]
  rfl

/-- The lines below some names of a node are those of what they unfold to, with marks. -/
theorem linesBelow_eq_drawing (hg : g.Keyed) (members : List (Text × Ref))
    (hmembers : ∀ m ∈ members, g.follow? root (way ++ [m.1]) = some m.2) {above' : List NodeId}
    (hpassed : g.PassedBy root way above) (hpassed' : g.PassedBy root way above')
    (indent : Text) :
    linesBelow s g above indent members =
      (Outline.drawingIn s indent way
        (members.map fun (name, r) => (name, g.unfold above' r))).map (g.marked s root) := by
  -- each step down leaves one more node above; beside each other go the names
  induction hoff : (g.off above').length using Nat.strong_induction_on
    generalizing way above above' indent members with
  | _ n ih =>
    induction members with
    | nil => rw [linesBelow]; rfl
    | cons m rest ihrest =>
      obtain ⟨name, r⟩ := m
      obtain ⟨hr, hrest⟩ := List.forall_mem_cons.mp hmembers
      rw [linesBelow_cons, List.map_cons, Outline.drawingIn, List.isEmpty_map, List.map_cons,
        List.map_append, ← ihrest hrest, ← List.cons_append]
      congr 1
      cases r with
      | list items =>
        have hleaf := returns_of_list hr
        have hitems := marked_leaves s (indent ++ s.margin rest.isEmpty) hr (distinct items)
        rw [unfold, Outline.ofNames, Outline.drawing, hitems, marked, hleaf]
        rfl
      | node id =>
        have hreturns := returns_concat_node hpassed hr
        have hcut : id ∈ above' ↔ id ∈ above := (hpassed' id).trans (hpassed id).symm
        rw [marked, hreturns, unfold]
        by_cases hid : id ∈ above
        · simp [hid, hcut, Outline.empty, Outline.drawing, Outline.drawingIn]
        · by_cases hlt : id < g.size
          · have hid' : id ∉ above' := hid ∘ hcut.mp
            have hdown : ∀ m ∈ g.members id,
                g.follow? root (way ++ [name] ++ [m.1]) = some m.2 :=
              fun m hm => follow?_member hg hr hm
            have hbelow := ih _ (hoff ▸ g.length_off_cons hid' hlt) (g.members id) hdown
              (hpassed.concat hr) (hpassed'.concat hr) (indent ++ s.margin rest.isEmpty) rfl
            simp [hid, hid', hlt, hbelow, Outline.drawing]
          · simp [hid, hlt, Outline.empty, Outline.drawing, Outline.drawingIn]

theorem linesBelow_leaves (s : Strokes) (g : Graph) (above : List NodeId) (indent : Text)
    (names : List Text) :
    linesBelow s g above indent (names.map fun n => (n, .list [])) =
      (markLast names).map fun (item, last) => indent ++ s.joint last ++ item := by
  induction names with
  | nil => rw [List.map_nil, linesBelow]; rfl
  | cons name rest ih =>
    rw [List.map_cons, linesBelow_cons, ih, Outline.markLast_cons, List.isEmpty_map]
    rfl

theorem lines_eq_drawn (hg : g.Keyed) {top : NodeId} (htop : top < g.size)
    (hself : ∀ name, (name, .node top) ∉ g.members top) :
    g.lines s (.node top) =
      .ok (((g.outline (.node top)).drawn s).map (g.marked s (.node top))) := by
  have hstart := passedBy_nil g top
  rw [lines, outline, unfold, dif_pos ⟨List.not_mem_nil, htop⟩, Outline.drawn, List.map_flatMap,
    Outline.members, List.flatMap_map]
  refine congrArg Except.ok (List.flatMap_congr fun m hm => ?_)
  obtain ⟨name, r⟩ := m
  have hr : g.follow? (.node top) ([] ++ [name]) = some r := follow?_member hg rfl hm
  cases r with
  | list items =>
    have hleaf := returns_of_list hr
    have hitems := marked_leaves s [] hr (distinct items)
    rw [List.nil_append] at hleaf hitems
    simp only [List.map_cons, linesBelow_leaves, ← hitems, marked, hleaf, unfold, Outline.ofNames,
      Outline.drawing, Bool.false_eq_true, if_false]
  | node id =>
    have hne : id ≠ top := fun heq => hself name (heq ▸ hm)
    have hleaf : g.returns (.node top) [name] = false := by
      rw [← List.nil_append [name], returns_concat_node hstart hr]
      exact decide_eq_false fun hid => hne (List.mem_singleton.mp hid)
    simp only [List.map_cons, marked, hleaf, Bool.false_eq_true, if_false]
    refine congrArg _ ?_
    rw [unfold]
    by_cases hlt : id < g.size
    · have hpassed := hstart.concat hr
      have hpassed' : g.PassedBy (.node top) ([] ++ [name]) [top, id] := fun id' => by
        rw [← hpassed id', List.mem_pair, List.mem_pair, or_comm]
      have hdown : ∀ m ∈ g.members id, g.follow? (.node top) ([] ++ [name] ++ [m.1]) = some m.2 :=
        fun m hm => follow?_member hg hr hm
      rw [dif_pos ⟨by simpa using hne, hlt⟩, Outline.drawing]
      exact linesBelow_eq_drawing hg (g.members id) hdown hpassed' hpassed []
    · have hnone : g.members id = [] := by
        rw [members, List.getElem?_eq_none (Nat.le_of_not_lt hlt), Option.getD_none]
      rw [dif_neg fun h => hlt h.2, hnone, linesBelow]
      rfl

end Graph
end ModuleGraph
