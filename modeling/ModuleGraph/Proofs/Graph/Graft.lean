import Mathlib.Data.List.Forall2
import ModuleGraph.Proofs.Graph.Drawing

/-! The drawing of an outline that is put into a graph as new nodes. The nodes are numbered from
some number on, each after those below it, so that no node stands below itself and nothing is
marked. -/

namespace ModuleGraph.Graph

variable {g g' : Graph} {s : Strokes} {above : List NodeId} {indent : Text}

/-- The lines below a node are those of an outline, also below other nodes that are not among those
of the outline. -/
structure Shows (s : Strokes) (g : Graph) (first : NodeId) (o : Outline) (id : NodeId) : Prop where
  first_le : first ≤ id
  lt : id < g.size
  lines : ∀ way above indent, (∀ a ∈ above, a < first ∨ id ≤ a) →
    linesBelow s g above indent (g.members id) = (o.drawing s indent way).map (·.2)

theorem Shows.mono {first first' : NodeId} {o : Outline} {id : NodeId} (h : g.Shows s first o id)
    (hfirst : first' ≤ first) : g.Shows s first' o id :=
  ⟨Nat.le_trans hfirst h.first_le, h.lt, fun way above indent habove =>
    h.lines way above indent fun a ha =>
      (habove a ha).imp_left fun hless => Nat.lt_of_lt_of_le hless hfirst⟩

def ShowsAll (s : Strokes) (g : Graph) (first bound : NodeId) :
    List (Text × Outline) → List (Text × Ref) → Prop :=
  List.Forall₂ fun m m' => m'.1 = m.1 ∧ ∃ id < bound, m'.2 = .node id ∧ g.Shows s first m.2 id

variable {first bound : NodeId} {members : List (Text × Outline)} {t : List (Text × Ref)}

theorem ShowsAll.linesBelow_eq (h : g.ShowsAll s first bound members t)
    (habove : ∀ a ∈ above, a < first ∨ bound ≤ a) (indent : Text) (way : List Text) :
    linesBelow s g above indent t = (Outline.drawingIn s indent way members).map (·.2) := by
  induction h with
  | nil => rw [linesBelow]; rfl
  | @cons m m' ms rest hm hrest ih =>
    obtain ⟨name, o⟩ := m
    obtain ⟨name', r⟩ := m'
    obtain ⟨rfl, id, hid, rfl, hshows⟩ := hm
    have hlength : ms.isEmpty = rest.isEmpty := by
      have := hrest.length_eq
      cases ms <;> cases rest <;> simp_all
    have hnew : id ∉ above := fun hmem => by
      rcases habove id hmem with hless | hmore
      · exact Nat.not_lt.mpr hshows.first_le hless
      · exact Nat.not_lt.mpr hmore hid
    have hdown : ∀ a ∈ id :: above, a < first ∨ id ≤ a := by
      intro a ha
      rcases List.mem_cons.mp ha with rfl | ha
      · exact Or.inr (Nat.le_refl a)
      · exact (habove a ha).imp_right fun h => Nat.le_trans (Nat.le_of_lt hid) h
    have hbelow := hshows.lines (way ++ [name']) (id :: above) (indent ++ s.margin rest.isEmpty)
      hdown
    rw [linesBelow_cons, ih, Outline.drawingIn, hlength]
    simp [hnew, hshows.lt, hbelow]

theorem ShowsAll.lines_eq (h : g.ShowsAll s first bound members t) {top : NodeId}
    (ht : g.members top = t) (htop : bound ≤ top) :
    g.lines s (.node top) = .ok (((Outline.mk members).drawn s).map (·.2)) := by
  rw [lines, ht, Outline.drawn, Outline.members]
  clear ht
  refine congrArg Except.ok ?_
  induction h with
  | nil => rfl
  | @cons m m' ms rest hm _ ih =>
    obtain ⟨name, o⟩ := m
    obtain ⟨name', r⟩ := m'
    obtain ⟨rfl, id, hid, rfl, hshows⟩ := hm
    have habove : ∀ a ∈ [top, id], a < first ∨ id ≤ a := by
      intro a ha
      rcases List.mem_pair.mp ha with rfl | rfl
      · exact Or.inr (Nat.le_of_lt (Nat.lt_of_lt_of_le hid htop))
      · exact Or.inr (Nat.le_refl _)
    rw [List.flatMap_cons, List.flatMap_cons, List.map_append, ← ih, List.map_cons,
      ← hshows.lines [name'] _ _ habove]

theorem members_eq_of_older (h : g.nodes <+: g'.nodes) {id : NodeId} (hid : id < g.size) :
    g'.members id = g.members id := by
  obtain ⟨more, hmore⟩ := h
  rw [members, members, ← hmore, List.getElem?_append_left hid]

theorem keys_graftAll (members : List (Text × Outline)) (g : Graph) :
    Table.keys (g.graftAll members).2 = Table.keys members := by
  induction members generalizing g with
  | nil => rfl
  | cons m rest ih => exact congrArg (m.1 :: ·) (ih (g.graft m.2).1)

theorem graft_eq (hnames : (Table.keys members).Nodup) (g : Graph) :
    g.graft (.mk members) = (g.graftAll members).1.add (g.graftAll members).2 := by
  have htable : Table.ofList (g.graftAll members).2 = (g.graftAll members).2 :=
    (Table.update_of_disjoint (keys_graftAll members g ▸ hnames) (by simp [Table.keys])).trans
      (List.nil_append _)
  rw [graft]
  exact congrArg (g.graftAll members).1.add htable

mutual

theorem shows_graft (s : Strokes) : (o : Outline) → o.Keyed → (g : Graph) →
    g.nodes <+: (g.graft o).1.nodes ∧
      ∀ g' : Graph, (g.graft o).1.nodes <+: g'.nodes → g'.Shows s g.size o (g.graft o).2
  | .mk members, ⟨hnames, hmembers⟩, g => by
    obtain ⟨hold, hall⟩ := showsAll_graftAll s members hmembers g
    rw [graft_eq hnames]
    refine ⟨hold.trans (List.prefix_append _ _), fun g' hg' =>
      ⟨hold.length_le, ?_, fun way above indent habove => ?_⟩⟩
    · exact Nat.lt_of_lt_of_le (add_lt_size _ _) hg'.length_le
    · have hall := hall g' ((List.prefix_append _ _).trans hg')
      rw [members_eq_of_older hg' (add_lt_size _ _), members_add_new]
      exact hall.linesBelow_eq habove indent way

theorem showsAll_graftAll (s : Strokes) : (members : List (Text × Outline)) →
    Outline.KeyedIn members → (g : Graph) →
      g.nodes <+: (g.graftAll members).1.nodes ∧
        ∀ g' : Graph, (g.graftAll members).1.nodes <+: g'.nodes →
          g'.ShowsAll s g.size (g.graftAll members).1.size members (g.graftAll members).2
  | [], _, g => ⟨List.prefix_rfl, fun _ _ => .nil⟩
  | (name, o) :: rest, ⟨ho, hrest⟩, g => by
    obtain ⟨hold, hshows⟩ := shows_graft s o ho g
    obtain ⟨hold', hall⟩ := showsAll_graftAll s rest hrest (g.graft o).1
    refine ⟨hold.trans hold', fun g' hg' => .cons ⟨rfl, _, ?_, rfl, ?_⟩ ?_⟩
    · exact Nat.lt_of_lt_of_le (hshows _ List.prefix_rfl).lt hold'.length_le
    · exact hshows g' (hold'.trans hg')
    · refine (hall g' hg').imp ?_
      rintro m m' ⟨hname, id, hid, hnode, hm⟩
      exact ⟨hname, id, hid, hnode, hm.mono hold.length_le⟩

end

theorem lines_graft (s : Strokes) (g : Graph) {o : Outline} (ho : o.Keyed) :
    (g.graft o).1.lines s (.node (g.graft o).2) = .ok ((o.drawn s).map (·.2)) := by
  obtain ⟨members⟩ := o
  obtain ⟨hnames, hmembers⟩ := ho
  obtain ⟨-, hall⟩ := showsAll_graftAll s members hmembers g
  have hall := hall (g.graft (.mk members)).1 (graft_eq hnames g ▸ List.prefix_append _ _)
  rw [graft_eq hnames] at hall ⊢
  exact hall.lines_eq (members_add_new _ _) (Nat.le_refl _)

theorem lines_and_lines_of_outline (s : Strokes) (hg : g.Keyed) {top : NodeId} (htop : top < g.size)
    (hself : ∀ name, (name, .node top) ∉ g.members top) :
    let o := g.outline (.node top)
    let copy := Graph.empty.graft o
    g.lines s (.node top) = .ok ((o.drawn s).map (g.marked s (.node top))) ∧
      copy.1.lines s (.node copy.2) = .ok ((o.drawn s).map (·.2)) :=
  ⟨lines_eq_drawn hg htop hself, lines_graft s .empty (hg.unfold [] (.node top))⟩

end ModuleGraph.Graph
