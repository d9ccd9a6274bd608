import Mathlib.Logic.Relation
import ModuleGraph.Proofs.Walk.Settling

/-! What stands in a list that is made anew, whatever the lists are that it takes over. Nothing
comes in but what the recorded files below the root are known to need. All of that comes in if no
list taken over marks a file as entered without what the file needs. -/

namespace ModuleGraph
namespace PostOrder

open Relation

variable {o o' o'' : PostOrder} {file : Path} {dependencies : Table Path (List Path)}
  {known : Path → List Text} {fuel : ℕ}

/-- From `o` to `o'` some files have been entered, and exactly these have been left. -/
structure Progress (o o' : PostOrder) : Prop where
  entered : ∀ a ∈ o.entered, a ∈ o'.entered
  left : ∀ a ∈ o.left, a ∈ o'.left
  new : ∀ a ∈ o'.entered, a ∈ o.entered ∨ a ∈ o'.left
  listed : ∀ a ∈ o'.left, a ∈ o.left ∨ a ∈ o'.entered

namespace Progress

theorem refl (o : PostOrder) : Progress o o :=
  ⟨fun _ => id, fun _ => id, fun _ => Or.inl, fun _ => Or.inl⟩

theorem trans (h : Progress o o') (h' : Progress o' o'') : Progress o o'' := by
  refine ⟨fun a ha => h'.entered a (h.entered a ha), fun a ha => h'.left a (h.left a ha),
    fun a ha => ?_, fun a ha => ?_⟩
  · rcases h'.new a ha with ha | ha
    · exact (h.new a ha).imp_right (h'.left a)
    · exact Or.inr ha
  · rcases h'.listed a ha with ha | ha
    · exact (h.listed a ha).imp_right (h'.entered a)
    · exact Or.inr ha

theorem foldl {f : PostOrder → Path → PostOrder} (hf : ∀ o a, Progress o (f o a))
    (files : List Path) (o : PostOrder) : Progress o (files.foldl f o) := by
  induction files generalizing o with
  | nil => exact refl o
  | cons file rest ih => exact (hf o file).trans (ih _)

theorem take (o : PostOrder) (name : Path) : Progress o (take o name) := by
  unfold PostOrder.take
  split
  · exact refl o
  · refine ⟨fun a => List.mem_cons_of_mem _, fun a => List.mem_append_left _, fun a ha => ?_,
      fun a ha => ?_⟩
    · rcases List.mem_cons.mp ha with rfl | ha
      · exact Or.inr (List.mem_append_right _ List.mem_cons_self)
      · exact Or.inl ha
    · rcases List.mem_append.mp ha with ha | ha
      · exact Or.inl ha
      · exact Or.inr (List.mem_singleton.mp ha ▸ List.mem_cons_self)

theorem enter (h : Progress ⟨file :: o.entered, o.left⟩ o') :
    Progress o ⟨o'.entered, o'.left ++ [file]⟩ := by
  refine ⟨fun a ha => h.entered a (List.mem_cons_of_mem _ ha),
    fun a ha => List.mem_append_left _ (h.left a ha), fun a ha => ?_, fun a ha => ?_⟩
  · rcases h.new a ha with ha | ha
    · rcases List.mem_cons.mp ha with rfl | ha
      · exact Or.inr (List.mem_append_right _ List.mem_cons_self)
      · exact Or.inl ha
    · exact Or.inr (List.mem_append_left _ ha)
  · rcases List.mem_append.mp ha with ha | ha
    · exact h.listed a ha
    · exact Or.inr (List.mem_singleton.mp ha ▸ h.entered file List.mem_cons_self)

end Progress

theorem visit_succ (hvisit : ∀ o d, Progress o (visit dependencies known fuel o d))
    (o : PostOrder) (file : Path) : ∃ o', Progress ⟨file :: o.entered, o.left⟩ o' ∧
      visit dependencies known (fuel + 1) o file = ⟨o'.entered, o'.left ++ [file]⟩ := by
  cases hdeps : dependencies.get? file with
  | some deps =>
    refine ⟨_, Progress.foldl (fun o d => ?_) deps _, visit_recorded hdeps fuel o⟩
    split
    · exact .refl o
    · exact hvisit o d
  | none =>
    refine ⟨_, Progress.foldl Progress.take (known file) _, ?_⟩
    simp only [visit, hdeps]

theorem visit_progress (fuel : ℕ) (o : PostOrder) (file : Path) :
    Progress o (visit dependencies known fuel o file) := by
  induction fuel generalizing o file with
  | zero => exact .refl o
  | succ fuel ih =>
    obtain ⟨o', hprogress, hvisit⟩ := visit_succ ih o file
    rw [hvisit]
    exact hprogress.enter

section Needs

variable {led : Set Path} {root : Path} {files : List Path}

def needs (dependencies : Table Path (List Path)) (known : Path → List Text) (file : Path) :
    List Path :=
  (dependencies.get? file).getD (known file)

def Leads (dependencies : Table Path (List Path)) : Path → Path → Prop :=
  ReflTransGen fun u v => ∃ deps, dependencies.get? u = some deps ∧ v ∈ deps

def Below (dependencies : Table Path (List Path)) (known : Path → List Text) (files : List Path)
    (o o' : PostOrder) : Prop :=
  ∀ a ∈ o'.entered, a ∈ o.entered ∨ ∃ file ∈ files, ∃ u, Leads dependencies file u ∧
    (a = u ∨ a ∈ needs dependencies known u)

theorem foldl_below (hvisit : ∀ o d, Below dependencies known [d] o
    (visit dependencies known fuel o d)) (files : List Path) (o : PostOrder) :
    Below dependencies known files o (files.foldl (fun (o : PostOrder) d =>
      if d ∈ o.entered then o else visit dependencies known fuel o d) o) := by
  induction files generalizing o with
  | nil => exact fun a => Or.inl
  | cons file rest ih =>
    intro a ha
    rcases ih _ a ha with ha | ⟨d, hd, u, hu⟩
    · beta_reduce at ha
      split at ha
      · exact Or.inl ha
      · refine (hvisit o file a ha).imp_right ?_
        rintro ⟨d, hd, u, hu⟩
        exact ⟨d, List.mem_singleton.mp hd ▸ List.mem_cons_self, u, hu⟩
    · exact Or.inr ⟨d, List.mem_cons_of_mem _ hd, u, hu⟩

theorem entered_foldl_take (files : List Path) (o : PostOrder) (a : Path) :
    a ∈ (files.foldl take o).entered ↔ a ∈ o.entered ∨ a ∈ files := by
  induction files generalizing o with
  | nil => simp
  | cons file rest ih =>
    have htake : ∀ a, a ∈ (take o file).entered ↔ a ∈ o.entered ∨ a = file := by
      intro a
      unfold take
      split
      · next hmem => exact ⟨Or.inl, fun h => h.elim id fun h => h ▸ hmem⟩
      · rw [List.mem_cons, or_comm]
    rw [List.foldl_cons, ih, htake, List.mem_cons, or_assoc]

theorem visit_below (fuel : ℕ) (o : PostOrder) (file : Path) :
    Below dependencies known [file] o (visit dependencies known fuel o file) := by
  induction fuel generalizing o file with
  | zero => exact fun a => Or.inl
  | succ fuel ih =>
    intro a ha
    cases hdeps : dependencies.get? file with
    | some deps =>
      rw [visit_recorded hdeps] at ha
      rcases foldl_below ih deps _ a ha with ha | ⟨d, hd, u, hto, hu⟩
      · exact (List.mem_cons.mp ha).symm.imp_right fun h =>
          ⟨file, List.mem_singleton_self _, file, .refl, Or.inl h⟩
      · exact Or.inr ⟨file, List.mem_singleton_self _, u, .head ⟨deps, hdeps, hd⟩ hto, hu⟩
    | none =>
      simp only [visit, hdeps, entered_foldl_take, List.mem_cons] at ha
      have hneeds : needs dependencies known file = known file := by rw [needs, hdeps]; rfl
      rcases ha with (ha | ha) | ha
      · exact Or.inr ⟨file, List.mem_singleton_self _, file, .refl, Or.inl ha⟩
      · exact Or.inl ha
      · exact Or.inr ⟨file, List.mem_singleton_self _, file, .refl, Or.inr (hneeds ▸ ha)⟩

/-- From `o` to `o'`, nothing is entered without what it needs. -/
structure Enters (led : Set Path) (dependencies : Table Path (List Path))
    (known : Path → List Text) (o o' : PostOrder) : Prop where
  entered : ∀ a ∈ o.entered, a ∈ o'.entered
  enough : ∀ u ∈ led, u ∈ o'.entered → u ∉ o.entered →
    ∀ a ∈ needs dependencies known u, a ∈ o'.entered

theorem Enters.trans (h : Enters led dependencies known o o')
    (h' : Enters led dependencies known o' o'') : Enters led dependencies known o o'' := by
  refine ⟨fun a ha => h'.entered a (h.entered a ha), fun u hu hentered hnew a ha => ?_⟩
  by_cases hu' : u ∈ o'.entered
  · exact h'.entered a (h.enough u hu hu' hnew a ha)
  · exact h'.enough u hu hentered hu' a ha

/-- The names of a result that is taken over mark none of the files that the recorded dependencies
lead to, but the root, without what it needs. -/
structure Complete (led : Set Path) (root : Path) (dependencies : Table Path (List Path))
    (known : Path → List Text) : Prop where
  recorded : ∀ u ∈ led, ∀ deps, dependencies.get? u = some deps → ∀ d ∈ deps, d ∈ led
  taken : ∀ k ∈ led, dependencies.get? k = none → ∀ i ∈ known k, i ∈ led → i ≠ root →
    ∀ a ∈ needs dependencies known i, a ∈ known k

theorem foldl_enters
    (hvisit : ∀ o d, d ∈ led → d ∉ o.entered → root ∈ o.entered →
      (remaining dependencies o).card < fuel →
      Enters led dependencies known o (visit dependencies known fuel o d) ∧
        d ∈ (visit dependencies known fuel o d).entered)
    (hfiles : ∀ d ∈ files, d ∈ led) (hroot : root ∈ o.entered)
    (hfuel : (remaining dependencies o).card < fuel) :
    let o' := files.foldl (fun (o : PostOrder) d =>
      if d ∈ o.entered then o else visit dependencies known fuel o d) o
    Enters led dependencies known o o' ∧ ∀ d ∈ files, d ∈ o'.entered := by
  induction files generalizing o with
  | nil => exact ⟨⟨fun a => id, fun u _ hu hnew => absurd hu hnew⟩, by simp⟩
  | cons file rest ih =>
    obtain ⟨hfile, hrest⟩ := List.forall_mem_cons.mp hfiles
    have hstep : ∃ o₁, (if file ∈ o.entered then o else visit dependencies known fuel o file) = o₁ ∧
        Enters led dependencies known o o₁ ∧ file ∈ o₁.entered := by
      split
      · next hentered => exact ⟨o, rfl, ⟨fun a => id, fun u _ hu hnew => absurd hu hnew⟩, hentered⟩
      · next hnew => exact ⟨_, rfl, hvisit o file hfile hnew hroot hfuel⟩
    obtain ⟨o₁, heq, henters, hentered⟩ := hstep
    have hfuel₁ :=
      (Finset.card_le_card (remaining_subset dependencies henters.entered)).trans_lt hfuel
    obtain ⟨henters', hall⟩ := ih (o := o₁) hrest (henters.entered root hroot) hfuel₁
    simp only [List.foldl_cons, heq]
    exact ⟨henters.trans henters',
      List.forall_mem_cons.mpr ⟨henters'.entered file hentered, hall⟩⟩

theorem visit_enters (h : Complete led root dependencies known) (fuel : ℕ) (o : PostOrder)
    (file : Path) (hfile : file ∈ led) (hnew : file ∉ o.entered) (hroot : root ∈ o.entered)
    (hfuel : (remaining dependencies o).card < fuel) :
    Enters led dependencies known o (visit dependencies known fuel o file) ∧
      file ∈ (visit dependencies known fuel o file).entered := by
  induction fuel generalizing o file with
  | zero => omega
  | succ fuel ih =>
    cases hdeps : dependencies.get? file with
    | some deps =>
      have hcard := card_remaining_cons (Table.mem_keys hdeps) hnew
      -- each step down enters one more of the files recorded, so the fuel lasts
      obtain ⟨henters, hall⟩ := foldl_enters (o := ⟨file :: o.entered, o.left⟩) ih
        (h.recorded file hfile deps hdeps) (List.mem_cons_of_mem _ hroot) (by omega)
      rw [visit_recorded hdeps]
      refine ⟨⟨fun a ha => henters.entered a (List.mem_cons_of_mem _ ha), ?_⟩,
        henters.entered file List.mem_cons_self⟩
      intro u hu hentered hnot a ha
      by_cases huf : u = file
      · subst huf
        rw [needs, hdeps] at ha
        exact hall a ha
      · exact henters.enough u hu hentered (by simp [huf, hnot]) a ha
    | none =>
      have hneeds : needs dependencies known file = known file := by rw [needs, hdeps]; rfl
      have hentered : ∀ a, a ∈ (visit dependencies known (fuel + 1) o file).entered ↔
          (a = file ∨ a ∈ o.entered) ∨ a ∈ known file := by
        intro a
        simp only [visit, hdeps, entered_foldl_take, List.mem_cons]
      refine ⟨⟨fun a ha => (hentered a).mpr (Or.inl (Or.inr ha)), ?_⟩,
        (hentered file).mpr (Or.inl (Or.inl rfl))⟩
      intro u hu huentered hnot a ha
      rw [hentered]
      right
      -- what is taken over is entered without a visit: here the list has to be complete
      rcases (hentered u).mp huentered with (rfl | hold) | htaken
      · exact hneeds ▸ ha
      · exact absurd hold hnot
      · exact h.taken file hfile hdeps u htaken hu (fun hu => hnot (hu ▸ hroot)) a ha

theorem Enters.of_leads
    (h : Enters {u | Leads dependencies root u} dependencies known ⟨[root], []⟩ o)
    (hroot : ∀ a ∈ needs dependencies known root, a ∈ o.entered) {u : Path}
    (hto : Leads dependencies root u) :
    u ∈ o.entered ∧ ∀ a ∈ needs dependencies known u, a ∈ o.entered := by
  have hneeds : ∀ u, Leads dependencies root u → u ∈ o.entered →
      ∀ a ∈ needs dependencies known u, a ∈ o.entered := by
    intro u hto hentered
    by_cases huroot : u = root
    · rwa [huroot]
    · exact h.enough u hto hentered (by simpa using huroot)
  have hentered : u ∈ o.entered := by
    induction hto with
    | refl => exact h.entered root List.mem_cons_self
    | @tail u v hto hedge ih =>
      obtain ⟨deps, hdeps, hv⟩ := hedge
      refine hneeds u hto ih v ?_
      rw [needs, hdeps]
      exact hv
  exact ⟨hentered, hneeds u hto hentered⟩

theorem mem_below_iff_entered {a : Path} : a ∈ below dependencies known root ↔
    a ∈ (visit dependencies known (dependencies.length + 1) start root).entered := by
  have hprogress : Progress start (visit dependencies known (dependencies.length + 1) start root) :=
    visit_progress _ start root
  exact ⟨fun ha => (hprogress.listed a ha).resolve_left List.not_mem_nil,
    fun ha => (hprogress.new a ha).resolve_left List.not_mem_nil⟩

theorem exists_of_mem_below {a : Path} (h : a ∈ below dependencies known root) :
    ∃ u, Leads dependencies root u ∧ (a = u ∨ a ∈ needs dependencies known u) := by
  rw [mem_below_iff_entered] at h
  obtain ⟨file, hfile, hneeded⟩ := (visit_below _ start root a h).resolve_left List.not_mem_nil
  exact List.mem_singleton.mp hfile ▸ hneeded

theorem mem_below_of_leads (hroot : root ∈ dependencies.keys)
    (h : Complete {u | Leads dependencies root u} root dependencies known) {u a : Path}
    (hto : Leads dependencies root u) (ha : a = u ∨ a ∈ needs dependencies known u) :
    a ∈ below dependencies known root := by
  obtain ⟨deps, hdeps⟩ := Table.exists_of_mem_keys hroot
  have hcard : (remaining dependencies ⟨[root], []⟩).card < dependencies.length := by
    have hnew : root ∉ start.entered := List.not_mem_nil
    refine (card_remaining_cons hroot hnew).trans_le ?_
    refine (Finset.card_le_card Finset.sdiff_subset).trans ?_
    simpa [Table.keys] using dependencies.keys.toFinset_card_le
  obtain ⟨henters, hall⟩ := foldl_enters (o := ⟨[root], []⟩) (visit_enters h dependencies.length)
    (fun d hd => ReflTransGen.single ⟨deps, hdeps, hd⟩) List.mem_cons_self hcard
  have hneeded : needs dependencies known root = deps := by
    rw [needs, hdeps]
    rfl
  obtain ⟨hentered, hneeds⟩ := henters.of_leads (hneeded ▸ hall) hto
  rw [mem_below_iff_entered, visit_recorded hdeps]
  exact ha.elim (fun hau => hau ▸ hentered) (hneeds a)

end Needs

end PostOrder
end ModuleGraph
