import Mathlib.Data.Finset.Card
import Mathlib.Data.Finset.SDiff
import ModuleGraph.Proofs.DepthFirst.Splice
import ModuleGraph.Walk.Shape

/-! Lists that are made anew from recorded dependencies. A post-order that follows the recorded
files, and takes over the lists that the others have, is the post-order of the whole graph. -/

namespace ModuleGraph
namespace PostOrder

open DepthFirst

variable {next : Path → List Path} {done : Set Path} {dependencies : Table Path (List Path)}
  {known : Path → List Text}

/-- The dependencies of some files have been recorded; the files that were `done` before have their
post-orders, and a file recorded leads nowhere else. -/
structure Recorded (next : Path → List Path) (done : Set Path)
    (dependencies : Table Path (List Path)) (known : Path → List Text) : Prop where
  closed : Closed next done
  known : ∀ f ∈ done, PostOrderFrom next f (known f)
  new : ∀ f ∈ done, dependencies.get? f = none
  next : ∀ f deps, dependencies.get? f = some deps → next f = deps
  within : ∀ f deps, dependencies.get? f = some deps →
    ∀ d ∈ deps, d ∈ done ∨ d ∈ dependencies.keys

/-- The post-order so far, seen as a search: it may go on as long as what it has entered of the
files done is closed. -/
structure Continues (next : Path → List Path) (done : Set Path) (o : PostOrder)
    (starts : List Path) (o' : PostOrder) (pre post : List Path) : Prop where
  search : DepthFirst next {a | a ∈ o.entered} starts pre post
  left : o'.left = o.left ++ post
  entered : ∀ a, a ∈ o'.entered ↔ a ∈ o.entered ∨ a ∈ pre

theorem Continues.setOf_entered {o o' : PostOrder} {starts pre post : List Path}
    (h : Continues next done o starts o' pre post) :
    {a | a ∈ o'.entered} = {a | a ∈ o.entered} ∪ {a | a ∈ pre} := by
  ext a
  exact h.entered a

theorem filter_not_mem_cons {a : Path} {l : List Path} (h : a ∉ l) (entered : List Path) :
    l.filter (· ∉ a :: entered) = l.filter (· ∉ entered) := by
  apply List.filter_congr
  intro b hb
  have hne : b ≠ a := fun hba => h (hba ▸ hb)
  simp [hne]

theorem foldl_take (o : PostOrder) {names : List Path} (h : names.Nodup) :
    (names.foldl take o).left = o.left ++ names.filter (· ∉ o.entered) ∧
      ∀ a, a ∈ (names.foldl take o).entered ↔ a ∈ o.entered ∨ a ∈ names := by
  induction names generalizing o with
  | nil => simp
  | cons name rest ih =>
    obtain ⟨hnew, hrest⟩ := List.nodup_cons.mp h
    obtain ⟨hleft, hentered⟩ := ih (take o name) hrest
    rw [List.foldl_cons, hleft]
    by_cases hname : name ∈ o.entered
    · have htake : take o name = o := by rw [take, if_pos hname]
      refine ⟨by simp [htake, hname], fun a => ?_⟩
      rw [hentered, htake, List.mem_cons]
      constructor
      · exact fun h => h.imp_right Or.inr
      · rintro (h | rfl | h)
        · exact Or.inl h
        · exact Or.inl hname
        · exact Or.inr h
    · have htake : take o name = ⟨name :: o.entered, o.left ++ [name]⟩ := by
        rw [take, if_neg hname]
      refine ⟨?_, fun a => ?_⟩
      · rw [htake, filter_not_mem_cons hnew, List.filter_cons_of_pos (by simpa using hname),
          List.append_assoc, List.singleton_append]
      · rw [hentered, htake, List.mem_cons, List.mem_cons, or_assoc, or_left_comm]

def remaining (dependencies : Table Path (List Path)) (o : PostOrder) : Finset Path :=
  dependencies.keys.toFinset \ o.entered.toFinset

theorem remaining_subset (dependencies : Table Path (List Path)) {o o' : PostOrder}
    (h : ∀ a ∈ o.entered, a ∈ o'.entered) :
    remaining dependencies o' ⊆ remaining dependencies o := by
  refine Finset.sdiff_subset_sdiff (Finset.Subset.refl _) fun a ha => ?_
  rw [List.mem_toFinset] at ha ⊢
  exact h a ha

theorem card_remaining_cons {o : PostOrder} {file : Path} (hfile : file ∈ dependencies.keys)
    (hnew : file ∉ o.entered) : (remaining dependencies ⟨file :: o.entered, o.left⟩).card <
      (remaining dependencies o).card := by
  apply Finset.card_lt_card
  refine ⟨remaining_subset dependencies fun a ha => List.mem_cons_of_mem _ ha, fun hsub => ?_⟩
  have hmem : file ∈ remaining dependencies o := by
    rw [remaining, Finset.mem_sdiff, List.mem_toFinset, List.mem_toFinset]
    exact ⟨hfile, hnew⟩
  have hout := hsub hmem
  rw [remaining, Finset.mem_sdiff, List.mem_toFinset, List.mem_toFinset] at hout
  exact hout.2 List.mem_cons_self

theorem visit_known (h : Recorded next done dependencies known) {o : PostOrder} {file : Path}
    (hfile : file ∈ done) (hnew : file ∉ o.entered)
    (hclosed : Closed next ({a | a ∈ o.entered} ∩ done)) (fuel : ℕ) : ∃ pre post,
      Continues next done o [file] (visit dependencies known (fuel + 1) o file) pre post := by
  classical
  have hpost := h.known file hfile
  obtain ⟨before, hbefore⟩ := hpost.eq_append
  obtain ⟨hleft, hentered⟩ := foldl_take ⟨file :: o.entered, o.left⟩ hpost.nodup
  obtain ⟨pre, hsearch⟩ := hpost.splice h.closed hfile hclosed
  have hnot : file ∉ before := by
    have := hpost.nodup
    rw [hbefore, List.nodup_append] at this
    exact fun hmem => this.2.2 file hmem file (by simp) rfl
  have hfilter : (known file).filter (· ∉ file :: o.entered) ++ [file] =
      (known file).filter (· ∉ o.entered) := by
    have hself : [file].filter (· ∉ file :: o.entered) = [] := by simp
    have hlast : [file].filter (· ∉ o.entered) = [file] := by simp [hnew]
    rw [hbefore, List.filter_append, List.filter_append, filter_not_mem_cons hnot, hself, hlast,
      List.append_nil]
  refine ⟨pre, (known file).filter (· ∉ o.entered), ⟨?_, ?_, fun a => ?_⟩⟩
  · convert hsearch using 2
    funext a
    exact decide_eq_decide.mpr Iff.rfl
  · simp only [visit, h.new file hfile, hleft, List.append_assoc, hfilter]
  · simp only [visit, h.new file hfile, hentered]
    have hpre : a ∈ pre ↔ a ∈ known file ∧ a ∉ o.entered := by
      rw [← hsearch.mem_post_iff]
      simp
    rw [hpre, List.mem_cons]
    have hself : a = file → a ∈ known file := fun h => h ▸ hpost.mem_self
    grind

theorem visit_recorded {deps : List Path} {file : Path} (h : dependencies.get? file = some deps)
    (fuel : ℕ) (o : PostOrder) : visit dependencies known (fuel + 1) o file =
      let o' := deps.foldl (fun (o : PostOrder) d =>
        if d ∈ o.entered then o else visit dependencies known fuel o d)
        ⟨file :: o.entered, o.left⟩
      ⟨o'.entered, o'.left ++ [file]⟩ := by
  simp only [visit, h]

theorem foldl_continues {fuel : ℕ} (h : Recorded next done dependencies known)
    (hvisit : ∀ o file, file ∈ done ∨ file ∈ dependencies.keys → file ∉ o.entered →
      Closed next ({a | a ∈ o.entered} ∩ done) → (remaining dependencies o).card < fuel →
      ∃ pre post, Continues next done o [file] (visit dependencies known fuel o file) pre post)
    {files : List Path} (hfiles : ∀ f ∈ files, f ∈ done ∨ f ∈ dependencies.keys) {o : PostOrder}
    (hclosed : Closed next ({a | a ∈ o.entered} ∩ done))
    (hfuel : (remaining dependencies o).card < fuel) : ∃ pre post,
      Continues next done o files (files.foldl (fun (o : PostOrder) d =>
        if d ∈ o.entered then o else visit dependencies known fuel o d) o) pre post := by
  induction files generalizing o with
  | nil => exact ⟨[], [], .done _, by simp, by simp⟩
  | cons file rest ih =>
    obtain ⟨hfile, hrest⟩ := List.forall_mem_cons.mp hfiles
    by_cases hentered : file ∈ o.entered
    · obtain ⟨pre, post, hcontinues⟩ := ih hrest hclosed hfuel
      rw [List.foldl_cons, if_pos hentered]
      exact ⟨pre, post, .skip hentered hcontinues.search, hcontinues.left, hcontinues.entered⟩
    · obtain ⟨pre₁, post₁, h₁⟩ := hvisit o file hfile hentered hclosed hfuel
      have hclosed₁ : Closed next
          ({a | a ∈ (visit dependencies known fuel o file).entered} ∩ done) := by
        rw [h₁.setOf_entered]
        exact h₁.search.closed_entered h.closed hclosed
      have hsubset := remaining_subset dependencies fun a ha =>
        (h₁.entered a).mpr (Or.inl ha)
      obtain ⟨pre₂, post₂, h₂⟩ :=
        ih hrest hclosed₁ ((Finset.card_le_card hsubset).trans_lt hfuel)
      rw [List.foldl_cons, if_neg hentered]
      refine ⟨pre₁ ++ pre₂, post₁ ++ post₂, ?_, ?_, fun a => ?_⟩
      · have hsearch₂ := h₂.search
        rw [h₁.setOf_entered] at hsearch₂
        exact h₁.search.append hsearch₂
      · rw [h₂.left, h₁.left, List.append_assoc]
      · rw [h₂.entered, h₁.entered, List.mem_append, or_assoc]

theorem visit_continues (h : Recorded next done dependencies known) (fuel : ℕ) (o : PostOrder)
    (file : Path) (hfile : file ∈ done ∨ file ∈ dependencies.keys) (hnew : file ∉ o.entered)
    (hclosed : Closed next ({a | a ∈ o.entered} ∩ done))
    (hfuel : (remaining dependencies o).card < fuel) :
    ∃ pre post, Continues next done o [file] (visit dependencies known fuel o file) pre post := by
  -- each step down enters one more of the files recorded
  induction fuel generalizing o file with
  | zero => omega
  | succ fuel ih =>
    by_cases hdone : file ∈ done
    · exact visit_known h hdone hnew hclosed fuel
    · have hkey := hfile.resolve_left hdone
      cases hdeps : dependencies.get? file with
      | none => exact absurd hkey (Table.get?_eq_none_iff.mp hdeps)
      | some deps =>
        have hinsert : {a | a ∈ file :: o.entered} = insert file {a | a ∈ o.entered} := by
          ext a
          simp
        have hcard := card_remaining_cons hkey hnew
        obtain ⟨pre, post, hbelow⟩ := foldl_continues h ih (h.within file deps hdeps)
          (o := ⟨file :: o.entered, o.left⟩)
          (by rw [hinsert, Set.insert_inter_of_notMem hdone]; exact hclosed) (by omega)
        have hsearch := hbelow.search
        rw [hinsert, ← h.next file deps hdeps] at hsearch
        refine ⟨file :: pre, post ++ [file], ?_, ?_, fun a => ?_⟩
        · have hnew' : file ∉ {a | a ∈ o.entered} := hnew
          have henter := DepthFirst.enter hnew' hsearch (.done _)
          rwa [List.append_nil] at henter
        · rw [visit_recorded hdeps]
          simp only [hbelow.left, List.append_assoc]
        · rw [visit_recorded hdeps]
          simp only [hbelow.entered, List.mem_cons]
          grind

theorem postOrderFrom_below (h : Recorded next done dependencies known) {file : Path}
    (hfile : file ∈ dependencies.keys) :
    PostOrderFrom next file (below dependencies known file) := by
  have hclosed : Closed next ({a | a ∈ start.entered} ∩ done) := by simp [start, Closed]
  have hcard : (remaining dependencies start).card < dependencies.length + 1 := by
    have hle : dependencies.keys.toFinset.card ≤ dependencies.length := by
      simpa [Table.keys] using dependencies.keys.toFinset_card_le
    exact Nat.lt_succ_of_le ((Finset.card_le_card Finset.sdiff_subset).trans hle)
  obtain ⟨pre, post, hvisit⟩ := visit_continues h _ start file (Or.inr hfile) (by simp [start])
    hclosed hcard
  have hempty : {a | a ∈ start.entered} = (∅ : Set Path) := by simp [start]
  have hleft : below dependencies known file = post := by
    rw [below, hvisit.left, start, List.nil_append]
  rw [hleft]
  exact ⟨pre, hempty ▸ hvisit.search⟩

end PostOrder

namespace Shape

open DepthFirst PostOrder

def settle (s : Shape) (g : Graph) (stale : List Path) (dependencies : Table Path (List Path))
    (results : Table Path Ref) : Table Path Ref :=
  match s with
  | .tree => results
  | .list => stale.foldl (fun results file =>
      let known other := ((results.get? other).map g.namesOf).getD []
      results.set file (.list (PostOrder.below dependencies known file))) results

variable {next : Path → List Path} {done : Set Path} {dependencies : Table Path (List Path)}
  {g : Graph} {results : Table Path Ref}

theorem get?_settle_of_not_mem {stale : List Path} {f : Path} (hf : f ∉ stale) :
    (Shape.list.settle g stale dependencies results).get? f = results.get? f := by
  induction stale generalizing results with
  | nil => rfl
  | cons file rest ih =>
    rw [List.mem_cons, not_or] at hf
    obtain ⟨hne, hrest⟩ := hf
    refine (ih hrest).trans ?_
    rw [Table.get?_set, if_neg hne]

theorem get?_settle_of_mem (g : Graph) (dependencies : Table Path (List Path))
    (results : Table Path Ref) {stale : List Path} {f : Path} (hf : f ∈ stale) :
    ∃ others : Table Path Ref, (∀ d, d ∉ stale → others.get? d = results.get? d) ∧
      (Shape.list.settle g stale dependencies results).get? f = some (.list (below dependencies
        (fun other => ((others.get? other).map g.namesOf).getD []) f)) := by
  induction stale generalizing results with
  | nil => cases hf
  | cons file rest ih =>
    by_cases hlater : f ∈ rest
    · obtain ⟨others, hothers, hsettle⟩ := ih _ hlater
      refine ⟨others, fun d hd => ?_, hsettle⟩
      rw [List.mem_cons, not_or] at hd
      rw [hothers d hd.2, Table.get?_set, if_neg hd.1]
    · obtain rfl := (List.mem_cons.mp hf).resolve_right hlater
      refine ⟨results, fun _ _ => rfl, (get?_settle_of_not_mem hlater).trans ?_⟩
      rw [Table.get?_set, if_pos rfl]

theorem postOrder_settle {stale : List Path} (hclosed : Closed next done)
    (hfull : ∀ f ∈ done, ∃ post, PostOrderFrom next f post ∧ results.get? f = some (.list post))
    (hnew : ∀ f ∈ done, dependencies.get? f = none)
    (hnext : ∀ f deps, dependencies.get? f = some deps → next f = deps)
    (hwithin : ∀ f deps, dependencies.get? f = some deps →
      ∀ d ∈ deps, d ∈ done ∨ d ∈ dependencies.keys)
    (hstale : ∀ f ∈ stale, f ∈ dependencies.keys) {f : Path} (hf : f ∈ stale) :
    ∃ post, PostOrderFrom next f post ∧
      (Shape.list.settle g stale dependencies results).get? f = some (.list post) := by
  obtain ⟨others, hothers, hsettle⟩ := get?_settle_of_mem g dependencies results hf
  have hrecorded : Recorded next done dependencies
      fun other => ((others.get? other).map g.namesOf).getD [] := by
    refine ⟨hclosed, fun d hd => ?_, hnew, hnext, hwithin⟩
    have hkept : d ∉ stale := fun h => Table.get?_eq_none_iff.mp (hnew d hd) (hstale d h)
    obtain ⟨post, hpost, hresult⟩ := hfull d hd
    rw [hothers d hkept, hresult]
    exact hpost
  exact ⟨_, postOrderFrom_below hrecorded (hstale f hf), hsettle⟩

end Shape
end ModuleGraph
