import ModuleGraph.Path
import ModuleGraph.Table
import ModuleGraph.Text.Quoted

/-! The visited cache: for each file that a walk has reached, how far it has come and its result.
A file goes from unseen to in progress and from there to done, and never back. -/

namespace ModuleGraph

inductive Stage where
  | unseen
  | inProgress
  | done
  deriving DecidableEq, Repr

def Stage.name : Stage → String
  | .unseen => "unseen"
  | .inProgress => "in_progress"
  | .done => "done"

/-- The results of the files reached so far, and how far each of them has come. The two tables are
kept apart: that they have the same keys is for the walk to see to. -/
structure Visited (α : Type) where
  results : Table Path α
  stages : Table Path Stage

namespace Visited

variable {α : Type}

inductive Fault where
  | noEntry (file : Path)
  | alreadyBegun (file : Path) (stage : Stage)
  | notInProgress (file : Path) (stage : Stage)
  | missing (file : Path)
  deriving DecidableEq, Repr

def Fault.message : Fault → String
  | .noEntry file => s!"no cache entry for unseen path: {Text.string file}"
  | .alreadyBegun file stage => s!"cannot begin {Text.string file}: already {stage.name}"
  | .notInProgress file stage => s!"cannot finish {Text.string file}: state is {stage.name}"
  | .missing file => (Text.quoted file).string

def ofResults (results : Table Path α) : Visited α :=
  ⟨results, results.map fun (file, _) => (file, .done)⟩

def size (v : Visited α) : Nat := v.results.length

def stage (v : Visited α) (file : Path) : Stage := (v.stages.get? file).getD .unseen

def result (v : Visited α) (file : Path) : Except Fault α :=
  match v.results.get? file with
  | none => .error (.missing file)
  | some r => .ok r

def lookup (v : Visited α) (file : Path) : Except Fault α :=
  if v.stage file = .unseen then .error (.noEntry file) else v.result file

def put (v : Visited α) (file : Path) (stage : Stage) (result : α) : Visited α :=
  ⟨v.results.set file result, v.stages.set file stage⟩

def begin_ (v : Visited α) (file : Path) (provisional : α) : Except Fault (Visited α) :=
  match v.stage file with
  | .unseen => .ok (v.put file .inProgress provisional)
  | s => .error (.alreadyBegun file s)

def finish (v : Visited α) (file : Path) (result : α) : Except Fault (Visited α) :=
  match v.stage file with
  | .inProgress => .ok (v.put file .done result)
  | s => .error (.notInProgress file s)

def revise (v : Visited α) (file : Path) (result : α) : Visited α :=
  if v.results.contains file then { v with results := v.results.set file result } else v

structure Paired (v : Visited α) : Prop where
  keys : v.stages.keys = v.results.keys
  begun : ∀ m ∈ v.stages, m.2 ≠ .unseen

theorem stage_ofResults (results : Table Path α) (file : Path) :
    (ofResults results).stage file = if results.contains file then .done else .unseen := by
  unfold ofResults stage Table.contains
  rw [Table.get?_map_snd (fun _ : α => Stage.done)]
  cases results.get? file <;> rfl

theorem stage_put (v : Visited α) (file : Path) (stage : Stage) (result : α) (other : Path) :
    (v.put file stage result).stage other = if other = file then stage else v.stage other := by
  simp only [put, Visited.stage, Table.get?_set]
  split <;> rfl

@[simp] theorem results_put (v : Visited α) (file : Path) (stage : Stage) (result : α) :
    (v.put file stage result).results = v.results.set file result := rfl

theorem put_put (v : Visited α) (file : Path) (stage stage' : Stage) (result result' : α) :
    (v.put file stage result).put file stage' result' = v.put file stage' result' := by
  simp only [put, Table.set_set]

theorem result_eq_ok_iff {v : Visited α} {file : Path} {r : α} :
    v.result file = .ok r ↔ v.results.get? file = some r := by
  unfold Visited.result
  cases v.results.get? file <;> simp

theorem lookup_of_result {v : Visited α} {file : Path} {result : α} (h : v.stage file ≠ .unseen)
    (hr : v.results.get? file = some result) : v.lookup file = .ok result := by
  rw [lookup, if_neg h, result_eq_ok_iff.mpr hr]

theorem begin_of_unseen {v : Visited α} {file : Path} (h : v.stage file = .unseen) (result : α) :
    v.begin_ file result = .ok (v.put file .inProgress result) := by
  simp only [begin_, h]

theorem finish_of_inProgress {v : Visited α} {file : Path} (h : v.stage file = .inProgress)
    (result : α) : v.finish file result = .ok (v.put file .done result) := by
  simp only [finish, h]

theorem paired_ofResults (results : Table Path α) : (ofResults results).Paired where
  keys := by simp [ofResults, Table.keys, Function.comp_def]
  begun m hm := by
    obtain ⟨⟨file, r⟩, -, rfl⟩ := List.mem_map.mp hm
    simp

namespace Paired

variable {v : Visited α} {file : Path}

theorem put (h : v.Paired) {stage : Stage} (hstage : stage ≠ .unseen) (result : α) :
    (v.put file stage result).Paired where
  keys := by
    rw [Visited.put, Table.keys_set, Table.keys_set, h.keys]
  begun m hm := by
    rcases Table.mem_set hm with rfl | hm
    · exact hstage
    · exact h.begun m hm

theorem seen_iff (h : v.Paired) : v.stage file ≠ .unseen ↔ file ∈ v.results.keys := by
  rw [Visited.stage, ← h.keys]
  cases hstage : v.stages.get? file with
  | none => simp [Table.get?_eq_none_iff.mp hstage]
  | some stage => simpa [Table.mem_keys hstage] using h.begun _ (Table.mem_of_get? hstage)

theorem get?_of_unseen (h : v.Paired) (hunseen : v.stage file = .unseen) :
    v.results.get? file = none :=
  Table.get?_eq_none_iff.mpr fun hmem => h.seen_iff.mpr hmem hunseen

theorem exists_result (h : v.Paired) (hseen : v.stage file ≠ .unseen) :
    ∃ result, v.results.get? file = some result :=
  Table.exists_of_mem_keys (h.seen_iff.mp hseen)

theorem revise_of_inProgress (h : v.Paired) (hopen : v.stage file = .inProgress) (result : α) :
    v.revise file result = v.put file .inProgress result := by
  have hseen : v.stage file ≠ .unseen := by rw [hopen]; decide
  obtain ⟨r, hr⟩ := h.exists_result hseen
  have hstage : v.stages.get? file = some .inProgress := by
    unfold Visited.stage at hopen
    cases hs : v.stages.get? file with
    | none => simp [hs] at hopen
    | some stage => simpa [hs] using hopen
  simp [revise, Visited.put, Table.contains, hr, Table.set_eq_self hstage]

theorem eq_of_results {v' : Visited α} (h : v.Paired) (h' : v'.Paired)
    (hnodup : v.results.keys.Nodup) (hresults : v'.results = v.results)
    (hstage : ∀ file, v'.stage file = v.stage file) : v' = v := by
  have hstages : v'.stages = v.stages := by
    refine Table.eq_of_get? (h.keys ▸ hnodup) (by rw [h'.keys, h.keys, hresults]) fun file hfile => ?_
    obtain ⟨stage, hs⟩ := Table.exists_of_mem_keys hfile
    have hfile' : file ∈ v'.stages.keys := by rwa [h'.keys, hresults, ← h.keys]
    obtain ⟨stage', hs'⟩ := Table.exists_of_mem_keys hfile'
    have hsame := hstage file
    rw [Visited.stage, Visited.stage, hs, hs'] at hsame
    rw [hs, hs']
    exact congrArg some hsame
  obtain ⟨results', stages'⟩ := v'
  obtain rfl : results' = v.results := hresults
  obtain rfl : stages' = v.stages := hstages
  rfl

end Paired
end Visited
end ModuleGraph
