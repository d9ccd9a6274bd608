import Mathlib.Data.Set.Defs
import Mathlib.Logic.Relation
import ModuleGraph.Walk.Traverse

/-! The graph that a walk goes along, read off the collaborators without any state: what a file's
specifiers lead to, as far as the filter lets it stand. Asking for the dependencies of a file gives
exactly these and leaves a trace in the state. -/

namespace ModuleGraph.Walk

open Relation

def Collaborators.Decisive (c : Collaborators) : Prop :=
  ∀ accept, c.accept = some accept → ∀ path file, ∃ verdict, accept path file = .ok verdict

/-- `c'` is `c` with a filter that gives the same verdicts and never breaks off the walk. -/
structure Collaborators.Decides (c c' : Collaborators) : Prop where
  same : c' = { c with accept := c'.accept }
  unfiltered : c.accept = none → c'.accept = none
  filtered : ∀ accept, c.accept = some accept → ∃ accept', c'.accept = some accept' ∧
    ∀ path file verdict, accept path file = .ok verdict → accept' path file = .ok verdict
  decisive : c'.Decisive

theorem Collaborators.Decisive.decides {c : Collaborators} (h : c.Decisive) : c.Decides c :=
  ⟨rfl, id, fun accept haccept => ⟨accept, haccept, fun _ _ _ => id⟩, h⟩

namespace Collaborators

variable (c : Collaborators)

def specifiers (file : Path) : List Text :=
  match (c.extract file).value with
  | .ok specifiers => specifiers
  | .error _ => []

def resolution? (file : Path) (specifier : Text) : Option Path :=
  match (c.resolve specifier file).value with
  | .ok path => path
  | .error _ => none

def target? (file : Path) (specifier : Text) : Option Path :=
  (((c.resolution? file specifier).filter fun p => !p.isEmpty).map c.canonical).filter c.isPresent

def accepts (path file : Path) : Bool :=
  match c.accept with
  | none => true
  | some accept =>
    match accept path file with
    | .ok verdict => verdict
    | .error _ => false

def candidates (file : Path) : List Path :=
  distinct ((c.specifiers file).filterMap (c.target? file))

def dependencies (file : Path) : List Path := (c.candidates file).filter (c.accepts · file)

def missing (file : Path) : List Text :=
  (c.specifiers file).filter fun specifier => (c.target? file specifier).isNone

def asked (file : Path) : List (Path × Path) :=
  match c.accept with
  | none => []
  | some _ => (c.candidates file).map fun path => (path, file)

/-- One specifier of `u` leads to `v`, which is there, and the filter lets it stand. -/
def Edge (u v : Path) : Prop :=
  ∃ specifier ∈ c.specifiers u, ∃ path, (c.resolve specifier u).value = .ok (some path) ∧
    path ≠ [] ∧ v = c.canonical path ∧ c.isPresent v ∧ c.accepts v u

variable {c}

theorem target?_eq_some_iff {file : Path} {specifier : Text} {d : Path} :
    c.target? file specifier = some d ↔
      ∃ path, (c.resolve specifier file).value = .ok (some path) ∧ path ≠ [] ∧
        c.isPresent (c.canonical path) ∧ d = c.canonical path := by
  have hres : ∀ path, c.resolution? file specifier = some path ↔
      (c.resolve specifier file).value = .ok (some path) := by
    intro path
    unfold resolution?
    cases (c.resolve specifier file).value <;> simp
  simp only [target?, Option.filter_eq_some_iff, Option.map_eq_some_iff, hres]
  constructor
  · rintro ⟨⟨path, ⟨hr, hne⟩, rfl⟩, hp⟩
    exact ⟨path, hr, by simpa using hne, hp, rfl⟩
  · rintro ⟨path, hr, hne, hp, rfl⟩
    exact ⟨⟨path, ⟨hr, by simpa using hne⟩, rfl⟩, hp⟩

theorem mem_dependencies_iff {file d : Path} :
    d ∈ c.dependencies file ↔
      (∃ specifier ∈ c.specifiers file, c.target? file specifier = some d) ∧ c.accepts d file := by
  simp [dependencies, candidates]

theorem nodup_dependencies (file : Path) : (c.dependencies file).Nodup :=
  (nodup_distinct _).filter _

theorem mem_dependencies_iff_edge {u v : Path} : v ∈ c.dependencies u ↔ c.Edge u v := by
  simp only [mem_dependencies_iff, target?_eq_some_iff, Edge]
  constructor
  · rintro ⟨⟨specifier, hs, path, hr, hne, hp, rfl⟩, ha⟩
    exact ⟨specifier, hs, path, hr, hne, rfl, hp, ha⟩
  · rintro ⟨specifier, hs, path, hr, hne, rfl, hp, ha⟩
    exact ⟨⟨specifier, hs, path, hr, hne, hp, rfl⟩, ha⟩

theorem mem_dependencies_eq_edge : (fun u v => v ∈ c.dependencies u) = c.Edge := by
  funext u v
  rw [mem_dependencies_iff_edge]

/-- The collaborators with a filter that rejects what theirs would break off the walk at. -/
def decided (c : Collaborators) : Collaborators :=
  { c with accept := c.accept.map fun _ path file => .ok (c.accepts path file) }

theorem decides_decided (c : Collaborators) : c.Decides c.decided := by
  refine ⟨rfl, fun h => by simp [decided, h], fun accept h => ?_, fun accept h path file => ?_⟩
  · refine ⟨_, by rw [decided, h]; rfl, fun path file verdict hverdict => ?_⟩
    simp [accepts, h, hverdict]
  · obtain ⟨accept', -, rfl⟩ := Option.map_eq_some_iff.mp h
    exact ⟨_, rfl⟩

theorem decided_accepts : c.decided.accepts = c.accepts := by
  funext path file
  cases haccept : c.accept <;> simp [accepts, decided, haccept]

theorem decided_dependencies : c.decided.dependencies = c.dependencies := by
  funext file
  rw [dependencies, decided_accepts]
  rfl

theorem decided_edge : c.decided.Edge = c.Edge := by
  rw [← mem_dependencies_eq_edge, ← mem_dependencies_eq_edge, decided_dependencies]

end Collaborators

end ModuleGraph.Walk
