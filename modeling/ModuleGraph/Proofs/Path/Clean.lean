import ModuleGraph.Proofs.Path.Parent

/-! Clean paths. Behind the slashes with which it begins, an absolute path in normal form has names
only, so that no slash stands at its end, and a path that is spelled so is its own normal form. -/

namespace ModuleGraph

namespace Path

variable {p : Path} {init : List Text} {s last : Text} {twice : Bool}

def unrooted (p : Path) : Path := p.dropWhile (· = '/')

def parts (p : Path) : List Text := if unrooted p = [] then [] else components (unrooted p)

/-- An absolute path with one slash at its beginning, or exactly two, and names behind them. Only
the root ends in a slash. -/
structure Clean (p : Path) : Prop where
  absolute : isAbsolute p = true
  leading : leadingSlashes p ++ unrooted p = p
  named : ∀ c ∈ parts p, IsName c
  ending : p.getLast? = some '/' → unrooted p = []

theorem unrooted_slashes_append (twice : Bool) (hs : isAbsolute s = false) :
    unrooted (slashes twice ++ s) = s := by
  cases s with
  | nil => cases twice <;> rfl
  | cons ch s =>
    have hch : ch ≠ '/' := by simpa [isAbsolute] using hs
    cases twice <;> simp [unrooted, slashes, hch]

theorem isAbsolute_joined_append (hinit : ∀ n ∈ init, IsName n) (hlast : '/' ∉ last) :
    isAbsolute (Text.joined ['/'] (init ++ [last])) = false := by
  cases init with
  | nil => exact isAbsolute_joined_cons hlast fun _ => rfl
  | cons n init =>
    have hn := hinit n List.mem_cons_self
    exact isAbsolute_joined_cons hn.slash fun hnil => absurd hnil hn.ne_nil

theorem slash_of_mem_append (hinit : ∀ n ∈ init, IsName n) (hlast : '/' ∉ last) :
    ∀ piece ∈ init ++ [last], '/' ∉ piece :=
  List.forall_mem_append.mpr ⟨fun n hn => (hinit n hn).slash, List.forall_mem_singleton.mpr hlast⟩

theorem clean_slashes (twice : Bool) : Clean (slashes twice) := by
  have hunrooted : unrooted (slashes twice) = [] := by cases twice <;> rfl
  refine ⟨by cases twice <;> rfl, by cases twice <;> rfl, ?_, fun _ => hunrooted⟩
  simp [parts, hunrooted]

theorem clean_joined (twice : Bool) (hinit : ∀ n ∈ init, IsName n) (hlast : IsName last) :
    Clean (slashes twice ++ Text.joined ['/'] (init ++ [last])) := by
  have hrelative := isAbsolute_joined_append hinit hlast.slash
  have hunrooted := unrooted_slashes_append twice hrelative
  refine ⟨isAbsolute_slashes_append twice _, ?_, fun c hc => ?_, fun hend => ?_⟩
  · rw [leadingSlashes_slashes_append twice hrelative, hunrooted]
  · rw [parts, hunrooted] at hc
    split at hc
    · cases hc
    · rw [components, Text.fields_joined (by simp) (slash_of_mem_append hinit hlast.slash)] at hc
      exact List.forall_mem_append.mpr ⟨hinit, List.forall_mem_singleton.mpr hlast⟩ c hc
  · -- the path ends as its last name does
    obtain ⟨before, hbefore⟩ := Text.exists_joined_append '/' init last
    rw [hbefore, ← List.append_assoc, List.getLast?_append,
      List.getLast?_eq_some_getLast hlast.ne_nil, Option.some_or, Option.some.injEq] at hend
    exact absurd (hend ▸ List.getLast_mem hlast.ne_nil) hlast.slash

theorem clean_spelled (twice : Bool) {inner : List Text} (h : ∀ n ∈ inner, IsName n) :
    Clean (spelled twice inner) := by
  cases inner with
  | nil =>
    rw [spelled, List.reverse_nil, Text.joined, List.append_nil]
    exact clean_slashes twice
  | cons n rest =>
    obtain ⟨hn, hrest⟩ := List.forall_mem_cons.mp h
    rw [spelled, List.reverse_cons]
    exact clean_joined twice (fun m hm => hrest m (List.mem_reverse.mp hm)) hn

theorem clean_normal (h : isAbsolute p = true) : Clean (normal p) := by
  obtain ⟨twice, -, hspelled⟩ := normal_eq_spelled h
  rw [hspelled]
  exact clean_spelled twice fun n hn => isName_of_mem_names hn

end Path
end ModuleGraph
