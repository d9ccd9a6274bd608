import Mathlib.Data.List.TakeWhile
import ModuleGraph.Path

/-! Normal forms of absolute paths. The components of such a normal form are names: none is empty,
`.` or `..`, and none holds a slash. A normal form is its own. -/

namespace ModuleGraph

namespace Text

theorem mem_of_mem_fields {sep : Char} {s field : Text} {ch : Char} (hfield : field ∈ fields sep s)
    (hch : ch ∈ field) : ch ∈ s ∧ ch ≠ sep := by
  induction s generalizing field with
  | nil =>
    rw [fields, List.mem_singleton] at hfield
    rw [hfield] at hch
    cases hch
  | cons a rest ih =>
    rw [fields] at hfield
    split at hfield
    · next h =>
      rcases List.mem_cons.mp hfield with rfl | hfield
      · cases hch
      · exact ⟨List.mem_cons_of_mem a (ih hfield hch).1, (ih hfield hch).2⟩
    · next h =>
      cases hfields : fields sep rest with
      | nil => exact absurd hfields (fields_ne_nil sep rest)
      | cons first more =>
        rw [hfields] at hfield ih
        rcases List.mem_cons.mp hfield with rfl | hfield
        · rcases List.mem_cons.mp hch with rfl | hch
          · exact ⟨List.mem_cons_self, h⟩
          · have := ih List.mem_cons_self hch
            exact ⟨List.mem_cons_of_mem a this.1, this.2⟩
        · have := ih (List.mem_cons_of_mem first hfield) hch
          exact ⟨List.mem_cons_of_mem a this.1, this.2⟩

theorem fields_of_not_mem {sep : Char} {s : Text} (h : sep ∉ s) : fields sep s = [s] := by
  induction s with
  | nil => rfl
  | cons a rest ih =>
    obtain ⟨ha, hrest⟩ := List.ne_and_not_mem_of_not_mem_cons h
    rw [fields, if_neg (Ne.symm ha), ih hrest]

theorem fields_append {sep : Char} {s : Text} (h : sep ∉ s) (rest : Text) :
    fields sep (s ++ sep :: rest) = s :: fields sep rest := by
  induction s with
  | nil => simp [fields]
  | cons a s ih =>
    obtain ⟨ha, hs⟩ := List.ne_and_not_mem_of_not_mem_cons h
    rw [List.cons_append, fields, if_neg (Ne.symm ha), ih hs]

theorem joined_cons {sep : Char} {pieces : List Text} (hne : pieces ≠ []) (piece : Text) :
    joined [sep] (piece :: pieces) = piece ++ sep :: joined [sep] pieces := by
  cases pieces with
  | nil => exact absurd rfl hne
  | cons next more => simp [joined]

theorem fields_joined {sep : Char} {pieces : List Text} (hne : pieces ≠ [])
    (h : ∀ piece ∈ pieces, sep ∉ piece) : fields sep (joined [sep] pieces) = pieces := by
  induction pieces with
  | nil => exact absurd rfl hne
  | cons piece rest ih =>
    obtain ⟨hpiece, hrest⟩ := List.forall_mem_cons.mp h
    cases rest with
    | nil => exact fields_of_not_mem hpiece
    | cons next more =>
      have hne := List.cons_ne_nil next more
      rw [joined_cons hne, fields_append hpiece, ih hne hrest]

theorem mem_joined {sep : Char} {pieces : List Text} {ch : Char}
    (h : ch ∈ joined [sep] pieces) : ch = sep ∨ ∃ piece ∈ pieces, ch ∈ piece := by
  induction pieces with
  | nil => cases h
  | cons piece rest ih =>
    cases rest with
    | nil => exact Or.inr ⟨piece, List.mem_cons_self, h⟩
    | cons next more =>
      rw [joined_cons (List.cons_ne_nil _ _), List.mem_append, List.mem_cons] at h
      rcases h with h | h | h
      · exact Or.inr ⟨piece, List.mem_cons_self, h⟩
      · exact Or.inl h
      · rcases ih h with h | ⟨p, hp, hch⟩
        · exact Or.inl h
        · exact Or.inr ⟨p, List.mem_cons_of_mem piece hp, hch⟩

end Text

namespace Path

structure IsName (n : Text) : Prop where
  ne_nil : n ≠ []
  ne_here : n ≠ here
  ne_parentName : n ≠ parentName
  slash : '/' ∉ n

theorem push_of_isName {n : Text} (h : IsName n) (rooted : Bool) (inner : List Text) :
    push rooted inner n = n :: inner := by
  simp [push, h.ne_nil, h.ne_here, h.ne_parentName]

theorem push_nil (rooted : Bool) (inner : List Text) : push rooted inner [] = inner := by
  simp [push]

theorem isName_of_mem_push {inner : List Text} {part : Text} (hinner : ∀ n ∈ inner, IsName n)
    (hpart : '/' ∉ part) : ∀ n ∈ push true inner part, IsName n := by
  unfold push
  split
  · exact hinner
  · next hstay =>
    simp only [Bool.or_eq_true, List.isEmpty_iff, decide_eq_true_eq, not_or] at hstay
    split
    · cases inner with
      | nil => simp
      | cons top outer =>
        have htop := (hinner top List.mem_cons_self).ne_parentName
        simp only [if_neg htop]
        exact fun n hn => hinner n (List.mem_cons_of_mem top hn)
    · next hup =>
      intro n hn
      rcases List.mem_cons.mp hn with rfl | hn
      · exact ⟨hstay.1, hstay.2, hup, hpart⟩
      · exact hinner n hn

def names (p : Path) : List Text := (components p).foldl (push true) []

theorem isName_of_mem_foldl_push {parts inner : List Text} (hparts : ∀ part ∈ parts, '/' ∉ part)
    (hinner : ∀ n ∈ inner, IsName n) : ∀ n ∈ parts.foldl (push true) inner, IsName n := by
  induction parts generalizing inner with
  | nil => exact hinner
  | cons part rest ih =>
    obtain ⟨hpart, hrest⟩ := List.forall_mem_cons.mp hparts
    exact ih hrest (isName_of_mem_push hinner hpart)

theorem isName_of_mem_names {p : Path} {n : Text} (h : n ∈ names p) : IsName n := by
  refine isName_of_mem_foldl_push (fun part hpart hslash => ?_) (by simp) n h
  exact (Text.mem_of_mem_fields hpart hslash).2 rfl

theorem foldl_push_of_isName {parts : List Text} (h : ∀ n ∈ parts, IsName n)
    (inner : List Text) : parts.foldl (push true) inner = parts.reverse ++ inner := by
  induction parts generalizing inner with
  | nil => rfl
  | cons n rest ih =>
    obtain ⟨hn, hrest⟩ := List.forall_mem_cons.mp h
    rw [List.foldl_cons, push_of_isName hn, ih hrest, List.reverse_cons, List.append_assoc]
    rfl

theorem foldl_push_replicate (k : Nat) (inner : List Text) :
    (List.replicate k []).foldl (push true) inner = inner := by
  induction k with
  | zero => rfl
  | succ k ih => rw [List.replicate_succ, List.foldl_cons, push_nil, ih]

def slashes (twice : Bool) : Text := if twice then ['/', '/'] else ['/']

/-- The path below the root that names spell, the innermost first. -/
def spelled (twice : Bool) (inner : List Text) : Path :=
  slashes twice ++ Text.joined ['/'] inner.reverse

theorem isAbsolute_slashes_append (twice : Bool) (s : Text) :
    isAbsolute (slashes twice ++ s) = true := by
  cases twice <;> rfl

theorem isAbsolute_spelled (twice : Bool) (inner : List Text) :
    isAbsolute (spelled twice inner) = true :=
  isAbsolute_slashes_append twice _

theorem isAbsolute_joined_cons {piece : Text} {rest : List Text} (hslash : '/' ∉ piece)
    (h : piece = [] → rest = []) : isAbsolute (Text.joined ['/'] (piece :: rest)) = false := by
  cases piece with
  | nil =>
    rw [h rfl]
    rfl
  | cons a piece =>
    have ha : a ≠ '/' := (List.ne_of_not_mem_cons hslash).symm
    cases rest <;> simp [Text.joined, isAbsolute, ha]

theorem isAbsolute_joined {pieces : List Text} (hne : ∀ n ∈ pieces, n ≠ [])
    (hslash : ∀ n ∈ pieces, '/' ∉ n) : isAbsolute (Text.joined ['/'] pieces) = false := by
  cases pieces with
  | nil => rfl
  | cons n rest =>
    exact isAbsolute_joined_cons (hslash n List.mem_cons_self)
      fun hnil => absurd hnil (hne n List.mem_cons_self)

theorem components_joined (twice : Bool) {pieces : List Text} (hne : pieces ≠ [])
    (h : ∀ piece ∈ pieces, '/' ∉ piece) : ∃ k,
    components (slashes twice ++ Text.joined ['/'] pieces) = List.replicate k [] ++ pieces := by
  have hfields := Text.fields_joined hne h
  cases twice with
  | false => exact ⟨1, by simp [components, slashes, Text.fields, hfields, List.replicate_succ]⟩
  | true => exact ⟨2, by simp [components, slashes, Text.fields, hfields, List.replicate_succ]⟩

theorem components_spelled (twice : Bool) {inner : List Text} (h : ∀ n ∈ inner, IsName n) :
    ∃ k, components (spelled twice inner) = List.replicate k [] ++ inner.reverse := by
  by_cases hnil : inner.reverse = []
  · rw [spelled, hnil]
    cases twice with
    | false => exact ⟨2, rfl⟩
    | true => exact ⟨3, rfl⟩
  · exact components_joined twice hnil fun n hn => (h n (List.mem_reverse.mp hn)).slash

theorem names_spelled (twice : Bool) {inner : List Text} (h : ∀ n ∈ inner, IsName n) :
    names (spelled twice inner) = inner := by
  obtain ⟨k, hk⟩ := components_spelled twice h
  rw [names, hk, List.foldl_append, foldl_push_replicate, foldl_push_of_isName]
  · simp
  · exact fun n hn => h n (List.mem_reverse.mp hn)

theorem leadingSlashes_of_isAbsolute {p : Path} (h : isAbsolute p = true) :
    ∃ twice, leadingSlashes p = slashes twice := by
  unfold leadingSlashes
  split
  · exact ⟨false, rfl⟩
  · exact ⟨true, rfl⟩
  · exact ⟨false, rfl⟩
  · next hone =>
    cases p with
    | nil => cases h
    | cons a rest =>
      have ha : a = '/' := by simpa [isAbsolute] using h
      exact absurd (ha ▸ rfl) (hone rest)

theorem leadingSlashes_slashes_append (twice : Bool) {s : Text} (h : isAbsolute s = false) :
    leadingSlashes (slashes twice ++ s) = slashes twice := by
  cases s with
  | nil => cases twice <;> rfl
  | cons a rest =>
    have ha : a ≠ '/' := by simpa [isAbsolute] using h
    cases twice <;> simp [leadingSlashes, slashes, ha]

theorem leadingSlashes_spelled (twice : Bool) {inner : List Text} (h : ∀ n ∈ inner, IsName n) :
    leadingSlashes (spelled twice inner) = slashes twice := by
  refine leadingSlashes_slashes_append twice (isAbsolute_joined (fun n hn => ?_) fun n hn => ?_)
  · exact (h n (List.mem_reverse.mp hn)).ne_nil
  · exact (h n (List.mem_reverse.mp hn)).slash

theorem not_mem_spelled {ch : Char} (hch : ch ≠ '/') (twice : Bool) {inner : List Text}
    (h : ∀ n ∈ inner, ch ∉ n) : ch ∉ spelled twice inner := by
  intro hmem
  rcases List.mem_append.mp hmem with hmem | hmem
  · cases twice <;> simp [slashes, hch] at hmem
  · rcases Text.mem_joined hmem with hmem | ⟨n, hn, hmem⟩
    · exact hch hmem
    · exact h n (List.mem_reverse.mp hn) hmem

theorem mem_of_mem_push {rooted : Bool} {inner : List Text} {part n : Text}
    (h : n ∈ push rooted inner part) : n ∈ inner ∨ n = part := by
  unfold push at h
  split at h
  · exact Or.inl h
  split at h
  · cases inner with
    | nil => cases rooted <;> simp_all
    | cons top outer =>
      dsimp only at h
      split at h
      · exact (List.mem_cons.mp h).symm
      · exact Or.inl (List.mem_cons_of_mem top h)
  · exact (List.mem_cons.mp h).symm

theorem mem_of_mem_foldl_push {rooted : Bool} {parts inner : List Text} {n : Text}
    (h : n ∈ parts.foldl (push rooted) inner) : n ∈ inner ∨ n ∈ parts := by
  induction parts generalizing inner with
  | nil => exact Or.inl h
  | cons part rest ih =>
    rcases ih h with h | h
    · rcases mem_of_mem_push h with h | rfl
      · exact Or.inl h
      · exact Or.inr List.mem_cons_self
    · exact Or.inr (List.mem_cons_of_mem part h)

theorem not_mem_of_mem_names {p : Path} {ch : Char} (hch : ch ∉ p) {n : Text} (hn : n ∈ names p) :
    ch ∉ n := by
  intro hmem
  rcases mem_of_mem_foldl_push hn with hn | hn
  · cases hn
  · exact hch (Text.mem_of_mem_fields hn hmem).1

theorem normal_eq_spelled {p : Path} (h : isAbsolute p = true) :
    ∃ twice, leadingSlashes p = slashes twice ∧ normal p = spelled twice (names p) := by
  obtain ⟨twice, htwice⟩ := leadingSlashes_of_isAbsolute h
  refine ⟨twice, htwice, ?_⟩
  have hne : (slashes twice ++ Text.joined ['/'] (names p).reverse).isEmpty = false := by
    cases twice <;> rfl
  simp only [names] at hne
  simp only [normal, h, htwice, hne, Bool.false_eq_true, if_false, spelled, names]

theorem normal_spelled (twice : Bool) {inner : List Text} (h : ∀ n ∈ inner, IsName n) :
    normal (spelled twice inner) = spelled twice inner := by
  obtain ⟨twice', htwice, hnormal⟩ := normal_eq_spelled (isAbsolute_spelled twice inner)
  rw [leadingSlashes_spelled twice h] at htwice
  have hsame : twice' = twice := by
    cases twice <;> cases twice' <;> simp [slashes] at htwice ⊢
  rw [hnormal, names_spelled twice h, hsame]

theorem leadingSlashes_normal {p : Path} (h : isAbsolute p = true) :
    leadingSlashes (normal p) = leadingSlashes p := by
  obtain ⟨twice, htwice, hspelled⟩ := normal_eq_spelled h
  rw [hspelled, leadingSlashes_spelled twice fun n hn => isName_of_mem_names hn, htwice]

theorem normal_normal {p : Path} (h : isAbsolute p = true) : normal (normal p) = normal p := by
  obtain ⟨twice, -, hnormal⟩ := normal_eq_spelled h
  rw [hnormal]
  exact normal_spelled twice fun n hn => isName_of_mem_names hn

theorem isAbsolute_normal {p : Path} (h : isAbsolute p = true) : isAbsolute (normal p) = true := by
  obtain ⟨twice, -, hnormal⟩ := normal_eq_spelled h
  rw [hnormal]
  exact isAbsolute_spelled twice _

end Path
end ModuleGraph
