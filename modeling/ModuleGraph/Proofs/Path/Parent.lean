import Mathlib.Logic.Function.Iterate
import ModuleGraph.Proofs.Path.Normal

/-! The directory part of a path. That of an absolute path is absolute and begins with the same
slashes. In a normal form each step to the directory part takes the last name away, and the root
stays where it is. -/

namespace ModuleGraph

namespace Text

variable {p : Char → Bool} {s a b : Text} {c : Char}

theorem splitLast_append_cons (hc : p c = true) (hb : ∀ x ∈ b, p x = false) :
    splitLast p (a ++ c :: b) = (a ++ [c], b) := by
  have htail : ((a ++ c :: b).reverse.takeWhile fun x => !p x) = b.reverse := by
    rw [List.reverse_append, List.reverse_cons, List.append_assoc,
      List.takeWhile_append_of_pos (by simpa using hb)]
    simp [hc]
  have hlength : (a ++ c :: b).length - b.length = (a ++ [c]).length := by
    simp only [List.length_append, List.length_cons, List.length_nil]
    omega
  have htake : (a ++ c :: b).take (a ++ [c]).length = a ++ [c] := by
    rw [List.append_cons a c b, List.take_left]
  simp only [splitLast, htail, List.reverse_reverse, hlength, htake]

theorem exists_dropTail (p : Char → Bool) (s : Text) :
    ∃ t, s = dropTail p s ++ t ∧ ∀ x ∈ t, p x = true := by
  refine ⟨(s.reverse.takeWhile p).reverse, ?_, fun x hx => ?_⟩
  · rw [dropTail, ← List.reverse_append, List.takeWhile_append_dropWhile, List.reverse_reverse]
  · exact List.mem_takeWhile_imp (List.mem_reverse.mp hx)

theorem all_dropTail (h : s.all p = false) : (dropTail p s).all p = false := by
  obtain ⟨t, ht, htail⟩ := exists_dropTail p s
  by_contra hall
  rw [Bool.not_eq_false, List.all_eq_true] at hall
  rw [ht, Bool.eq_false_iff] at h
  refine h (List.all_eq_true.mpr fun x hx => ?_)
  rcases List.mem_append.mp hx with hx | hx
  · exact hall x hx
  · exact htail x hx

theorem takeWhile_append_of_all_eq_false (h : s.all p = false) (rest : Text) :
    (s ++ rest).takeWhile p = s.takeWhile p := by
  induction s with
  | nil => cases h
  | cons x s ih =>
    rw [List.cons_append, List.takeWhile_cons, List.takeWhile_cons]
    split
    · next hx => rw [ih (by simpa [hx] using h)]
    · rfl

theorem joined_append_singleton {sep : Char} {pieces : List Text} (hne : pieces ≠ [])
    (piece : Text) : joined [sep] (pieces ++ [piece]) = joined [sep] pieces ++ sep :: piece := by
  induction pieces with
  | nil => exact absurd rfl hne
  | cons first rest ih =>
    rw [List.cons_append, joined_cons (by simp)]
    cases rest with
    | nil => rfl
    | cons next more =>
      rw [ih (List.cons_ne_nil _ _), joined_cons (List.cons_ne_nil _ _), List.append_assoc]
      rfl

theorem exists_joined_append (sep : Char) (pieces : List Text) (piece : Text) :
    ∃ before, joined [sep] (pieces ++ [piece]) = before ++ piece := by
  by_cases hne : pieces = []
  · exact ⟨[], by rw [hne]; rfl⟩
  · exact ⟨_, by rw [joined_append_singleton hne, List.append_cons]⟩

end Text

namespace Path

variable {p base n : Path} {a b : Text}

theorem parent_append_cons (a : Text) (hb : '/' ∉ b) : parent (a ++ '/' :: b) =
    if a.all (· = '/') then a ++ ['/'] else Text.dropTail (· = '/') a := by
  have hsplit : Text.splitLast (· = '/') (a ++ '/' :: b) = (a ++ ['/'], b) :=
    Text.splitLast_append_cons (by simp) fun x hx =>
      decide_eq_false fun heq => hb (heq ▸ hx)
  have hall : (a ++ ['/']).all (· = '/') = a.all (· = '/') := by simp
  simp only [parent, split, hsplit, hall]
  split
  · rfl
  · rw [Text.dropTail_append_singleton]
    simp

theorem exists_last_slash (h : isAbsolute p = true) :
    ∃ a b, p = a ++ '/' :: b ∧ '/' ∉ b := by
  have hmem : '/' ∈ p.reverse := by
    cases p with
    | nil => cases h
    | cons x rest =>
      obtain rfl : x = '/' := by simpa [isAbsolute] using h
      simp
  obtain ⟨after, before, heq, hafter⟩ := List.eq_append_cons_of_mem hmem
  refine ⟨before.reverse, after.reverse, ?_, fun hs => hafter (List.mem_reverse.mp hs)⟩
  rw [← List.reverse_reverse p, heq]
  simp

theorem takeWhile_slash_of_not_mem (hb : '/' ∉ b) : b.takeWhile (· = '/') = [] := by
  cases b with
  | nil => rfl
  | cons x rest => simp [Ne.symm (List.ne_of_not_mem_cons hb)]

theorem takeWhile_slash_parent (h : isAbsolute p = true) :
    (parent p).takeWhile (· = '/') = p.takeWhile (· = '/') := by
  obtain ⟨a, b, rfl, hb⟩ := exists_last_slash h
  rw [parent_append_cons a hb]
  split
  · next hall =>
    have hslash : ∀ x ∈ a ++ ['/'], decide (x = '/') = true := by
      rw [← List.all_eq_true, List.all_append, hall]
      rfl
    rw [List.append_cons a '/' b, List.takeWhile_append_of_pos hslash,
      takeWhile_slash_of_not_mem hb, List.append_nil, List.takeWhile_eq_self_iff.mpr hslash]
  · next hall =>
    rw [Bool.not_eq_true] at hall
    obtain ⟨t, ht, -⟩ := Text.exists_dropTail (· = '/') a
    have hcut := Text.takeWhile_append_of_all_eq_false (Text.all_dropTail hall) t
    rw [Text.takeWhile_append_of_all_eq_false hall, ← hcut, ← ht]

theorem isAbsolute_iff_takeWhile : isAbsolute p = true ↔ p.takeWhile (· = '/') ≠ [] := by
  cases p with
  | nil => simp [isAbsolute]
  | cons x rest => by_cases hx : x = '/' <;> simp [isAbsolute, hx]

theorem isAbsolute_parent (h : isAbsolute p = true) : isAbsolute (parent p) = true := by
  rw [isAbsolute_iff_takeWhile, takeWhile_slash_parent h]
  exact isAbsolute_iff_takeWhile.mp h

theorem leadingSlashes_eq_of_takeWhile {q : Path}
    (h : p.takeWhile (· = '/') = q.takeWhile (· = '/')) : leadingSlashes p = leadingSlashes q := by
  have hlength : ∀ r : Path, leadingSlashes r = match (r.takeWhile (· = '/')).length with
      | 0 => []
      | 1 => ['/']
      | 2 => ['/', '/']
      | _ => ['/'] := by
    intro r
    rcases r with - | ⟨x, - | ⟨y, - | ⟨z, r⟩⟩⟩
    · rfl
    · by_cases hx : x = '/' <;> simp [leadingSlashes, hx]
    · by_cases hx : x = '/' <;> by_cases hy : y = '/' <;> simp [leadingSlashes, hx, hy]
    · by_cases hx : x = '/' <;> by_cases hy : y = '/' <;> by_cases hz : z = '/' <;>
        simp [leadingSlashes, hx, hy, hz]
  rw [hlength p, hlength q, h]

theorem leadingSlashes_parent (h : isAbsolute p = true) :
    leadingSlashes (parent p) = leadingSlashes p :=
  leadingSlashes_eq_of_takeWhile (takeWhile_slash_parent h)

theorem leadingSlashes_join (hbase : isAbsolute base = true) (hn : n ≠ [])
    (hrelative : isAbsolute n = false) : leadingSlashes (join base n) = leadingSlashes base := by
  refine leadingSlashes_eq_of_takeWhile ?_
  obtain ⟨x, n, rfl⟩ := List.exists_cons_of_ne_nil hn
  have hx : x ≠ '/' := by simpa [isAbsolute] using hrelative
  unfold join
  rw [if_neg (by simp [hrelative])]
  by_cases hall : base.all (· = '/') = true
  · have hslash : ∀ y ∈ base, decide (y = '/') = true := List.all_eq_true.mp hall
    have hlast : base.getLast? = some '/' := by
      obtain ⟨y, base, rfl⟩ := List.exists_cons_of_ne_nil (l := base) (by rintro rfl; cases hbase)
      rw [List.getLast?_eq_some_getLast (List.cons_ne_nil _ _), Option.some.injEq]
      exact of_decide_eq_true (hslash _ (List.getLast_mem _))
    rw [if_pos (by simp [hlast]), List.takeWhile_append_of_pos hslash,
      List.takeWhile_eq_self_iff.mpr hslash]
    simp [hx]
  · rw [Bool.not_eq_true] at hall
    split <;> rw [Text.takeWhile_append_of_all_eq_false hall]

theorem isAbsolute_parent_iterate (h : isAbsolute p = true) (k : ℕ) :
    isAbsolute (parent^[k] p) = true := by
  induction k with
  | zero => exact h
  | succ k ih =>
    rw [Function.iterate_succ_apply']
    exact isAbsolute_parent ih

theorem leadingSlashes_parent_iterate (h : isAbsolute p = true) (k : ℕ) :
    leadingSlashes (parent^[k] p) = leadingSlashes p := by
  induction k with
  | zero => rfl
  | succ k ih =>
    rw [Function.iterate_succ_apply', leadingSlashes_parent (isAbsolute_parent_iterate h k), ih]

theorem parent_spelled_nil (twice : Bool) : parent (spelled twice []) = spelled twice [] := by
  cases twice <;> rfl

theorem parent_spelled_cons (twice : Bool) {name : Text} {rest : List Text} (hname : IsName name)
    (hrest : ∀ m ∈ rest, IsName m) : parent (spelled twice (name :: rest)) = spelled twice rest := by
  cases rest with
  | nil =>
    cases twice with
    | false => exact (parent_append_cons [] hname.slash).trans rfl
    | true => exact (parent_append_cons ['/'] hname.slash).trans rfl
  | cons m more =>
    have hm := hrest m List.mem_cons_self
    obtain ⟨m', x, rfl⟩ : ∃ m' x, m = m' ++ [x] :=
      ⟨_, _, (List.dropLast_concat_getLast hm.ne_nil).symm⟩
    have hx : x ≠ '/' := fun heq => hm.slash (heq ▸ List.mem_append_right _ List.mem_cons_self)
    -- the path up to this name ends in a character that is no slash
    obtain ⟨before, hbefore⟩ : ∃ before, Text.joined ['/'] ((m' ++ [x]) :: more).reverse =
        before ++ [x] := by
      obtain ⟨before, hbefore⟩ := Text.exists_joined_append '/' more.reverse (m' ++ [x])
      exact ⟨before ++ m', by rw [List.reverse_cons, hbefore, List.append_assoc]⟩
    have hspelled : spelled twice (name :: (m' ++ [x]) :: more) =
        (slashes twice ++ (before ++ [x])) ++ '/' :: name := by
      rw [spelled, List.reverse_cons, Text.joined_append_singleton (by simp), hbefore]
      simp only [List.append_assoc]
    have hall : (slashes twice ++ (before ++ [x])).all (· = '/') = false := by
      simp [hx]
    rw [hspelled, parent_append_cons _ hname.slash, hall, if_neg (by simp), spelled, hbefore,
      ← List.append_assoc, Text.dropTail_append_singleton, if_neg (by simpa using hx)]

/-- Climbing from a normal form takes one name away at each step and stops at the root. -/
theorem names_parent_iterate (h : isAbsolute p = true) (hnormal : normal p = p) (k : ℕ) :
    names (parent^[k] p) = (names p).drop k := by
  obtain ⟨twice, -, hspelled⟩ := normal_eq_spelled h
  have hnames : ∀ m ∈ names p, IsName m := fun m hm => isName_of_mem_names hm
  have hclimb : parent^[k] p = spelled twice ((names p).drop k) := by
    induction k with
    | zero => exact hnormal.symm.trans hspelled
    | succ k ih =>
      rw [Function.iterate_succ_apply', ih, ← List.tail_drop]
      have hdrop : ∀ m ∈ (names p).drop k, IsName m := fun m hm => hnames m (List.mem_of_mem_drop hm)
      cases hrest : (names p).drop k with
      | nil => exact parent_spelled_nil twice
      | cons m rest =>
        rw [hrest] at hdrop
        obtain ⟨hm, hrest⟩ := List.forall_mem_cons.mp hdrop
        exact parent_spelled_cons twice hm hrest
  rw [hclimb, names_spelled twice fun m hm => hnames m (List.mem_of_mem_drop hm)]

end Path
end ModuleGraph
