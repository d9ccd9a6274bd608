import ModuleGraph.FileSystem.World
import ModuleGraph.Proofs.Path.Normal
import ModuleGraph.Proofs.Text.Blank

/-! Directories as users write them: what trimming, the filling in of variables and normalization
make of an absolute path. Where variables are set to the empty text, filling them in makes a path no
longer, and nor does normalization; so a path that names a variable does not come out as it was. -/

namespace ModuleGraph

namespace Text

theorem length_joined_cons (sep : Char) (piece : Text) (pieces : List Text) :
    (joined [sep] pieces).length ≤ (joined [sep] (piece :: pieces)).length := by
  cases pieces with
  | nil => exact Nat.zero_le _
  | cons next more =>
    rw [joined_cons (List.cons_ne_nil _ _), List.length_append, List.length_cons]
    omega

theorem length_joined_le_of_sublist {sep : Char} {pieces pieces' : List Text}
    (h : pieces.Sublist pieces') :
    (joined [sep] pieces).length ≤ (joined [sep] pieces').length := by
  induction h with
  | slnil => exact Nat.le_refl _
  | cons piece _ ih => exact ih.trans (length_joined_cons sep piece _)
  | @cons_cons l l' piece hsub ih =>
    cases l with
    | nil =>
      cases l' with
      | nil => exact Nat.le_refl _
      | cons next more =>
        rw [joined_cons (List.cons_ne_nil _ _), List.length_append]
        exact Nat.le_add_right _ _
    | cons next more =>
      have hne : l' ≠ [] := by
        rintro rfl
        exact List.cons_ne_nil _ _ (List.sublist_nil.mp hsub)
      rw [joined_cons (List.cons_ne_nil _ _), joined_cons hne]
      simp only [List.length_append, List.length_cons]
      omega

end Text

namespace Path

theorem isEmpty_of_isAbsolute {p : Path} (h : isAbsolute p = true) : p.isEmpty = false := by
  cases p with
  | nil => cases h
  | cons c rest => rfl

theorem sublist_push (inner : List Text) (c : Text) : (push true inner c).Sublist (c :: inner) := by
  unfold push
  split
  · exact List.sublist_cons_self c inner
  split
  · cases inner with
    | nil => exact List.nil_sublist _
    | cons top outer =>
      dsimp only
      split
      · exact List.Sublist.refl _
      · exact (List.sublist_cons_self top outer).trans (List.sublist_cons_self c _)
  · exact List.Sublist.refl _

theorem sublist_foldl_push (parts inner : List Text) :
    (parts.foldl (push true) inner).Sublist (parts.reverse ++ inner) := by
  induction parts generalizing inner with
  | nil => exact List.Sublist.refl _
  | cons c rest ih =>
    rw [List.foldl_cons, List.reverse_cons, List.append_assoc, List.singleton_append]
    exact (ih _).trans ((sublist_push inner c).append_left _)

theorem exists_tail {p : Path} (h : isAbsolute p = true) : ∃ tail, p = leadingSlashes p ++ tail ∧
    names p = (components tail).foldl (push true) [] := by
  cases p with
  | nil => cases h
  | cons c rest =>
    obtain rfl : c = '/' := by simpa [isAbsolute] using h
    unfold leadingSlashes
    split
    · exact ⟨_, rfl, by simp [names, components, Text.fields, push_nil]⟩
    · next tail _ heq =>
      obtain rfl := (List.cons.inj heq).2
      exact ⟨tail, rfl, by simp [names, components, Text.fields, push_nil]⟩
    · exact ⟨_, rfl, by simp [names, components, Text.fields, push_nil]⟩
    · next hnone => exact absurd rfl (hnone rest)

theorem length_normal_le {p : Path} (h : isAbsolute p = true) : (normal p).length ≤ p.length := by
  obtain ⟨tail, hp, hnames⟩ := exists_tail h
  have hnonempty : 1 ≤ p.length := by
    cases p with
    | nil => cases h
    | cons c rest => simp
  have hjoined : (Text.joined ['/'] (names p).reverse).length ≤ tail.length := by
    have hsub : (names p).reverse.Sublist (components tail) := by
      have hfold := sublist_foldl_push (components tail) []
      rw [← hnames, List.append_nil] at hfold
      simpa using hfold.reverse
    calc (Text.joined ['/'] (names p).reverse).length
        ≤ (Text.joined ['/'] (components tail)).length := Text.length_joined_le_of_sublist hsub
      _ = tail.length := by rw [components, Text.joined_fields]
  have htext : (leadingSlashes p ++ Text.joined ['/'] (names p).reverse).length ≤ p.length := by
    have hlength := congrArg List.length hp
    rw [List.length_append] at hlength ⊢
    omega
  unfold normal
  rw [h]
  dsimp only
  split
  · exact hnonempty
  · exact htext

end Path

namespace World

open ModuleGraph.Path (isAbsolute)

variable {w : World} {fuel : Nat} {s : Text}

theorem variableName?_suffix {rest name after : Text}
    (h : variableName? rest = some (name, after)) : after <:+ rest := by
  unfold variableName? at h
  split at h
  · obtain ⟨rfl, -⟩ := Text.cut?_eq_some_iff.mp h
    exact ⟨'{' :: (name ++ ['}']), by simp⟩
  · dsimp only at h
    split at h
    · cases h
    · obtain ⟨-, rfl⟩ := Prod.mk.inj (Option.some.inj h)
      exact List.drop_suffix _ _

theorem name_cases (c : Char) (rest : Text) :
    (c = '$' → variableName? rest = none) ∨
      ∃ name after, c = '$' ∧ variableName? rest = some (name, after) := by
  by_cases hc : c = '$'
  · cases hname : variableName? rest with
    | none => exact Or.inl fun _ => rfl
    | some x => exact Or.inr ⟨x.1, x.2, hc, rfl⟩
  · exact Or.inl fun h => absurd h hc

theorem expandFrom_cons {c : Char} {rest : Text} (h : c = '$' → variableName? rest = none)
    (w : World) (fuel : Nat) : w.expandFrom (fuel + 1) (c :: rest) = c :: w.expandFrom fuel rest := by
  by_cases hc : c = '$'
  · subst hc
    rw [expandFrom, h rfl]
  · rw [expandFrom]
    exact hc

theorem isAbsolute_expandFrom (h : isAbsolute s = true) :
    isAbsolute (w.expandFrom fuel s) = true := by
  cases s with
  | nil => cases h
  | cons c rest =>
    obtain rfl : c = '/' := by simpa [isAbsolute] using h
    cases fuel with
    | zero => rfl
    | succ fuel =>
      rw [expandFrom_cons (fun h => absurd h (by decide))]
      rfl

theorem isAbsolute_trim (h : isAbsolute s = true) : isAbsolute (Text.trim s) = true := by
  cases s with
  | nil => cases h
  | cons c rest =>
    obtain rfl : c = '/' := by simpa [isAbsolute] using h
    have hslash : Text.isBlank '/' = false := by decide
    rw [Text.trim, Text.trimLeft_cons hslash, Text.trimRight_cons hslash]
    rfl

theorem expandHome_of_isAbsolute (h : isAbsolute s = true) : w.expandHome s = s := by
  cases s with
  | nil => cases h
  | cons c rest =>
    obtain rfl : c = '/' := by simpa [isAbsolute] using h
    rfl

theorem userDirectory_of_isAbsolute {p : Path} (h : isAbsolute p = true) (w : World)
    (fallback : Path) :
    w.userDirectory p fallback = Path.normal (w.expandVariables (Text.trim p)) := by
  have htrim := isAbsolute_trim h
  rw [userDirectory]
  simp only [Path.isEmpty_of_isAbsolute htrim, Bool.false_eq_true, if_false]
  rw [expandHome_of_isAbsolute htrim, absolute, Path.absolute, if_pos]
  exact isAbsolute_expandFrom htrim

theorem refusesUser_of_isAbsolute {p : Path} (h : isAbsolute p = true) (fallback : Path) :
    refusesUser p fallback = false := by
  have htrim := isAbsolute_trim h
  unfold refusesUser
  dsimp only
  rw [Path.isEmpty_of_isAbsolute htrim, if_neg Bool.false_ne_true]
  cases hp : Text.trim p with
  | nil => rfl
  | cons c rest =>
    obtain rfl : c = '/' := by simpa [isAbsolute, hp] using htrim
    rfl

theorem isAbsolute_userDirectory {p : Path} (h : isAbsolute p = true) (w : World)
    (fallback : Path) : isAbsolute (w.userDirectory p fallback) = true := by
  rw [userDirectory_of_isAbsolute h]
  exact Path.isAbsolute_normal (isAbsolute_expandFrom (isAbsolute_trim h))

/-- A variable that is named in a text. Its name and those before it are passed over as a whole. -/
inductive Names : (s name : Text) → Prop where
  | here {rest name after : Text} (h : variableName? rest = some (name, after)) :
      Names ('$' :: rest) name
  | behind {rest first after name : Text} (h : variableName? rest = some (first, after))
      (later : Names after name) : Names ('$' :: rest) name
  | next {c : Char} {rest name : Text} (h : c = '$' → variableName? rest = none)
      (later : Names rest name) : Names (c :: rest) name

def NamesNoVariable (s : Text) : Prop := ∀ name, Names s name → '=' ∈ name ∨ '\x00' ∈ name

def NamesNothingSet (w : World) (s : Text) : Prop :=
  ∀ name, Names s name → w.environmentValue? name = none

theorem NamesNoVariable.namesNothingSet (h : NamesNoVariable s) (w : World) :
    w.NamesNothingSet s := by
  intro name hname
  rw [environmentValue?, List.lookup_eq_none_iff]
  rintro ⟨name', value⟩ hm
  obtain ⟨heq, hnul, -⟩ := w.environment.wellFormed _ hm
  rw [bne_iff_ne]
  rintro rfl
  exact (h name hname).elim heq hnul

theorem NamesNothingSet.expandFrom_eq (h : w.NamesNothingSet s) (fuel : Nat) :
    w.expandFrom fuel s = s := by
  induction fuel generalizing s with
  | zero => cases s <;> rfl
  | succ fuel ih =>
    cases s with
    | nil => rfl
    | cons c rest =>
      rcases name_cases c rest with hstays | ⟨name, after, rfl, hname⟩
      · rw [expandFrom_cons hstays, ih fun name' hname' => h name' (.next hstays hname')]
      · -- the name stays where it is, and what follows it is a text of the same kind
        obtain ⟨written, rfl⟩ := variableName?_suffix hname
        have hafter := ih fun name' hname' => h name' (.behind hname hname')
        have hunset := h name (.here hname)
        rw [expandFrom]
        simp only [hname, hunset, hafter, List.length_append, Nat.add_sub_cancel, List.take_left',
          List.cons_append]

theorem length_expandFrom_le (hw : ∀ name value, w.environmentValue? name = some value → value = [])
    (fuel : Nat) (s : Text) : (w.expandFrom fuel s).length ≤ s.length := by
  induction fuel generalizing s with
  | zero => cases s <;> exact Nat.le_refl _
  | succ fuel ih =>
    cases s with
    | nil => exact Nat.le_refl _
    | cons c rest =>
      rcases name_cases c rest with hstays | ⟨name, after, rfl, hname⟩
      · rw [expandFrom_cons hstays]
        exact Nat.succ_le_succ (ih rest)
      · have hle := (variableName?_suffix hname).length_le
        have hafter := ih after
        rw [expandFrom]
        cases hvalue : w.environmentValue? name with
        | none =>
          simp only [hname, hvalue, List.length_cons, List.length_append, List.length_take]
          omega
        | some value =>
          obtain rfl := hw name value hvalue
          simp only [hname, hvalue, List.nil_append, List.length_cons]
          omega

theorem Names.length_expandFrom_lt {name : Text} (h : Names s name)
    (hw : w.environment.bindings = [(name, [])]) (hfuel : s.length ≤ fuel) :
    (w.expandFrom fuel s).length < s.length := by
  have hempty : ∀ n value, w.environmentValue? n = some value → value = [] := by
    intro n value hvalue
    rw [environmentValue?, hw, List.lookup_cons] at hvalue
    cases hn : n == name <;> simp_all
  induction h generalizing fuel with
  | @here rest name after hname =>
    have hvalue : w.environmentValue? name = some [] := by
      rw [environmentValue?, hw, List.lookup_cons_self]
    obtain ⟨fuel, rfl⟩ := Nat.exists_eq_succ_of_ne_zero (Nat.ne_zero_of_lt hfuel)
    have hafter := length_expandFrom_le hempty fuel after
    have hle := (variableName?_suffix hname).length_le
    rw [expandFrom]
    simp only [hname, hvalue, List.nil_append, List.length_cons]
    omega
  | @behind rest first after name hfirst _ ih =>
    obtain ⟨fuel, rfl⟩ := Nat.exists_eq_succ_of_ne_zero (Nat.ne_zero_of_lt hfuel)
    have hle := (variableName?_suffix hfirst).length_le
    have hafter := ih hw (hle.trans (Nat.le_of_succ_le_succ hfuel))
    rw [expandFrom]
    cases hvalue : w.environmentValue? first with
    | none =>
      simp only [hfirst, hvalue, List.length_cons, List.length_append, List.length_take]
      omega
    | some value =>
      obtain rfl := hempty first value hvalue
      simp only [hfirst, hvalue, List.nil_append, List.length_cons]
      omega
  | next hstays _ ih =>
    obtain ⟨fuel, rfl⟩ := Nat.exists_eq_succ_of_ne_zero (Nat.ne_zero_of_lt hfuel)
    rw [expandFrom_cons hstays]
    exact Nat.succ_lt_succ (ih hw (Nat.le_of_succ_le_succ hfuel))

end World
end ModuleGraph
