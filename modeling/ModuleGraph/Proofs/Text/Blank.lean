import Mathlib.Data.List.DropRight
import Mathlib.Data.List.TakeWhile
import ModuleGraph.Text.Blank

/-! Blanks at the ends of a text, and what is left of it without them. -/

namespace ModuleGraph.Text

variable {s r u v : Text} {c x : Char}

theorem forall_mem_of_all {p : Char → Prop} [DecidablePred p] (h : (s.all fun c => p c) = true) :
    ∀ c ∈ s, p c := by
  simpa using h

def Blanks (b : Text) : Prop := ∀ c ∈ b, isBlank c = true

theorem blanks_nil : Blanks [] := fun _ h => by cases h

theorem trimLeft_append {b : Text} (hb : Blanks b) (s : Text) : trimLeft (b ++ s) = trimLeft s := by
  induction b with
  | nil => rfl
  | cons x b ih =>
    obtain ⟨hx, hb⟩ := List.forall_mem_cons.mp hb
    rw [List.cons_append, trimLeft, List.dropWhile_cons_of_pos hx]
    exact ih hb

theorem trimLeft_cons (hc : isBlank c = false) (s : Text) : trimLeft (c :: s) = c :: s :=
  List.dropWhile_cons_of_neg (by simp [hc])

theorem exists_blanks (s : Text) : ∃ b, Blanks b ∧ s = b ++ trimLeft s :=
  ⟨s.takeWhile isBlank, fun _ hc => List.mem_takeWhile_imp hc,
    List.takeWhile_append_dropWhile.symm⟩

theorem trimLeft_eq_cons_iff (hc : isBlank c = false) :
    trimLeft s = c :: r ↔ ∃ b, Blanks b ∧ s = b ++ c :: r := by
  constructor
  · intro h
    obtain ⟨b, hb, hs⟩ := exists_blanks s
    exact ⟨b, hb, h ▸ hs⟩
  · rintro ⟨b, hb, rfl⟩
    rw [trimLeft_append hb, trimLeft_cons hc]

theorem after?_trimLeft_eq_some_iff (hc : isBlank c = false) :
    after? [c] (trimLeft s) = some r ↔ ∃ b, Blanks b ∧ s = b ++ c :: r := by
  rw [after?_eq_some_iff]
  exact trimLeft_eq_cons_iff hc

theorem drop_length_takeWhile (p : Char → Bool) (s : Text) :
    s.drop (s.takeWhile p).length = s.dropWhile p := by
  induction s with
  | nil => rfl
  | cons c s ih => by_cases h : p c = true <;> simp [h, ih]

theorem dropTail_append_cons {p : Char → Bool} (hx : p x = false) (u v : Text) :
    dropTail p (u ++ x :: v) = u ++ x :: dropTail p v := by
  have hdrop : ∀ a b : Text, (a ++ x :: b).dropWhile p = a.dropWhile p ++ x :: b := by
    intro a b
    induction a with
    | nil => simp [hx]
    | cons c a ih =>
      rw [List.cons_append, List.dropWhile_cons, List.dropWhile_cons]
      split
      · exact ih
      · rfl
  rw [dropTail, List.reverse_append, List.reverse_cons, List.append_assoc, List.singleton_append, hdrop]
  simp [dropTail]

theorem trim_eq {y : Char} (hx : isBlank x = false) (hy : isBlank y = false) (u v : Text) :
    trim (x :: u ++ y :: v) = x :: u ++ y :: trimRight v := by
  rw [trim, List.cons_append, trimLeft_cons hx, trimRight, ← List.cons_append,
    dropTail_append_cons hy]
  rfl

theorem mem_of_mem_trim {c : Char} (h : c ∈ trim s) : c ∈ s := by
  have hright : c ∈ trimLeft s :=
    List.mem_reverse.mp ((List.dropWhile_suffix _).subset (List.mem_reverse.mp h))
  exact (List.dropWhile_suffix _).subset hright

theorem trimRight_cons (hc : isBlank c = false) (s : Text) :
    trimRight (c :: s) = c :: trimRight s :=
  dropTail_append_cons hc [] s

theorem trimLeft_trim (s : Text) : trimLeft (trim s) = trim s := by
  rw [trim]
  cases h : trimLeft s with
  | nil => rfl
  | cons c r =>
    have hc : isBlank c = false := by
      have hhead := List.head?_dropWhile_not isBlank s
      rw [trimLeft] at h
      simpa [h] using hhead
    rw [trimRight_cons hc, trimLeft_cons hc]

theorem trim_trim (s : Text) : trim (trim s) = trim s := by
  have hright : trimRight (trim s) = trim s := by
    rw [trim, trimRight, trimRight, dropTail, dropTail, List.reverse_reverse,
      List.dropWhile_idempotent]
  rw [trim, trimLeft_trim, hright]

end ModuleGraph.Text
