import Mathlib.Data.List.Infix
import ModuleGraph.Program.Token

/-! Places in a text. A place is that of a text before it: the lines and, on the last of them, the
bytes that the text has. A longer text leads further. -/

namespace ModuleGraph.Program.Place

variable {p q r : Place} {s t : Text}

def Before (p q : Place) : Prop := p.line < q.line ∨ p.line = q.line ∧ p.column < q.column

instance (p q : Place) : Decidable (p.Before q) := inferInstanceAs (Decidable (_ ∨ _))

theorem le_iff : p.le q = true ↔ p.Before q ∨ p = q := by
  cases p
  cases q
  simp only [le, Before, Bool.or_eq_true, Bool.and_eq_true, decide_eq_true_eq, mk.injEq]
  omega

theorem Before.trans (hpq : p.Before q) (hqr : q.Before r) : p.Before r := by
  simp only [Before] at *
  omega

theorem Before.irrefl (p : Place) : ¬ p.Before p := by
  simp [Before]

theorem le_trans (hpq : p.le q = true) (hqr : q.le r = true) : p.le r = true := by
  rw [le_iff] at *
  rcases hpq with hpq | rfl
  · rcases hqr with hqr | rfl
    · exact Or.inl (hpq.trans hqr)
    · exact Or.inl hpq
  · exact hqr

theorem le_total (p q : Place) : (p.le q || q.le p) = true := by
  simp only [le, Bool.or_eq_true, Bool.and_eq_true, decide_eq_true_eq]
  omega

theorem Before.le (h : p.Before q) : p.le q = true := le_iff.mpr (Or.inl h)

theorem Before.not_le (h : p.Before q) : ¬ q.le p = true := by
  rw [le_iff]
  rintro (hqp | rfl)
  · exact Before.irrefl p (h.trans hqp)
  · exact Before.irrefl q h

theorem after_append (p : Place) (s t : Text) : p.after (s ++ t) = (p.after s).after t :=
  List.foldl_append

theorem before_after_singleton (p : Place) (c : Char) : p.Before (p.after [c]) := by
  have hsize := c.utf8Size_pos
  simp only [after, List.foldl_cons, List.foldl_nil, Before]
  split
  · exact Or.inl (Nat.lt_succ_self _)
  · exact Or.inr ⟨rfl, Nat.lt_add_of_pos_right hsize⟩

theorem before_after (p : Place) (h : s ≠ []) : p.Before (p.after s) := by
  induction s generalizing p with
  | nil => exact absurd rfl h
  | cons c rest ih =>
    have hone := before_after_singleton p c
    cases rest with
    | nil => exact hone
    | cons d rest => exact hone.trans (ih (p.after [c]) (List.cons_ne_nil d rest))

theorem Before.after (h : p.Before q) (s : Text) : p.Before (q.after s) := by
  cases s with
  | nil => exact h
  | cons c rest => exact h.trans (before_after q (List.cons_ne_nil c rest))

theorem before_iff_length_lt {text : Text} (hs : s <+: text) (ht : t <+: text) (p : Place) :
    (p.after s).Before (p.after t) ↔ s.length < t.length := by
  have hlonger : ∀ {s t : Text}, s <+: text → t <+: text → s.length < t.length →
      (p.after s).Before (p.after t) := by
    intro s t hs ht hlt
    obtain ⟨more, rfl⟩ := List.prefix_of_prefix_length_le hs ht hlt.le
    rw [after_append]
    refine before_after _ fun hnil => ?_
    simp [hnil] at hlt
  refine ⟨fun h => ?_, hlonger hs ht⟩
  rcases Nat.lt_trichotomy s.length t.length with hlt | heq | hlt
  · exact hlt
  · rw [(List.prefix_of_prefix_length_le hs ht heq.le).eq_of_length heq] at h
    exact absurd h (Before.irrefl _)
  · exact absurd (h.trans (hlonger ht hs hlt)) (Before.irrefl _)

end ModuleGraph.Program.Place
