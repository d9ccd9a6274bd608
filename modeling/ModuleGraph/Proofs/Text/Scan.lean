import ModuleGraph.Text.Scan

/-! What a scan that replaces forms leaves of a text: a form that is recognized counts as its marked
part, and the scan goes on behind it. Literals and block comments as such scans read them. -/

namespace ModuleGraph.Text

variable {form : Form} {before : Option Char} {s body rest marked : Text} {distance : Nat}
  {quote : Char} {stop : Char → Bool}

theorem replaceFormsFrom_skip (form : Form) (skipped rest : Text) (before : Option Char) :
    ∃ last, replaceFormsFrom form skipped.length before (skipped ++ rest) =
      replaceFormsFrom form 0 last rest := by
  induction skipped generalizing before with
  | nil => exact ⟨before, rfl⟩
  | cons c skipped ih => exact ih (some c)

theorem replaceFormsFrom_of_hit (hne : s ≠ [])
    (h : form before (s ++ rest) = some ⟨s.length, distance, marked⟩) :
    ∃ last, replaceFormsFrom form 0 before (s ++ rest) =
      marked ++ replaceFormsFrom form 0 last rest := by
  obtain ⟨c, skipped, rfl⟩ := List.exists_cons_of_ne_nil hne
  obtain ⟨last, hlast⟩ := replaceFormsFrom_skip form skipped rest (some c)
  refine ⟨last, ?_⟩
  rw [List.cons_append] at h ⊢
  rw [replaceFormsFrom, h, ← hlast]
  rfl

/-- A text that a scan gives back as it is, whatever stands around it. -/
def Unchanged (form : Form) (s : Text) : Prop :=
  ∀ before rest, ∃ last, replaceFormsFrom form 0 before (s ++ rest) =
    s ++ replaceFormsFrom form 0 last rest

theorem Unchanged.append {t : Text} (hs : Unchanged form s) (ht : Unchanged form t) :
    Unchanged form (s ++ t) := by
  intro before rest
  obtain ⟨last, hlast⟩ := hs before (t ++ rest)
  obtain ⟨last', hlast'⟩ := ht last rest
  exact ⟨last', by rw [List.append_assoc, hlast, hlast', List.append_assoc]⟩

theorem Unchanged.flatMap {α : Type} {f : α → Text} {l : List α}
    (h : ∀ a ∈ l, Unchanged form (f a)) : Unchanged form (l.flatMap f) := by
  induction l with
  | nil => exact fun before rest => ⟨before, rfl⟩
  | cons a l ih =>
    obtain ⟨ha, hl⟩ := List.forall_mem_cons.mp h
    exact ha.append (ih hl)

theorem Unchanged.of_none (h : ∀ c ∈ s, ∀ before rest, form before (c :: rest) = none) :
    Unchanged form s := by
  intro before rest
  induction s generalizing before with
  | nil => exact ⟨before, rfl⟩
  | cons c s ih =>
    obtain ⟨hc, hs⟩ := List.forall_mem_cons.mp h
    obtain ⟨last, hlast⟩ := ih hs (some c)
    refine ⟨last, ?_⟩
    rw [List.cons_append, replaceFormsFrom, hc, hlast]
    rfl

theorem Unchanged.of_hit (hne : s ≠ [])
    (h : ∀ before rest, form before (s ++ rest) = some ⟨s.length, distance, s⟩) :
    Unchanged form s :=
  fun before rest => replaceFormsFrom_of_hit hne (h before rest)

theorem Unchanged.replaceForms_eq (h : Unchanged form s) : replaceForms form s = s := by
  obtain ⟨last, hlast⟩ := h none []
  simpa [replaceFormsFrom, replaceForms] using hlast

/-- A scan keeps the number of a character if each marked part holds it as often as the form that it
stands for. -/
theorem count_replaceFormsFrom (c : Char)
    (hform : ∀ before s hit, form before s = some hit →
      0 < hit.length ∧ hit.marked.count c = (s.take hit.length).count c)
    (skip : Nat) (before : Option Char) (s : Text) :
    (replaceFormsFrom form skip before s).count c = (s.drop skip).count c := by
  induction s generalizing skip before with
  | nil => simp [replaceFormsFrom]
  | cons a rest ih =>
    cases skip with
    | succ skip => rw [replaceFormsFrom, ih, List.drop_succ_cons]
    | zero =>
      rw [replaceFormsFrom, List.drop_zero]
      cases hhit : form before (a :: rest) with
      | none => rw [List.count_cons, List.count_cons, ih, List.drop_zero]
      | some hit =>
        obtain ⟨hpos, hcount⟩ := hform before (a :: rest) hit hhit
        obtain ⟨n, hn⟩ := Nat.exists_eq_succ_of_ne_zero (Nat.ne_of_gt hpos)
        have hsplit : (a :: rest).count c =
            ((a :: rest).take hit.length).count c + ((a :: rest).drop hit.length).count c := by
          rw [← List.count_append, List.take_append_drop]
        dsimp only
        rw [List.count_append, hcount, ih, hsplit, hn]
        rfl

inductive LiteralBody (quote : Char) (stop : Char → Bool) : Text → Prop
  | nil : LiteralBody quote stop []
  | plain {c : Char} {rest : Text} : c ≠ quote → c ≠ '\\' → stop c = false →
      LiteralBody quote stop rest → LiteralBody quote stop (c :: rest)
  | pair {e : Char} {rest : Text} : LiteralBody quote stop rest →
      LiteralBody quote stop ('\\' :: e :: rest)

theorem LiteralBody.of_plain (h : ∀ c ∈ body, c ≠ quote ∧ c ≠ '\\' ∧ stop c = false) :
    LiteralBody quote stop body := by
  induction body with
  | nil => exact .nil
  | cons c body ih =>
    obtain ⟨⟨hquote, hslash, hstop⟩, hbody⟩ := List.forall_mem_cons.mp h
    exact .plain hquote hslash hstop (ih hbody)

theorem literalBody?_eq_some (hquote : quote ≠ '\\') (h : LiteralBody quote stop body)
    (rest : Text) : literalBody? quote stop (body ++ quote :: rest) = some (body, rest) := by
  induction h with
  | nil =>
    rw [List.nil_append, literalBody?]
    · rw [if_pos rfl]
    · rintro e rest heq
      exact fun _ => hquote heq
  | plain hc hslash hstop _ ih =>
    rw [List.cons_append, literalBody?]
    · rw [if_neg hc, if_neg (by simp [hslash, hstop]), ih]
      rfl
    · rintro e rest heq
      exact fun _ => hslash heq
  | pair _ ih =>
    rw [List.cons_append, List.cons_append, literalBody?, ih]
    rfl

theorem blockBody?_eq_some (h : ¬ ['*', '/'] <:+: body) (rest : Text) :
    blockBody? (body ++ '*' :: '/' :: rest) = some (body, rest) := by
  induction body with
  | nil => rfl
  | cons c body ih =>
    rw [List.cons_append, blockBody?]
    · rw [ih fun hinner => h (hinner.trans (List.infix_cons (List.infix_refl _)))]
      rfl
    · -- an end that begins at `c` would stand in the body
      rintro more heq hrest
      cases body with
      | nil => simp at hrest
      | cons d body =>
        obtain rfl : d = '/' := (List.cons.inj hrest).1
        exact h (heq ▸ ⟨[], body, rfl⟩)

end ModuleGraph.Text
