import ModuleGraph.Proofs.Script.Passage

/-! The literals that the scan for dependency arrays finds in a program. Square brackets stand in
arrays only, so that the scan passes over every other statement, and each array ends where it is
written to end. -/

namespace ModuleGraph.Script

open Text (isBlank opensWord foundFrom found joined)

variable {st : Statement} {program : List Statement} {ls : List Literal} {ps qs : List Piece}
  {before : Option Char} {total : ℕ} {c : Char} {s a b : Text}

theorem mem_joined_spelled (h : c ∈ joined Statement.separator (ls.map Literal.spelled)) :
    c ∈ Statement.separator ∨ ∃ l ∈ ls, c = l.quote ∨ c ∈ l.text := by
  induction ls with
  | nil => cases h
  | cons l more ih =>
    have hfirst : c ∈ l.spelled → ∃ l' ∈ l :: more, c = l'.quote ∨ c ∈ l'.text := by
      intro hc
      refine ⟨l, List.mem_cons_self, ?_⟩
      simp only [Literal.spelled, List.mem_cons, List.mem_append, List.not_mem_nil, or_false] at hc
      rcases hc with hc | hc | hc
      · exact Or.inl hc
      · exact Or.inr hc
      · exact Or.inl hc
    cases more with
    | nil => exact Or.inr (hfirst h)
    | cons next more =>
      rw [List.map_cons, List.map_cons, joined, List.mem_append, List.mem_append] at h
      · rcases h with (h | h) | h
        · exact Or.inr (hfirst h)
        · exact Or.inl h
        · rcases ih h with hc | ⟨l', hl', hc⟩
          · exact Or.inl hc
          · exact Or.inr ⟨l', List.mem_cons_of_mem l hl', hc⟩
      · simp

theorem not_mem_literals (h : st.WellFormed) (hc : c ∈ ['[', ']']) :
    c ∉ joined Statement.separator (st.literals.map Literal.spelled) := by
  intro hmem
  rcases mem_joined_spelled hmem with hmem | ⟨l, hl, rfl | hmem⟩
  · have hseparator : Statement.separator = [',', ' '] := by decide +kernel
    rw [hseparator] at hmem
    rcases List.mem_pair.mp hmem with rfl | rfl <;> exact absurd hc (by decide)
  · have hquote := (h.literals l hl).quote
    rcases isQuote_iff.mp hquote with heq | heq <;> rw [heq] at hc <;> exact absurd hc (by decide)
  · have hbrackets : ['[', ']'] ⊆ ['\'', '"', '`', '\\', '\n', '[', ']', '!'] := by decide
    exact (h.literals l hl).allowed c hmem (hbrackets hc)

theorem not_mem_tail (h : st.WellFormed) : '[' ∉ st.tail := by
  have hname : '[' ∉ st.name := fun hmem => h.name _ hmem (by decide)
  have hclosing : '[' ∉ st.closing.toList := by
    cases st <;> simp only [Statement.closing] <;> decide +kernel
  rw [Statement.tail, List.mem_append, not_or]
  refine ⟨?_, hclosing⟩
  cases st with
  | define ls callback | requireAll ls callback =>
    have hcallback : '[' ∉ callback := hname
    simpa [Statement.arguments] using hcallback
  | _ => exact List.not_mem_nil

theorem not_mem_bound (h : st.WellFormed) : '[' ∉ st.bound := by
  have hname : '[' ∉ st.name := fun hmem => h.name _ hmem (by decide)
  cases st with
  | importFrom binding l =>
    rw [Statement.bound, List.mem_append, not_or]
    exact ⟨hname, by decide +kernel⟩
  | _ => exact List.not_mem_nil

theorem Bracketed.append (ha : Bracketed a) (hb : Bracketed b) (h : ∀ c ∈ b.head?, c ≠ '[') :
    Bracketed (a ++ b) :=
  List.isChain_append.mpr ⟨ha, hb, fun _ _ c hc heq => absurd heq (h c hc)⟩

theorem bracketed_text (h : st.WellFormed) : Bracketed st.text := by
  have hopening : Bracketed st.opening.toList := by
    cases st <;> simp only [Statement.opening, Bracketed] <;> decide +kernel
  have hrest : '[' ∉ st.bound ++
      (joined Statement.separator (st.literals.map Literal.spelled) ++ st.tail) := by
    simp only [List.mem_append, not_or]
    exact ⟨not_mem_bound h, not_mem_literals h (by decide), not_mem_tail h⟩
  rw [Statement.text, Statement.head, List.append_assoc, List.append_assoc]
  refine hopening.append (.of_not_mem hrest) fun c hc heq => hrest ?_
  rw [← heq]
  exact List.mem_of_mem_head? hc

theorem bracketed_program (h : ∀ st ∈ program, st.WellFormed) :
    Bracketed (program.flatMap Statement.text) := by
  induction program with
  | nil => exact .nil
  | cons st rest ih =>
    obtain ⟨hst, hrest⟩ := List.forall_mem_cons.mp h
    rw [List.flatMap_cons]
    refine (bracketed_text hst).append (ih hrest) ?_
    cases rest with
    | nil =>
      intro c hc
      cases hc
    | cons next rest =>
      rintro c hc rfl
      have hopening : next.opening.toList.head? ≠ some '[' ∧ next.opening.toList ≠ [] := by
        cases next <;> simp only [Statement.opening] <;> decide +kernel
      rw [List.flatMap_cons, Statement.text, Statement.head, List.append_assoc, List.append_assoc,
        List.append_assoc, List.head?_append_of_ne_nil _ hopening.2] at hc
      exact hopening.1 hc

theorem cut_cons (st : Statement) (rest : List Statement) : (cut (st :: rest)).2 =
    piecesOf st.clause? (st.tail ++ (cut rest).1) st.literals ++ (cut rest).2 := by
  rw [cut]
  dsimp only
  split
  · next hnil => rw [hnil]; rfl
  · next hcons => rw [hcons]

theorem located_append (n : ℕ) (ps qs : List Piece) : located n (ps ++ qs) =
    located n ps ++ located (n + (ps.flatMap Piece.spelled).length) qs := by
  induction ps generalizing n with
  | nil => rfl
  | cons p ps ih =>
    rw [List.cons_append, located, ih, located, List.cons_append, List.flatMap_cons, List.length_append,
      Nat.add_assoc]

theorem placesOf_append (clause? : Option Clause) (n : ℕ) (ps qs : List Piece) :
    placesOf clause? n (ps ++ qs) =
      placesOf clause? n ps ++ placesOf clause? (n + (ps.flatMap Piece.spelled).length) qs := by
  rw [placesOf, located_append, List.filter_append, List.map_append, placesOf, placesOf]

theorem foundFrom_items (h : ∀ l ∈ ls, l.Plain) (gap : Text) (m : ℕ)
    (hle : (joined Statement.separator (ls.map Literal.spelled)).length ≤ total) :
    ((foundFrom itemForm total before (joined Statement.separator (ls.map Literal.spelled))).map
      fun (offset, spec) => (m + offset, spec)) =
      placesOf none (m + (total - (joined Statement.separator (ls.map Literal.spelled)).length))
        (piecesOf none gap ls) := by
  induction ls generalizing before with
  | nil => rfl
  | cons l more ih =>
    obtain ⟨hl, hmore⟩ := List.forall_mem_cons.mp h
    cases more with
    | nil =>
      have hspelled : joined Statement.separator ([l].map Literal.spelled) =
          l.quote :: (l.text ++ l.quote :: []) := rfl
      rw [hspelled] at hle ⊢
      have hplaces := placesOf_cons_own (p := ⟨⟨none, l⟩, gap⟩) rfl
        (m + (total - (l.quote :: (l.text ++ [l.quote])).length)) []
      rw [foundFrom_item hl.quote hl.unquoted hl.ne_nil hle, piecesOf, hplaces]
      simp only [List.length_append, List.length_cons, List.length_nil] at hle ⊢
      rw [Text.foundFrom_nil, List.map_cons]
      refine congrArg₂ List.cons (Prod.ext ?_ rfl) rfl
      dsimp only
      omega
    | cons next more =>
      have hspelled : joined Statement.separator ((l :: next :: more).map Literal.spelled) =
          l.quote :: (l.text ++ l.quote :: (Statement.separator ++
            joined Statement.separator ((next :: more).map Literal.spelled))) := by
        simp [joined, Literal.spelled]
      have hlength : Statement.separator.length = 2 := by decide +kernel
      have hplaces := placesOf_cons_own (p := ⟨⟨none, l⟩, Statement.separator⟩) rfl
        (m + (total - (joined Statement.separator ((l :: next :: more).map Literal.spelled)).length))
        (piecesOf none gap (next :: more))
      rw [piecesOf, hplaces]
      rw [hspelled] at hle ⊢
      rw [foundFrom_item hl.quote hl.unquoted hl.ne_nil hle, List.map_cons]
      simp only [List.length_append, List.length_cons] at hle ⊢
      rw [Text.foundFrom_append_of_none, ih hmore (by omega)]
      · refine congrArg₂ List.cons (Prod.ext ?_ rfl) (congrArg₂ _ ?_ rfl)
        · dsimp only
          omega
        · simp only [Piece.spelled, Literal.spelled, List.length_append, List.length_cons, hlength,
            List.length_nil]
          omega
      · intro u c t hu
        refine itemForm_of_ne_quote ?_ _ _
        have hplain : Unquoted Statement.separator := by decide +kernel
        exact hplain c (hu ▸ List.mem_append_right u List.mem_cons_self)
      · rw [List.length_append]
        omega

theorem exists_array (h : st.WellFormed) (hnone : st.clause? = none) :
    ∃ word behind, IsArrayWord word ∧ [';', '\n'] <:+ behind ∧ '[' ∉ behind ∧
      st.tail = ']' :: behind ∧ st.text = word ++ '(' :: '[' ::
        (joined Statement.separator (st.literals.map Literal.spelled) ++ ']' :: behind) := by
  have harray : ∀ word : Text, IsArrayWord word → st.head = word ++ ['(', '['] →
      st.arguments.head? = some ']' → ∃ word behind, IsArrayWord word ∧ [';', '\n'] <:+ behind ∧
        '[' ∉ behind ∧ st.tail = ']' :: behind ∧ st.text = word ++ '(' :: '[' ::
          (joined Statement.separator (st.literals.map Literal.spelled) ++ ']' :: behind) := by
    intro word hword hhead hfirst
    obtain ⟨more, harguments⟩ := List.head?_eq_some_iff.mp hfirst
    have htail : st.tail = ']' :: (more ++ st.closing.toList) := by
      rw [Statement.tail, harguments, List.cons_append]
    have hline : [';', '\n'] <:+ more ++ st.closing.toList :=
      (line_closing st).trans (List.suffix_append _ _)
    refine ⟨word, more ++ st.closing.toList, hword, hline, ?_, htail, ?_⟩
    · have hmem := not_mem_tail h
      rw [htail] at hmem
      exact fun hbehind => hmem (List.mem_cons_of_mem _ hbehind)
    · rw [Statement.text, hhead, htail]
      simp
  cases st with
  | define ls callback =>
    exact harray "define".toList (Or.inl rfl)
      (by simp [Statement.head, Statement.opening, Statement.bound]) rfl
  | requireAll ls callback =>
    exact harray "require".toList (Or.inr rfl)
      (by simp [Statement.head, Statement.opening, Statement.bound]) rfl
  | _ => cases hnone

theorem not_mem_text (h : st.WellFormed) (hclause : st.clause? ≠ none) : '[' ∉ st.text := by
  have hopening : '[' ∉ st.opening.toList := by
    cases st with
    | define _ _ | requireAll _ _ => exact absurd rfl hclause
    | _ => simp only [Statement.opening]; decide +kernel
  simp only [Statement.text, Statement.head, List.mem_append, not_or]
  exact ⟨⟨⟨hopening, not_mem_bound h⟩, not_mem_literals h (by decide)⟩, not_mem_tail h⟩

def arrayItems (arrays : List (ℕ × Text)) : List (ℕ × Text) :=
  arrays.flatMap fun (position, list) =>
    (found itemForm list).map fun (offset, spec) => (position + offset, spec)

theorem placesOf_piecesOf_other {clause? own : Option Clause} (h : own ≠ clause?) (n : ℕ) (gap : Text)
    (ls : List Literal) : placesOf clause? n (piecesOf own gap ls) = [] := by
  have hall : ∀ p ∈ piecesOf own gap ls, p.source.clause? ≠ clause? := by
    intro p hp
    have hsource := List.mem_map_of_mem (f := Piece.source) hp
    rw [map_source_piecesOf] at hsource
    obtain ⟨l, -, hl⟩ := List.mem_map.mp hsource
    rwa [← hl]
  generalize piecesOf own gap ls = ps at hall
  induction ps generalizing n with
  | nil => rfl
  | cons p ps ih =>
    obtain ⟨hp, hps⟩ := List.forall_mem_cons.mp hall
    rw [placesOf_cons_other hp, ih _ hps]

theorem foundFrom_items_of_array {behind : Text} (h : ∀ l ∈ ls, l.Plain) (rest : List Statement) :
    (found itemForm (joined Statement.separator (ls.map Literal.spelled))).map
      (fun (offset, spec) => (total - (joined Statement.separator (ls.map Literal.spelled) ++
        ']' :: (behind ++ rest.flatMap Statement.text)).length + offset, spec)) =
      placesOf none (total - (((piecesOf none (']' :: behind ++ (cut rest).1) ls).flatMap
        Piece.spelled).length + ((cut rest).2.flatMap Piece.spelled).length))
        (piecesOf none (']' :: behind ++ (cut rest).1) ls) := by
  rw [Text.found_eq_foundFrom, foundFrom_items h (']' :: behind ++ (cut rest).1) _ (Nat.le_refl _)]
  by_cases hne : ls = []
  · subst hne
    rfl
  · rw [spelled_piecesOf none _ hne, text_eq_cut]
    congr 1
    simp only [List.length_append, List.length_cons]
    omega

/-- The scan for arrays finds the literals of all arrays. -/
theorem arrayItems_program (h : ∀ st ∈ program, st.WellFormed) (hbefore : opensWord before = true)
    (hle : (program.flatMap Statement.text).length ≤ total) :
    arrayItems (foundFrom arrayForm total before (program.flatMap Statement.text)) =
      placesOf none (total - ((cut program).2.flatMap Piece.spelled).length) (cut program).2 := by
  induction program generalizing before with
  | nil => rfl
  | cons st rest ih =>
    have hbracketed := bracketed_program h
    have hcut : ((cut (st :: rest)).2.flatMap Piece.spelled).length ≤ total := by
      rw [text_eq_cut, List.length_append] at hle
      omega
    obtain ⟨hst, hrest⟩ := List.forall_mem_cons.mp h
    rw [List.flatMap_cons] at hle hbracketed ⊢
    have hshort : (rest.flatMap Statement.text).length ≤ total := by
      rw [List.length_append] at hle
      omega
    rw [cut_cons, List.flatMap_append, List.length_append] at hcut
    have hplace : ∀ a b : ℕ, a + b ≤ total → total - (a + b) + a = total - b := by
      intro a b hab
      omega
    rw [cut_cons, placesOf_append, List.flatMap_append, List.length_append, hplace _ _ hcut]
    by_cases hclause : st.clause? = none
    · obtain ⟨word, behind, hword, hline, hopen, htail, htext⟩ := exists_array hst hclause
      have hscript : st.text ++ rest.flatMap Statement.text = word ++ '(' :: '[' ::
          (joined Statement.separator (st.literals.map Literal.spelled) ++
            ']' :: (behind ++ rest.flatMap Statement.text)) := by
        rw [htext]
        simp
      rw [hscript] at hle hbracketed ⊢
      have hbehind : (behind ++ rest.flatMap Statement.text).length ≤ total := by
        simp only [List.length_append, List.length_cons] at hle ⊢
        omega
      have hbracketed' : Bracketed (behind ++ rest.flatMap Statement.text) := by
        refine hbracketed.suffix ⟨word ++ '(' :: '[' ::
          (joined Statement.separator (st.literals.map Literal.spelled) ++ [']']), ?_⟩
        simp
      rw [foundFrom_array hword hbefore (not_mem_literals hst (by decide)) hle,
        foundFrom_array_of_line hline hopen hbracketed' hbehind, arrayItems, List.flatMap_cons,
        ← arrayItems, ih hrest rfl hshort, hclause, htail]
      exact congrArg (· ++ _) (foundFrom_items_of_array hst.literals rest)
    · have hline : [';', '\n'] <:+ st.text := (line_tail st).trans (List.suffix_append _ _)
      rw [foundFrom_array_of_line hline (not_mem_text hst hclause) hbracketed hle,
        ih hrest rfl hshort, placesOf_piecesOf_other hclause, List.nil_append]

end ModuleGraph.Script
