import ModuleGraph.Proofs.Script.Statements

/-! What a scan for one clause finds in a program. Before each literal the scan either takes the
clause that the literal belongs to, or passes on. Inside a literal it passes on as well, unless the
literal clashes with the next one. Then it takes what stands between the two. -/

namespace ModuleGraph.Script

open Text (isBlank opensWord foundFrom trim)

variable {k : Clause} {st : Statement} {program : List Statement} {gap s seg : Text} {p : Piece}
  {rest ps : List Piece} {l : Literal} {before : Option Char} {total : ℕ}

/-- The text counts as a specifier: without blanks around it, it is not empty, names no plugin, and is
no module of the script runtime. -/
structure Reported (s : Text) : Prop where
  ne_nil : trim s ≠ []
  no_plugin : pluginMark ∉ trim s
  foreign : isCoreModule (trim s) = false

theorem Literal.Plain.reported (h : l.Plain) : Reported l.text := by
  refine ⟨?_, fun hmem => ?_, ?_⟩
  · rw [h.trimmed]
    exact h.ne_nil
  · exact h.allowed _ (Text.mem_of_mem_trim hmem) (by decide)
  · rw [h.trimmed]
    exact h.foreign

theorem Literal.Plain.unquoted (h : l.Plain) : Unquoted l.text :=
  unquoted_of_not_mem (fun hmem => h.allowed _ hmem (by decide))
    fun hmem => h.allowed _ hmem (by decide)

theorem Literal.Plain.no_backtick (h : l.Plain) : '`' ∉ l.text :=
  fun hmem => h.allowed _ hmem (by decide)

theorem isCoreModule_of_mark {x : Char} (hx : x ∈ [')', ';', ']', ',']) (s : Text) :
    isCoreModule (x :: s) = false := by
  have hnames : ∀ m ∈ scriptCoreModules, m.head? ∉ [')', ';', ']', ','].map some := by
    decide +kernel
  have hslash : (x :: s).takeWhile (· ≠ '/') = x :: s.takeWhile (· ≠ '/') := by
    refine List.takeWhile_cons_of_pos (decide_eq_true ?_)
    rintro rfl
    exact absurd hx (by decide)
  have hnode : Text.beginsWith "node:".toList (x :: s) = false := by
    have hne : 'n' ≠ x := by
      rintro rfl
      exact absurd hx (by decide)
    rw [show "node:".toList = 'n' :: "ode:".toList by decide +kernel, Text.beginsWith,
      List.isPrefixOf, beq_eq_false_iff_ne.mpr hne, Bool.false_and]
  rw [isCoreModule, hnode, hslash, Bool.false_or, Bool.eq_false_iff]
  intro hcontains
  exact hnames _ (List.contains_iff_mem.mp hcontains) (List.mem_map_of_mem hx)

structure Between (gap : Text) (next : Source) : Prop where
  reported : Reported gap
  apart : '\n' ∈ trim gap ∨ next.clause? = none

theorem Between.ne_nil {next : Source} (h : Between gap next) : gap ≠ [] := by
  rintro rfl
  exact h.reported.ne_nil rfl

theorem exists_first_head (st : Statement) : ∃ y v, st.head = y :: v ∧ isBlank y = false := by
  have hopening : st.opening.toList.head?.map isBlank = some false := by
    cases st <;> simp only [Statement.opening] <;> decide +kernel
  obtain ⟨y, hy, hblank⟩ := Option.map_eq_some_iff.mp hopening
  obtain ⟨v, hv⟩ := List.head?_eq_some_iff.mp hy
  exact ⟨y, v ++ st.bound, by rw [Statement.head, hv, List.cons_append], hblank⟩

theorem exists_first_tail (st : Statement) : ∃ x t, st.tail = x :: t ∧ x ∈ [')', ';', ']', ','] := by
  have hclosing : ∃ x t, st.closing.toList = x :: t ∧ x ∈ [')', ';', ']', ','] := by
    cases st with
    | requireCall _ | importCall _ | define _ _ | requireAll _ _ =>
      exact ⟨')', ";\n".toList, by simp only [Statement.closing]; decide +kernel, by decide⟩
    | bareImport _ | importFrom _ _ | exportAll _ =>
      exact ⟨';', "\n".toList, by simp only [Statement.closing]; decide +kernel, by decide⟩
  obtain ⟨x, t, hx, hmark⟩ := hclosing
  unfold Statement.tail Statement.arguments
  split
  · exact ⟨']', _, rfl, by decide⟩
  · exact ⟨']', _, rfl, by decide⟩
  · exact ⟨x, t, hx, hmark⟩

theorem between_tail (h : st.WellFormed) {y : Char} {v : Text} (hgap : Unmarked (y :: v))
    (hy : isBlank y = false) (next : Source) : Between (st.tail ++ y :: v) next := by
  obtain ⟨x, t, htail, hmark⟩ := exists_first_tail st
  have hx : isBlank x = false := by
    revert x
    simp only [List.mem_cons, List.not_mem_nil, or_false]
    rintro x - (rfl | rfl | rfl | rfl) <;> decide
  have htrim : trim (st.tail ++ y :: v) = st.tail ++ y :: Text.trimRight v := by
    rw [htail]
    exact Text.trim_eq hx hy t v
  refine ⟨⟨?_, fun hmem => ?_, ?_⟩, Or.inl ?_⟩
  · rw [htrim, htail]
    exact List.cons_ne_nil _ _
  · exact unmarked_append.mpr ⟨unmarked_tail h, hgap⟩ _ (Text.mem_of_mem_trim hmem) (by decide)
  · rw [htrim, htail]
    exact isCoreModule_of_mark hmark _
  · rw [htrim]
    exact List.mem_append_left _ ((line_tail st).subset (by decide))

theorem between_separator (l : Literal) : Between Statement.separator ⟨none, l⟩ := by
  have htrim : trim Statement.separator = [','] := by decide +kernel
  refine ⟨⟨?_, ?_, ?_⟩, Or.inr rfl⟩
  · rw [htrim]
    exact List.cons_ne_nil _ _
  · rw [htrim]
    decide
  · rw [htrim]
    exact isCoreModule_of_mark (by decide) []

/-- A program from a place between two literals on. What stands there ends in the head of a clause
only if the next literal is that clause's own. -/
inductive Segmented : Text → List Piece → Prop
  | last {gap : Text} : Unmarked gap → Segmented gap []
  | more {gap : Text} {p : Piece} {rest : List Piece} : Unmarked gap →
      (∀ k : Clause, k.Opens gap ↔ p.source.clause? = some k) → p.source.literal.Plain →
      (∀ k : Clause, p.source.clause? = some k → ∃ left, k.Closes p.gap left) →
      (∀ next ∈ rest.head?, Between p.gap next.source) → Segmented p.gap rest →
      Segmented gap (p :: rest)

theorem Segmented.unmarked (h : Segmented gap ps) : Unmarked gap := by
  cases h <;> assumption

theorem Segmented.tail (h : Segmented gap (p :: rest)) : Segmented p.gap rest := by
  cases h
  assumption

theorem Segmented.plain (h : Segmented gap (p :: rest)) : p.source.literal.Plain := by
  cases h
  assumption

theorem Segmented.between (h : Segmented gap (p :: rest)) :
    ∀ next ∈ rest.head?, Between p.gap next.source := by
  cases h
  assumption

theorem Segmented.congr {gap' : Text} (h : Segmented gap ps) (hgap : Unmarked gap')
    (hopens : ∀ k : Clause, k.Opens gap' ↔ k.Opens gap) : Segmented gap' ps := by
  cases h with
  | last => exact .last hgap
  | more _ hown hplain hcloses hbetween hrest =>
    exact .more hgap (fun k => (hopens k).trans (hown k)) hplain hcloses hbetween hrest

theorem Unmarked.commentless (h : Unmarked s) : Commentless s := by
  have hplain : ['\'', '"', '`', '/'] ⊆ marks := by decide
  exact Commentless.of_plain fun c hc hmem => h c hc (hplain hmem)

theorem Segmented.commentless (h : Segmented gap ps) :
    Commentless (gap ++ ps.flatMap Piece.spelled) := by
  induction h with
  | last hgap => simpa using hgap.commentless
  | more hgap _ hplain _ _ _ ih =>
    rw [spelled_cons]
    refine hgap.commentless.append (.literal hplain.quote (fun c hc hmem => ?_) ih)
    rcases List.mem_cons.mp hmem with rfl | hmem
    · exact absurd hplain.quote (by simp [hplain.unquoted _ hc])
    · have hescape : ['\\', '\n'] ⊆ ['\'', '"', '`', '\\', '\n', '[', ']', '!'] := by decide
      exact hplain.allowed c hc (hescape hmem)

theorem Segmented.no_backtick (h : Segmented gap ps) : '`' ∉ gap ++ ps.flatMap Piece.spelled := by
  induction h with
  | last hgap => simpa using hgap.no_backtick
  | more hgap _ hplain _ _ _ ih =>
    have hquote := hplain.quote
    rw [spelled_cons]
    simp only [List.mem_append, List.mem_cons, not_or] at ih ⊢
    refine ⟨hgap.no_backtick, ?_, hplain.no_backtick, ?_, ih⟩
    all_goals
      intro heq
      rw [← heq] at hquote
      exact absurd hquote (by decide)

theorem closes_tail (hclause : st.clause? = some k) (gap : Text) :
    ∃ left, k.Closes (st.tail ++ gap) left := by
  cases st with
  | requireCall l | importCall l =>
    obtain rfl := Option.some.inj hclause
    exact ⟨";\n".toList ++ gap, [], Text.blanks_nil,
      by simp [Statement.tail, Statement.arguments, Statement.closing]⟩
  | define _ _ | requireAll _ _ => cases hclause
  | _ =>
    obtain rfl := Option.some.inj hclause
    exact ⟨_, rfl⟩

theorem segmented_piecesOf {clause? : Option Clause} {gap' : Text} {ls : List Literal}
    (hgap : Unmarked gap) (hopens : ∀ k : Clause, k.Opens gap ↔ clause? = some k) (hne : ls ≠ [])
    (hplain : ∀ l ∈ ls, l.Plain) (hsingle : ∀ k, clause? = some k → ls.length = 1)
    (hcloses : ∀ k : Clause, clause? = some k → ∃ left, k.Closes gap' left)
    (hbetween : ∀ next ∈ ps.head?, Between gap' next.source) (hrest : Segmented gap' ps) :
    Segmented gap (piecesOf clause? gap' ls ++ ps) := by
  induction ls generalizing gap with
  | nil => exact absurd rfl hne
  | cons l more ih =>
    obtain ⟨hl, hmore⟩ := List.forall_mem_cons.mp hplain
    cases more with
    | nil => exact .more hgap hopens hl hcloses hbetween hrest
    | cons next more =>
      -- more than one literal: they belong to an array
      obtain rfl : clause? = none := by
        cases clause? with
        | none => rfl
        | some k => simpa using hsingle k rfl
      have hseparator : ∀ k : Clause, k.Opens Statement.separator ↔ none = some k := by
        intro k
        refine ⟨fun hk => ?_, fun hk => by cases hk⟩
        have hlast : Statement.separator.reverse.find? (fun x => !isBlank x) = some ',' := by
          decide +kernel
        cases k <;> cases hlast.symm.trans hk.lastSolid
      refine .more hgap hopens hl (fun k hk => by cases hk) (fun p hp => ?_) ?_
      · have hsource : p.source = ⟨none, next⟩ := by
          cases more <;> exact congrArg Piece.source (Option.some.inj hp).symm
        rw [hsource]
        exact between_separator next
      · have hunmarked : Unmarked Statement.separator := by decide +kernel
        exact ih hunmarked hseparator (List.cons_ne_nil _ _) hmore fun k hk => by cases hk

theorem exists_first_cut (h : (cut program).2 ≠ []) :
    ∃ y v, (cut program).1 = y :: v ∧ isBlank y = false := by
  cases program with
  | nil => exact absurd rfl h
  | cons st rest =>
    obtain ⟨y, v, hhead, hy⟩ := exists_first_head st
    rw [cut]
    dsimp only
    split
    · exact ⟨y, _, by rw [hhead, List.cons_append, List.cons_append], hy⟩
    · exact ⟨y, v, hhead, hy⟩

theorem segmented_cut (h : ∀ st ∈ program, st.WellFormed) :
    Segmented (cut program).1 (cut program).2 := by
  induction program with
  | nil => exact .last fun c hc => by cases hc
  | cons st rest ih =>
    obtain ⟨hst, hrest⟩ := List.forall_mem_cons.mp h
    have ih := ih hrest
    have hgap : Unmarked (st.tail ++ (cut rest).1) :=
      unmarked_append.mpr ⟨unmarked_tail hst, ih.unmarked⟩
    rw [cut]
    dsimp only
    split
    · refine ih.congr ?_ fun k => ?_
      · rw [List.append_assoc]
        exact unmarked_append.mpr ⟨unmarked_head hst, hgap⟩
      · exact Clause.opens_behind_line ((line_tail st).trans (List.suffix_append _ _))
    · next l more hliterals =>
      have hline : Segmented (st.tail ++ (cut rest).1) (cut rest).2 :=
        ih.congr hgap fun k => Clause.opens_behind_line (line_tail st)
      refine segmented_piecesOf (unmarked_head hst) (fun k => opens_head_iff hst)
        (List.cons_ne_nil l more) (hliterals ▸ hst.literals) (fun k hk => ?_)
        (fun k hk => closes_tail hk _) (fun next hnext => ?_) hline
      · rw [← hliterals]
        cases st with
        | define _ _ | requireAll _ _ => cases hk
        | _ => rfl
      · have hne : (cut rest).2 ≠ [] := by
          intro hnil
          rw [hnil] at hnext
          cases hnext
        obtain ⟨y, v, hfirst, hy⟩ := exists_first_cut hne
        have hunmarked := ih.unmarked
        rw [hfirst] at hunmarked ⊢
        exact between_tail hst hunmarked hy next.source

end ModuleGraph.Script
