import ModuleGraph.Proofs.Text.Blank
import ModuleGraph.Proofs.Text.Scan
import ModuleGraph.Stylesheet.Reference

/-! Sheets of at-rules, each with targets in quotes. No target opens or ends a comment, so a sheet
stays as it is without its comments. -/

namespace ModuleGraph.Stylesheet

open Text (Blanks LiteralBody Unchanged isBlank trim)

structure Target where
  isUrl : Bool
  quote : Char
  text : Text
  deriving DecidableEq

namespace Target

def opening (t : Target) : Text := if t.isUrl then "url(".toList ++ [t.quote] else [t.quote]

def closing (t : Target) : Text := if t.isUrl then [t.quote, ')'] else [t.quote]

def spelled (t : Target) : Text := t.opening ++ (t.text ++ t.closing)

/-- The text is not blank, and nothing in it has a meaning of its own in a target. -/
structure Plain (t : Target) : Prop where
  quote : isQuote t.quote = true
  solid : trim t.text ≠ []
  allowed : ∀ c ∈ t.text, c ∉ ['\'', '"', '(', ')', '\\', '\n']

end Target

structure Rule where
  name : Text
  gap : Text
  first : Target
  more : List (Text × Target)

def spelledAll (items : List (Text × Target)) : Text :=
  items.flatMap fun item => item.1 ++ item.2.spelled

def Separates (s : Text) : Prop :=
  ∃ b b', Blanks b ∧ Blanks b' ∧ '\n' ∉ b ∧ '\n' ∉ b' ∧ s = b ++ ',' :: b'

namespace Rule

def targets (r : Rule) : List Target := r.first :: r.more.map Prod.snd

def items (r : Rule) : List (Text × Target) := ([], r.first) :: r.more

def body (r : Rule) : Text := spelledAll r.items

def text (r : Rule) : Text := '@' :: (r.name ++ (r.gap ++ (r.body ++ [';', '\n'])))

structure WellFormed (r : Rule) : Prop where
  name : r.name ∈ ruleNames
  gap : Blanks r.gap ∧ r.gap ≠ []
  targets : ∀ t ∈ r.targets, t.Plain
  separators : ∀ item ∈ r.more, Separates item.1

end Rule

variable {t : Target} {r : Rule} {s body rest : Text} {q c : Char} {items : List (Text × Target)}

theorem isQuote_iff : isQuote q = true ↔ q = '\'' ∨ q = '"' := by simp [isQuote]

theorem isBlank_of_isQuote (h : isQuote q = true) : isBlank q = false := by
  rcases isQuote_iff.mp h with rfl | rfl <;> decide

def Dull (c : Char) : Prop := c ∉ ['\'', '"', '/', '@', ';', '\n', 'u']

instance (c : Char) : Decidable (Dull c) := inferInstanceAs (Decidable (¬ _))

theorem dull_of_separates (h : Separates s) : ∀ c ∈ s, Dull c := by
  obtain ⟨b, b', hb, hb', hline, hline', rfl⟩ := h
  have hblank : ∀ {b : Text}, Blanks b → '\n' ∉ b → ∀ c ∈ b, Dull c := by
    intro b hb hline c hc hmark
    have hc' := hb c hc
    simp only [List.mem_cons, List.not_mem_nil, or_false] at hmark
    rcases hmark with rfl | rfl | rfl | rfl | rfl | rfl | rfl
    · exact absurd hc' (by decide)
    · exact absurd hc' (by decide)
    · exact absurd hc' (by decide)
    · exact absurd hc' (by decide)
    · exact absurd hc' (by decide)
    · exact hline hc
    · exact absurd hc' (by decide)
  intro c hc
  rcases List.mem_append.mp hc with hc | hc
  · exact hblank hb hline c hc
  · rcases List.mem_cons.mp hc with rfl | hc
    · decide
    · exact hblank hb' hline' c hc

theorem Rule.WellFormed.plain (h : r.WellFormed) : ∀ item ∈ r.items, item.2.Plain := by
  intro item hitem
  refine h.targets _ ?_
  rcases List.mem_cons.mp hitem with rfl | hitem
  · exact List.mem_cons_self
  · exact List.mem_cons_of_mem _ (List.mem_map_of_mem hitem)

theorem Rule.WellFormed.dull (h : r.WellFormed) : ∀ item ∈ r.items, ∀ c ∈ item.1, Dull c := by
  intro item hitem
  rcases List.mem_cons.mp hitem with rfl | hitem
  · exact fun c hc => by cases hc
  · exact dull_of_separates (h.separators item hitem)

theorem commentOrLiteral_plain (hc : c ∉ ['\'', '"', '/']) (before : Option Char) (rest : Text) :
    commentOrLiteral before (c :: rest) = none := by
  simp only [List.mem_cons, List.not_mem_nil, or_false, not_or] at hc
  obtain ⟨hsingle, hdouble, hslash⟩ := hc
  unfold commentOrLiteral
  split <;> simp_all

theorem unchanged_plain (h : ∀ c ∈ s, c ∉ ['\'', '"', '/']) : Unchanged commentOrLiteral s :=
  .of_none fun c hc => commentOrLiteral_plain (h c hc)

theorem unchanged_literal (hquote : isQuote q = true)
    (hbody : LiteralBody q (fun c => c = '\n') body) :
    Unchanged commentOrLiteral (q :: (body ++ [q])) := by
  have hslash : q ≠ '\\' := by
    rintro rfl
    exact absurd hquote (by decide)
  have hhit : ∀ before rest, commentOrLiteral before (q :: (body ++ [q]) ++ rest) =
      some ⟨(q :: (body ++ [q])).length, 0, q :: (body ++ [q])⟩ := by
    intro before rest
    have hread : literal? q (body ++ q :: rest) =
        some ⟨(q :: (body ++ [q])).length, 0, q :: (body ++ [q])⟩ := by
      rw [literal?, Text.literalBody?_eq_some hslash hbody]
      simp
    rw [List.cons_append, List.append_assoc, List.singleton_append]
    rcases isQuote_iff.mp hquote with rfl | rfl
    · exact hread
    · exact hread
  exact .of_hit (List.cons_ne_nil _ _) hhit

theorem Target.Plain.unchanged (h : t.Plain) : Unchanged commentOrLiteral t.spelled := by
  have hbody : LiteralBody t.quote (fun c => c = '\n') t.text := by
    refine .of_plain fun c hc => ?_
    have hmem := h.allowed c hc
    simp only [List.mem_cons, List.not_mem_nil, or_false, not_or] at hmem
    refine ⟨?_, hmem.2.2.2.2.1, by simp [hmem.2.2.2.2.2]⟩
    rcases isQuote_iff.mp h.quote with hq | hq
    · exact hq ▸ hmem.1
    · exact hq ▸ hmem.2.1
  have hliteral := unchanged_literal h.quote hbody
  unfold Target.spelled Target.opening Target.closing
  split
  · have hopening : Unchanged commentOrLiteral "url(".toList :=
      unchanged_plain (Text.forall_mem_of_all (by decide))
    have hclosing : Unchanged commentOrLiteral [')'] :=
      unchanged_plain (Text.forall_mem_of_all (by decide))
    simpa using (hopening.append hliteral).append hclosing
  · simpa using hliteral

theorem unchanged_spelledAll (hplain : ∀ item ∈ items, item.2.Plain)
    (hdull : ∀ item ∈ items, ∀ c ∈ item.1, Dull c) :
    Unchanged commentOrLiteral (spelledAll items) := by
  refine .flatMap fun item hitem => ?_
  have hgap : Unchanged commentOrLiteral item.1 := by
    exact unchanged_plain fun c hc hmark =>
      hdull item hitem c hc (List.mem_append_left ['@', ';', '\n', 'u'] hmark)
  exact hgap.append (hplain item hitem).unchanged

theorem Rule.WellFormed.unchanged (h : r.WellFormed) : Unchanged commentOrLiteral r.text := by
  have hnames : ∀ name ∈ ruleNames, (name.all fun c => c ∉ ['\'', '"', '/']) = true := by decide
  have hgap : ∀ c ∈ r.gap, c ∉ ['\'', '"', '/'] := by
    intro c hc hmark
    have hblank := h.gap.1 c hc
    simp only [List.mem_cons, List.not_mem_nil, or_false] at hmark
    rcases hmark with rfl | rfl | rfl <;> exact absurd hblank (by decide)
  have hname := Text.forall_mem_of_all (hnames r.name h.name)
  have hhead : Unchanged commentOrLiteral ['@'] :=
    unchanged_plain (Text.forall_mem_of_all (by decide))
  have htail : Unchanged commentOrLiteral [';', '\n'] :=
    unchanged_plain (Text.forall_mem_of_all (by decide))
  have hbody := unchanged_spelledAll h.plain h.dull
  exact hhead.append ((unchanged_plain hname).append
    ((unchanged_plain hgap).append (hbody.append htail)))

theorem stripComments_sheet {sheet : List Rule} (h : ∀ r ∈ sheet, r.WellFormed) :
    stripComments (sheet.flatMap Rule.text) = sheet.flatMap Rule.text :=
  (Unchanged.flatMap fun r hr => (h r hr).unchanged).replaceForms_eq

end ModuleGraph.Stylesheet
