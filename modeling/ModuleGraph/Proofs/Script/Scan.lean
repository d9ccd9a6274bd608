import ModuleGraph.Proofs.Script.Clause

/-! Scans for clauses. A scan goes from quote to quote: what stands before a quote either ends in the
head of a clause, and then what follows up to the next quote is taken for its literal if both quotes
are the same, or it is passed over. -/

namespace ModuleGraph.Script

open Text (Hit Form Blanks isBlank opensWord closesWord foundFrom)

variable {k : Clause} {seg body after left rest g s t : Text} {q : Char} {before : Option Char}
  {total : ℕ}

theorem opensWord_of_isQuote (h : isQuote q = true) : opensWord (some q) = true := by
  rcases isQuote_iff.mp h with rfl | rfl <;> decide

namespace Clause

def Opens (k : Clause) (s : Text) : Prop :=
  ∃ u head, s = u ++ head ∧ k.Head head ∧ opensWord u.getLast? = true

theorem Head.exists_first (h : k.Head t) : ∃ c rest, t = c :: rest ∧ (c = 'r' ∨ c = 'i' ∨ c = 'e') := by
  cases k with
  | requireCall | importCall =>
    obtain ⟨b, b', -, -, rfl⟩ := h
    exact ⟨_, _, rfl, by decide⟩
  | declaration =>
    obtain ⟨word, middle, b, rfl | rfl, -, -, -, -, -, rfl⟩ := h
    · exact ⟨_, _, rfl, by decide⟩
    · exact ⟨_, _, rfl, by decide⟩
  | bareImport =>
    obtain ⟨b, -, rfl⟩ := h
    exact ⟨_, _, rfl, by decide⟩

theorem Head.ne_nil (h : k.Head t) : t ≠ [] := by
  obtain ⟨c, rest, rfl, -⟩ := h.exists_first
  exact List.cons_ne_nil c rest

theorem Head.unbroken (h : k.Head t) : Unbroken t := by
  have hblank : ∀ {b : Text}, Blanks b → Unbroken b := by
    refine fun hb c hc => ⟨unquoted_of_blanks hb c hc, ?_⟩
    rintro rfl
    exact absurd (hb _ hc) (by decide)
  have hcall : ∀ {word : Text}, Unbroken word → CallHead word t → Unbroken t := by
    rintro word hword ⟨b, b', hb, hb', rfl⟩ c hc
    rw [List.mem_append, List.mem_append, List.mem_cons] at hc
    rcases hc with (hc | hc) | rfl | hc
    · exact hword c hc
    · exact hblank hb c hc
    · decide
    · exact hblank hb' c hc
  have himport : Unbroken "import".toList := by decide
  cases k with
  | requireCall => exact hcall (by decide) h
  | importCall => exact hcall himport h
  | declaration =>
    obtain ⟨word, middle, b, hword, -, -, -, hmiddle, hb, rfl⟩ := h
    have hexport : Unbroken "export".toList := by decide
    have hfrom : Unbroken "from".toList := by decide
    intro c hc
    rw [List.mem_append, List.mem_append, List.mem_append] at hc
    rcases hc with ((hc | hc) | hc) | hc
    · rcases hword with rfl | rfl
      · exact himport c hc
      · exact hexport c hc
    · exact hmiddle c hc
    · exact hfrom c hc
    · exact hblank hb c hc
  | bareImport =>
    obtain ⟨b, hb, rfl⟩ := h
    intro c hc
    rcases List.mem_append.mp hc with hc | hc
    · exact himport c hc
    · exact hblank hb c hc

theorem Head.unquoted (h : k.Head t) : Unquoted t := fun c hc => (h.unbroken c hc).1

theorem Closes.bracket_or_eq (h : k.Closes after left) :
    (∃ b, Blanks b ∧ after = b ++ ')' :: left) ∨ left = after := by
  cases k with
  | requireCall | importCall => exact Or.inl h
  | declaration | bareImport => exact Or.inr h

theorem Closes.exists_last (hq : isQuote q = true) (h : k.Closes after left) :
    ∃ read c, q :: after = read ++ c :: left ∧ opensWord (some c) = true := by
  rcases h.bracket_or_eq with ⟨b, -, rfl⟩ | rfl
  · exact ⟨q :: b, ')', rfl, by decide⟩
  · exact ⟨[], q, rfl, opensWord_of_isQuote hq⟩

theorem opensWord_of_getLast? (u : Text) (h : opensWord before = true) :
    opensWord (u.getLast?.or before) = opensWord u.getLast? := by
  cases u.getLast? <;> [exact h; rfl]

theorem head_of_form {hit : Hit} (ht : Unquoted t) (hq : isQuote q = true)
    (hback : '`' ∉ t ++ q :: rest) (h : k.form before (t ++ q :: rest) = some hit) :
    opensWord before = true ∧ k.Head t ∧ ∃ body after left, rest = body ++ q :: after ∧
      Unquoted body ∧ body ≠ [] ∧ k.Closes after left := by
  obtain ⟨hopens, head, q', body, after, left, hs, hhead, hq', hbody, hne, hcloses, -⟩ :=
    (k.form_eq_some_iff hback).mp h
  obtain ⟨rfl, rfl, rfl⟩ := first_quote_unique ht hhead.unquoted hq hq' hs
  exact ⟨hopens, hhead, body, after, left, rfl, hbody, hne, hcloses⟩

theorem form_of_unquoted (h : Unquoted t) (hback : '`' ∉ t) (before : Option Char) :
    k.form before t = none := by
  rw [Option.eq_none_iff_forall_ne_some]
  intro hit hhit
  obtain ⟨-, head, q, body, after, left, rfl, -, hq, -⟩ := (k.form_eq_some_iff hback).mp hhit
  simp [h q (by simp)] at hq

theorem foundFrom_of_unquoted (h : Unquoted s) (hback : '`' ∉ s) (hle : s.length ≤ total) :
    foundFrom k.form total before s = [] := by
  have hpassed : foundFrom k.form total before (s ++ []) =
      foundFrom k.form total (s.getLast?.or before) [] := by
    refine Text.foundFrom_append_of_none (fun u c t hs => ?_) (by simpa using hle)
    rw [List.append_nil]
    have hsuffix : c :: t <:+ s := ⟨u, hs.symm⟩
    exact form_of_unquoted (fun x hx => h x (hsuffix.subset hx))
      (fun hmem => hback (hsuffix.subset hmem)) _
  rw [List.append_nil] at hpassed
  exact hpassed

/-- What stands before a quote is passed over, unless it ends in a head and a literal follows. -/
theorem foundFrom_of_not_opens (hseg : Unquoted seg) (hq : isQuote q = true)
    (hback : '`' ∉ seg ++ q :: rest) (hle : (seg ++ q :: rest).length ≤ total)
    (hbefore : opensWord before = true)
    (hnot : ∀ body after left, rest = body ++ q :: after → Unquoted body → body ≠ [] →
      k.Closes after left → ¬ k.Opens seg) :
    foundFrom k.form total before (seg ++ q :: rest) = foundFrom k.form total (some q) rest := by
  have hpassed : foundFrom k.form total before (seg ++ [q] ++ rest) =
      foundFrom k.form total ((seg ++ [q]).getLast?.or before) rest := by
    refine Text.foundFrom_append_of_none (fun u c t hs => ?_) (by simpa using hle)
    rw [Option.eq_none_iff_forall_ne_some]
    intro hit hhit
    rcases List.eq_nil_or_concat t with rfl | ⟨t, x, rfl⟩
    · -- at the quote itself no head begins
      obtain ⟨rfl, hx⟩ := List.append_inj' hs rfl
      obtain rfl : q = c := by simpa using hx
      obtain ⟨-, hhead, -⟩ := head_of_form (t := []) (by simp [Unquoted]) hq
        (fun hmem => hback (List.mem_append_right _ hmem)) hhit
      exact hhead.ne_nil rfl
    · rw [List.concat_eq_append, ← List.cons_append, ← List.append_assoc] at hs
      obtain ⟨rfl, hx⟩ := List.append_inj' hs rfl
      obtain rfl : q = x := by simpa using hx
      have hhit : k.form (u.getLast?.or before) (c :: t ++ q :: rest) = some hit := by
        simpa using hhit
      have hseg' := (unquoted_append.mp hseg).2
      obtain ⟨hword, hhead, body, after, left, rfl, hbody, hne, hcloses⟩ := head_of_form hseg' hq
        (fun hmem => hback (by rw [List.append_assoc]; exact List.mem_append_right _ hmem)) hhit
      rw [opensWord_of_getLast? u hbefore] at hword
      exact hnot body after left rfl hbody hne hcloses ⟨u, _, rfl, hhead, hword⟩
  rw [List.getLast?_concat, Option.some_or, List.append_assoc] at hpassed
  exact hpassed

theorem foundFrom_of_opens (hseg : Unquoted seg) (hq : isQuote q = true)
    (hback : '`' ∉ seg ++ q :: (body ++ q :: after))
    (hle : (seg ++ q :: (body ++ q :: after)).length ≤ total) (hbefore : opensWord before = true)
    (hopens : k.Opens seg) (hbody : Unquoted body) (hne : body ≠ []) (hcloses : k.Closes after left) :
    ∃ last, opensWord last = true ∧
      foundFrom k.form total before (seg ++ q :: (body ++ q :: after)) =
        (total - (body ++ q :: after).length, body) :: foundFrom k.form total last left := by
  have hfrom : ∀ before, (∃ u head, seg = u ++ head ∧ k.Head head ∧
      opensWord (u.getLast?.or before) = true) → ∃ last, opensWord last = true ∧
      foundFrom k.form total before (seg ++ q :: (body ++ q :: after)) =
        (total - (body ++ q :: after).length, body) :: foundFrom k.form total last left := by
    clear hopens hbefore
    induction seg with
    | nil =>
      rintro before ⟨u, head, hs, hhead, -⟩
      exact absurd (List.append_eq_nil_iff.mp hs.symm).2 hhead.ne_nil
    | cons c seg ih =>
      rintro before ⟨u, head, hs, hhead, hword⟩
      cases hform : k.form before (c :: seg ++ q :: (body ++ q :: after)) with
      | some hit =>
        obtain ⟨hword, hhead, -⟩ := head_of_form hseg hq hback hform
        have hform := (k.form_eq_some_iff hback).mpr ⟨hword, c :: seg, q, body, after, left, rfl,
          hhead, hq, hbody, hne, hcloses, rfl⟩
        obtain ⟨read, last, hread, hlast⟩ := hcloses.exists_last hq
        have hs : c :: seg ++ q :: (body ++ q :: after) =
            (c :: seg ++ q :: body ++ read) ++ last :: left := by
          rw [hread]
          simp
        refine ⟨some last, hlast, Text.foundFrom_of_hit hs ?_ hform hle⟩
        simp only [List.length_append, List.length_cons]
        omega
      | none =>
        cases u with
        | nil =>
          obtain rfl : c :: seg = head := hs
          rw [List.getLast?_nil, Option.none_or] at hword
          cases hform.symm.trans ((k.form_eq_some_iff hback).mpr ⟨hword, c :: seg, q, body, after,
            left, rfl, hhead, hq, hbody, hne, hcloses, rfl⟩)
        | cons y u =>
          obtain ⟨rfl, rfl⟩ := List.cons.inj hs
          rw [Text.getLast?_cons_or] at hword
          rw [List.cons_append] at hback hle hform ⊢
          rw [Text.foundFrom_cons_of_none hform hle]
          exact ih (List.forall_mem_cons.mp hseg).2 (fun hmem => hback (List.mem_cons_of_mem _ hmem))
            (Nat.le_of_succ_le hle) (some c) ⟨u, head, rfl, hhead, hword⟩
  obtain ⟨u, head, hs, hhead, hword⟩ := hopens
  exact hfrom before ⟨u, head, hs, hhead, by rwa [opensWord_of_getLast? u hbefore]⟩

theorem opens_append_iff {part : Text} (hlast : opensWord part.getLast? = true)
    (hpart : ∀ u c t, part = u ++ c :: t → ¬ k.Head (c :: t ++ g)) :
    k.Opens (part ++ g) ↔ k.Opens g := by
  constructor
  · rintro ⟨u, head, hs, hhead, hword⟩
    rcases List.append_eq_append_iff.mp hs with ⟨u', rfl, rfl⟩ | ⟨t, rfl, rfl⟩
    · refine ⟨u', head, rfl, hhead, ?_⟩
      rwa [List.getLast?_append, opensWord_of_getLast? u' hlast] at hword
    · cases t with
      | nil => exact ⟨[], g, rfl, hhead, rfl⟩
      | cons c t => exact absurd hhead (hpart u c t rfl)
  · rintro ⟨u, head, rfl, hhead, hword⟩
    refine ⟨part ++ u, head, (List.append_assoc ..).symm, hhead, ?_⟩
    rwa [List.getLast?_append, opensWord_of_getLast? u hlast]

theorem Closes.suffix (h : k.Closes after left) : left <:+ after := by
  rcases h.bracket_or_eq with ⟨b, -, rfl⟩ | rfl
  · exact ⟨b ++ [')'], by simp⟩
  · exact List.suffix_rfl

theorem Closes.opens_iff {k' : Clause} (h : k.Closes after left) : k'.Opens left ↔ k'.Opens after := by
  rcases h.bracket_or_eq with ⟨b, hb, rfl⟩ | rfl
  · rw [List.append_cons]
    refine (opens_append_iff (by rw [List.getLast?_concat]; decide) fun u c t hpart hhead => ?_).symm
    obtain ⟨x, rest, hcons, hx⟩ := hhead.exists_first
    obtain ⟨rfl, -⟩ := List.cons.inj hcons
    have hmem : c ∈ b ++ [')'] := hpart ▸ List.mem_append_right u List.mem_cons_self
    rcases List.mem_append.mp hmem with hmem | hmem
    · have hblank := hb c hmem
      rcases hx with rfl | rfl | rfl <;> exact absurd hblank (by decide)
    · obtain rfl := List.mem_singleton.mp hmem
      exact absurd hx (by decide)
  · exact Iff.rfl

theorem opens_behind_line {line : Text} (hline : [';', '\n'] <:+ line) :
    k.Opens (line ++ g) ↔ k.Opens g := by
  obtain ⟨a, rfl⟩ := hline
  have hlast : opensWord (a ++ [';', '\n']).getLast? = true := by
    rw [List.getLast?_append]
    show opensWord (some '\n') = true
    decide
  refine opens_append_iff hlast fun u c t hpart hhead => ?_
  rcases List.suffix_or_suffix_of_suffix (⟨a, rfl⟩ : [';', '\n'] <:+ a ++ [';', '\n'])
    ⟨u, hpart.symm⟩ with hsuffix | hsuffix
  · exact (hhead.unbroken ';' (List.mem_append_left g (hsuffix.subset List.mem_cons_self))).2 rfl
  · obtain ⟨x, rest, hcons, hx⟩ := hhead.exists_first
    obtain ⟨rfl, -⟩ := List.cons.inj hcons
    have hmem : c ∈ [';', '\n'] := hsuffix.subset List.mem_cons_self
    revert hx
    simp only [List.mem_cons, List.not_mem_nil, or_false] at hmem
    rcases hmem with rfl | rfl <;> decide

theorem Closes.append (h : k.Closes after left) (rest : Text) :
    k.Closes (after ++ rest) (left ++ rest) := by
  cases k with
  | requireCall | importCall =>
    obtain ⟨b, hb, rfl⟩ := h
    exact ⟨b, hb, by simp⟩
  | declaration | bareImport =>
    obtain rfl := h
    rfl

theorem Closes.of_append (hq : isQuote q = true) (h : k.Closes (s ++ q :: rest) left) :
    ∃ left', k.Closes s left' ∧ left = left' ++ q :: rest := by
  have hcall : (∃ b, Blanks b ∧ s ++ q :: rest = b ++ ')' :: left) →
      ∃ left', (∃ b, Blanks b ∧ s = b ++ ')' :: left') ∧ left = left' ++ q :: rest := by
    rintro ⟨b, hb, hs⟩
    rcases List.append_eq_append_iff.mp hs with ⟨t, rfl, hrest⟩ | ⟨t, rfl, hleft⟩
    · -- the quote would stand among the blanks
      cases t with
      | nil =>
        obtain ⟨rfl, -⟩ := List.cons.inj hrest
        exact absurd hq (by decide)
      | cons x t =>
        obtain ⟨rfl, -⟩ := List.cons.inj hrest
        cases (hb q (by simp)).symm.trans (isBlank_eq_false_of_isQuote hq)
    · cases t with
      | nil =>
        obtain ⟨rfl, -⟩ := List.cons.inj hleft
        exact absurd hq (by decide)
      | cons x t =>
        obtain ⟨rfl, rfl⟩ := List.cons.inj hleft
        exact ⟨t, ⟨b, hb, rfl⟩, rfl⟩
  cases k with
  | requireCall | importCall => exact hcall h
  | declaration | bareImport => exact ⟨s, rfl, h⟩

end Clause

end ModuleGraph.Script
