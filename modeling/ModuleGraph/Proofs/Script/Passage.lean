import ModuleGraph.Proofs.Script.Segments

/-! A scan for one clause on its way through a program. In front of a literal it takes the clause that
the literal belongs to, or passes on. Inside a literal it passes on as well, unless the clause catches
the next one. Then it takes what stands between the two, and goes on inside the next literal. -/

namespace ModuleGraph.Script

open Text (isBlank opensWord foundFrom trim)

variable {k : Clause} {gap seg : Text} {p : Piece} {rest ps : List Piece} {l : Literal}
  {before : Option Char} {total : ℕ}

structure Clause.Within (k : Clause) (l : Literal) (seg : Text) : Prop where
  suffix : seg <:+ l.text
  opens : k.Opens seg ↔ k.Opens l.text

theorem Clause.Within.all (k : Clause) (l : Literal) : k.Within l l.text :=
  ⟨List.suffix_rfl, Iff.rfl⟩

theorem Clause.Closes.within {left : Text} (h : k.Closes l.text left) : k.Within l left :=
  ⟨h.suffix, h.opens_iff⟩

def foundWithin (k : Clause) (total : ℕ) (before : Option Char) (seg : Text) (p : Piece)
    (rest : List Piece) : List (ℕ × Text) :=
  foundFrom k.form total before
    (seg ++ p.source.literal.quote :: (p.gap ++ rest.flatMap Piece.spelled))

def foundBefore (k : Clause) (total : ℕ) (before : Option Char) (gap : Text) (ps : List Piece) :
    List (ℕ × Text) :=
  foundFrom k.form total before (gap ++ ps.flatMap Piece.spelled)

theorem foundBefore_own (h : Segmented gap (p :: rest)) (hown : p.source.clause? = some k)
    (hbefore : opensWord before = true)
    (hle : (gap ++ (p :: rest).flatMap Piece.spelled).length ≤ total) :
    ∃ last gap', opensWord last = true ∧ Segmented gap' rest ∧ gap' <:+ p.gap ∧
      foundBefore k total before gap (p :: rest) =
        (total - ((p :: rest).flatMap Piece.spelled).length + 1, p.source.literal.text) ::
          foundBefore k total last gap' rest := by
  have hback := h.no_backtick
  cases h with
  | more hgap hopens hplain hcloses _ hrest =>
    obtain ⟨left, hleft⟩ := hcloses k hown
    rw [spelled_cons] at hback hle
    obtain ⟨last, hlast, hfound⟩ := Clause.foundFrom_of_opens hgap.unquoted hplain.quote hback hle
      hbefore ((hopens k).mpr hown) hplain.unquoted hplain.ne_nil
      (hleft.append (rest.flatMap Piece.spelled))
    have hunmarked : Unmarked left := fun c hc => hrest.unmarked c (hleft.suffix.subset hc)
    refine ⟨last, left, hlast, hrest.congr hunmarked fun _ => hleft.opens_iff, hleft.suffix, ?_⟩
    rw [foundBefore, foundBefore, spelled_cons, hfound]
    congr 2
    simp only [List.length_append, List.length_cons] at hle ⊢
    omega

theorem foundBefore_other (h : Segmented gap (p :: rest)) (hother : p.source.clause? ≠ some k)
    (hbefore : opensWord before = true)
    (hle : (gap ++ (p :: rest).flatMap Piece.spelled).length ≤ total) :
    foundBefore k total before gap (p :: rest) =
      foundWithin k total (some p.source.literal.quote) p.source.literal.text p rest := by
  have hback := h.no_backtick
  cases h with
  | more hgap hopens hplain _ _ _ =>
    rw [spelled_cons] at hback hle
    rw [foundBefore, spelled_cons]
    exact Clause.foundFrom_of_not_opens hgap.unquoted hplain.quote hback hle hbefore
      fun _ _ _ _ _ _ _ hgap => hother ((hopens k).mp hgap)

theorem foundBefore_nil (h : Unmarked gap) (hle : gap.length ≤ total) :
    foundBefore k total before gap [] = [] := by
  rw [foundBefore, List.flatMap_nil, List.append_nil]
  exact Clause.foundFrom_of_unquoted h.unquoted h.no_backtick hle

theorem Clause.Within.suffix_spelled (h : k.Within p.source.literal seg) (rest : List Piece) :
    seg ++ p.source.literal.quote :: (p.gap ++ rest.flatMap Piece.spelled) <:+
      (p :: rest).flatMap Piece.spelled := by
  obtain ⟨read, hread⟩ := h.suffix
  exact ⟨p.source.literal.quote :: read, by rw [spelled_cons, ← hread]; simp⟩

theorem foundWithin_of_catches {next : Piece} (h : Segmented gap (p :: next :: rest))
    (hseg : k.Within p.source.literal seg) (hcatches : k.Catches p.source next.source)
    (hbefore : opensWord before = true)
    (hle : ((p :: next :: rest).flatMap Piece.spelled).length ≤ total) :
    ∃ last left position, opensWord last = true ∧ k.Within next.source.literal left ∧
      foundWithin k total before seg p (next :: rest) =
        (position, p.gap) :: foundWithin k total last left next rest := by
  have hsuffix := hseg.suffix_spelled (next :: rest)
  have hback : '`' ∉ seg ++ p.source.literal.quote :: (p.gap ++ (next :: rest).flatMap Piece.spelled) :=
    fun hmem => h.no_backtick (List.mem_append_right _ (hsuffix.subset hmem))
  have hle := hsuffix.length_le.trans hle
  cases h with
  | more _ _ hplain _ hbetween hrest =>
    have hunquoted : Unquoted seg := fun c hc => hplain.unquoted c (hseg.suffix.subset hc)
    obtain ⟨left, hleft⟩ := hcatches.closes
    rw [spelled_cons, ← hcatches.quote] at hle hback
    obtain ⟨last, hlast, hfound⟩ := Clause.foundFrom_of_opens hunquoted hplain.quote hback hle hbefore
      (hseg.opens.mpr hcatches.opens) hrest.unmarked.unquoted (hbetween next rfl).ne_nil
      (hleft.append (p.source.literal.quote :: (next.gap ++ rest.flatMap Piece.spelled)))
    rw [hcatches.quote] at hfound
    unfold foundWithin
    rw [spelled_cons, hcatches.quote]
    exact ⟨last, left, _, hlast, hleft.within, hfound⟩

theorem foundWithin_of_not_catches (h : Segmented gap (p :: rest))
    (hseg : k.Within p.source.literal seg)
    (hnot : ∀ next ∈ rest.head?, ¬ k.Catches p.source next.source) (hbefore : opensWord before = true)
    (hle : ((p :: rest).flatMap Piece.spelled).length ≤ total) :
    foundWithin k total before seg p rest =
      foundBefore k total (some p.source.literal.quote) p.gap rest := by
  have hsuffix := hseg.suffix_spelled rest
  have hback : '`' ∉ seg ++ p.source.literal.quote :: (p.gap ++ rest.flatMap Piece.spelled) :=
    fun hmem => h.no_backtick (List.mem_append_right _ (hsuffix.subset hmem))
  cases h with
  | more _ _ hplain _ _ hrest =>
    have hunquoted : Unquoted seg := fun c hc => hplain.unquoted c (hseg.suffix.subset hc)
    refine Clause.foundFrom_of_not_opens hunquoted hplain.quote hback (hsuffix.length_le.trans hle)
      hbefore fun body after left heq hbody _ hcloses hopens => ?_
    cases hrest with
    | last hgap =>
      -- no quote follows
      rw [List.flatMap_nil, List.append_nil] at heq
      have hmem : p.source.literal.quote ∈ p.gap := by
        rw [heq]
        simp
      simpa [hplain.quote] using hgap.unquoted _ hmem
    | @more _ next _ hgap _ hnext _ _ _ =>
      rw [spelled_cons] at heq
      obtain ⟨-, hquote, rfl⟩ := first_quote_unique hgap.unquoted hbody hnext.quote hplain.quote heq
      obtain ⟨left', hleft, -⟩ := hcloses.of_append hnext.quote
      exact hnot next rfl ⟨hquote.symm, hseg.opens.mp hopens, left', hleft⟩

def located (n : ℕ) : List Piece → List (ℕ × Source)
  | [] => []
  | p :: rest => (n + 1, p.source) :: located (n + p.spelled.length) rest

def placesOf (clause? : Option Clause) (n : ℕ) (ps : List Piece) : List (ℕ × Text) :=
  ((located n ps).filter fun x => x.2.clause? = clause?).map fun x => (x.1, x.2.literal.text)

theorem placesOf_cons_own {clause? : Option Clause} (h : p.source.clause? = clause?) (n : ℕ)
    (rest : List Piece) : placesOf clause? n (p :: rest) =
      (n + 1, p.source.literal.text) :: placesOf clause? (n + p.spelled.length) rest := by
  simp [placesOf, located, h]

theorem placesOf_cons_other {clause? : Option Clause} (h : p.source.clause? ≠ clause?) (n : ℕ)
    (rest : List Piece) :
    placesOf clause? n (p :: rest) = placesOf clause? (n + p.spelled.length) rest := by
  simp [placesOf, located, h]

def Clause.Clear (k : Clause) (ps : List Piece) : Prop :=
  (ps.map Piece.source).IsChain fun a b => ¬ k.Clashes a b

theorem Clause.Clear.cons (h : k.Clear rest)
    (hnot : ∀ next ∈ rest.head?, ¬ k.Clashes p.source next.source) : k.Clear (p :: rest) := by
  refine List.IsChain.cons h fun b hb => ?_
  rw [List.head?_map, Option.mem_map] at hb
  obtain ⟨next, hnext, rfl⟩ := hb
  exact hnot next hnext

/-- Without a clash, a scan finds the literals of its clause and nothing else. -/
theorem foundBefore_of_clear (h : Segmented gap ps) (hclear : k.Clear ps)
    (hbefore : opensWord before = true) (hle : (gap ++ ps.flatMap Piece.spelled).length ≤ total) :
    foundBefore k total before gap ps =
      placesOf (some k) (total - (ps.flatMap Piece.spelled).length) ps := by
  induction ps generalizing gap before with
  | nil =>
    rw [List.flatMap_nil, List.append_nil] at hle
    exact foundBefore_nil h.unmarked hle
  | cons p rest ih =>
    have hrest : k.Clear rest := List.IsChain.tail hclear
    have hspelled : ((p :: rest).flatMap Piece.spelled).length =
        p.spelled.length + (rest.flatMap Piece.spelled).length := by
      rw [List.flatMap_cons, List.length_append]
    have hlength := hle
    rw [List.length_append, hspelled] at hlength
    have hplace : total - (rest.flatMap Piece.spelled).length =
        total - ((p :: rest).flatMap Piece.spelled).length + p.spelled.length := by
      omega
    by_cases hclause : p.source.clause? = some k
    · obtain ⟨last, gap', hlast, hgap', hsuffix, hfound⟩ := foundBefore_own h hclause hbefore hle
      have hshorter : gap'.length ≤ p.spelled.length := by
        refine hsuffix.length_le.trans ?_
        simp [Piece.spelled, Nat.add_comm]
      rw [hfound, ih hgap' hrest hlast (by rw [List.length_append]; omega), hplace,
        placesOf_cons_own hclause]
    · have hnot : ∀ next ∈ rest.head?, ¬ k.Catches p.source next.source := by
        intro next hnext hcatches
        obtain ⟨more, rfl⟩ := List.head?_eq_some_iff.mp hnext
        exact (List.isChain_cons_cons.mp hclear).1 ⟨hclause, hcatches⟩
      have hgap : p.gap.length ≤ p.spelled.length := by simp [Piece.spelled]
      have hquote := opensWord_of_isQuote h.plain.quote
      rw [foundBefore_other h hclause hbefore hle,
        foundWithin_of_not_catches h (.all k _) hnot hquote (by rw [hspelled]; omega),
        ih h.tail hrest hquote (by rw [List.length_append]; omega), hplace,
        placesOf_cons_other hclause]

/-- The finds of a scan, set against the literals of its clause. All of them count as specifiers. If
none runs over the end of a line, no literal is lost, and none is found beyond the literals only if
`clear` holds. -/
structure Accounted (k : Clause) (found : List (ℕ × Text)) (ps : List Piece) (clear : Prop) : Prop where
  reported : ∀ x ∈ found, Reported x.2
  count_le : (∀ x ∈ found, '\n' ∉ trim x.2) → ps.countP (·.source.clause? = some k) ≤ found.length
  clear : (∀ x ∈ found, '\n' ∉ trim x.2) →
    found.length ≤ ps.countP (·.source.clause? = some k) → clear

theorem Accounted.nil {clear : Prop} (h : clear) : Accounted k [] [] clear :=
  ⟨fun _ hx => by (cases hx), fun _ => Nat.le_refl _, fun _ _ => h⟩

theorem Accounted.own {found : List (ℕ × Text)} {clear clear' : Prop} (h : Accounted k found rest clear)
    (hown : p.source.clause? = some k) (hplain : p.source.literal.Plain) (position : ℕ)
    (hclear : clear → clear') :
    Accounted k ((position, p.source.literal.text) :: found) (p :: rest) clear' := by
  have hcount : (p :: rest).countP (fun x : Piece => decide (x.source.clause? = some k)) =
      rest.countP (fun x : Piece => decide (x.source.clause? = some k)) + 1 :=
    List.countP_cons_of_pos (decide_eq_true hown)
  refine ⟨List.forall_mem_cons.mpr ⟨hplain.reported, h.reported⟩, fun hline => ?_, fun hline hle => ?_⟩
  · rw [hcount]
    exact Nat.succ_le_succ (h.count_le (List.forall_mem_cons.mp hline).2)
  · rw [hcount] at hle
    exact hclear (h.clear (List.forall_mem_cons.mp hline).2 (Nat.le_of_succ_le_succ hle))

theorem Accounted.other {found : List (ℕ × Text)} {clear clear' : Prop}
    (h : Accounted k found rest clear) (hother : p.source.clause? ≠ some k) (hclear : clear → clear') :
    Accounted k found (p :: rest) clear' := by
  have hcount : (p :: rest).countP (fun x : Piece => decide (x.source.clause? = some k)) =
      rest.countP (fun x : Piece => decide (x.source.clause? = some k)) :=
    List.countP_cons_of_neg (by simpa using hother)
  refine ⟨h.reported, fun hline => ?_, fun hline hle => ?_⟩
  · rw [hcount]
    exact h.count_le hline
  · rw [hcount] at hle
    exact hclear (h.clear hline hle)

theorem Accounted.caught {found : List (ℕ × Text)} {clear clear' : Prop}
    (h : Accounted k found rest clear) (hbetween : Between gap p.source) (position : ℕ) :
    Accounted k ((position, gap) :: found) (p :: rest) clear' := by
  have hother : (∀ x ∈ (position, gap) :: found, '\n' ∉ trim x.2) → p.source.clause? ≠ some k := by
    intro hline hown
    rcases hbetween.apart with hbreak | hnone
    · exact hline _ List.mem_cons_self hbreak
    · cases hnone.symm.trans hown
  refine ⟨List.forall_mem_cons.mpr ⟨hbetween.reported, h.reported⟩, fun hline => ?_,
    fun hline hle => ?_⟩
  all_goals
    have hcount := (h.other (hother hline) id).count_le (List.forall_mem_cons.mp hline).2
    rw [List.length_cons] at *
    omega

/-- A scan is accounted for where it goes on in front of a literal, and where it goes on inside of
one. -/
theorem accounted (k : Clause) (total : ℕ) (ps : List Piece) :
    (∀ gap before, Segmented gap ps → opensWord before = true →
      (gap ++ ps.flatMap Piece.spelled).length ≤ total →
      Accounted k (foundBefore k total before gap ps) ps (k.Clear ps)) ∧
    ∀ p gap seg before, Segmented gap (p :: ps) → k.Within p.source.literal seg →
      opensWord before = true → ((p :: ps).flatMap Piece.spelled).length ≤ total →
      Accounted k (foundWithin k total before seg p ps) ps
        ((∀ next ∈ ps.head?, ¬ k.Catches p.source next.source) ∧ k.Clear ps) := by
  induction ps with
  | nil =>
    have hbefore : ∀ gap before, Segmented gap [] → gap.length ≤ total →
        foundBefore k total before gap [] = [] := fun _ _ hgap hle => foundBefore_nil hgap.unmarked hle
    have hnone : ∀ p : Piece, ∀ next ∈ ([] : List Piece).head?, ¬ k.Catches p.source next.source := by
      intro p next hnext
      cases hnext
    refine ⟨fun gap before hgap _ hle => ?_, fun p gap seg before hgap hseg hopens hle => ?_⟩
    · rw [List.flatMap_nil, List.append_nil] at hle
      rw [hbefore gap before hgap hle]
      exact .nil .nil
    · have hshort : p.gap.length ≤ total := by
        rw [List.flatMap_singleton, Piece.spelled, List.length_append] at hle
        omega
      rw [foundWithin_of_not_catches hgap hseg (hnone p) hopens hle, hbefore _ _ hgap.tail hshort]
      exact .nil ⟨hnone p, .nil⟩
  | cons next rest ih =>
    obtain ⟨ihbefore, ihwithin⟩ := ih
    have hbefore : ∀ gap before, Segmented gap (next :: rest) → opensWord before = true →
        (gap ++ (next :: rest).flatMap Piece.spelled).length ≤ total →
        Accounted k (foundBefore k total before gap (next :: rest)) (next :: rest)
          (k.Clear (next :: rest)) := by
      intro gap before hgap hopens hle
      by_cases hclause : next.source.clause? = some k
      · obtain ⟨last, gap', hlast, hgap', hsuffix, hfound⟩ := foundBefore_own hgap hclause hopens hle
        have hshort : (gap' ++ rest.flatMap Piece.spelled).length ≤ total := by
          have hlength := hsuffix.length_le
          rw [spelled_cons] at hle
          simp only [List.length_append, List.length_cons] at hle ⊢
          omega
        rw [hfound]
        exact (ihbefore gap' last hgap' hlast hshort).own hclause hgap.plain _ fun hclear =>
          hclear.cons fun _ _ hclash => hclash.1 hclause
      · rw [foundBefore_other hgap hclause hopens hle]
        have hshort : ((next :: rest).flatMap Piece.spelled).length ≤ total := by
          rw [List.length_append] at hle
          omega
        have hquote := opensWord_of_isQuote hgap.plain.quote
        exact (ihwithin next gap _ _ hgap (.all k _) hquote hshort).other hclause fun hclear =>
          hclear.2.cons fun x hx hclash => hclear.1 x hx hclash.2
    refine ⟨hbefore, fun p gap seg before hgap hseg hopens hle => ?_⟩
    have hshort : ((next :: rest).flatMap Piece.spelled).length ≤ total := by
      rw [List.flatMap_cons, List.length_append] at hle
      omega
    by_cases hcatches : k.Catches p.source next.source
    · obtain ⟨last, left, position, hlast, hleft, hfound⟩ :=
        foundWithin_of_catches hgap hseg hcatches hopens hle
      rw [hfound]
      exact (ihwithin next p.gap left last hgap.tail hleft hlast hshort).caught
        (hgap.between next rfl) position
    · have hnot : ∀ x ∈ (next :: rest).head?, ¬ k.Catches p.source x.source := by
        intro x hx
        obtain rfl := Option.some.inj hx
        exact hcatches
      have hlength : (p.gap ++ (next :: rest).flatMap Piece.spelled).length ≤ total := by
        rw [spelled_cons] at hle
        simp only [List.length_append, List.length_cons] at hle ⊢
        omega
      rw [foundWithin_of_not_catches hgap hseg hnot hopens hle]
      have hfound := hbefore p.gap _ hgap.tail (opensWord_of_isQuote hgap.plain.quote) hlength
      exact ⟨hfound.reported, hfound.count_le, fun hline hcount => ⟨hnot, hfound.clear hline hcount⟩⟩

end ModuleGraph.Script
