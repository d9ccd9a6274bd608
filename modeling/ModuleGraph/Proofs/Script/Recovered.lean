import Mathlib.Data.List.Nodup
import ModuleGraph.Proofs.Script.Items
import ModuleGraph.Proofs.Sorted

/-! What is extracted from a program. If no literal clashes with the next one, the five scans share out
the literals, and their places put them back in order. A clash adds a find that is no literal, or one
that runs over the end of a line. -/

namespace ModuleGraph.Script

open Text (isBlank opensWord foundFrom found joined trim)

variable {st : Statement} {program : List Statement} {ps : List Piece} {k : Clause} {n : ℕ}
  {source : Text} {includeCore skipPlugins : Bool}

theorem lt_of_mem_located {x : ℕ × Source} (h : x ∈ located n ps) : n < x.1 := by
  induction ps generalizing n with
  | nil => cases h
  | cons p rest ih =>
    rcases List.mem_cons.mp h with rfl | h
    · exact Nat.lt_succ_self n
    · exact Nat.lt_of_le_of_lt (Nat.le_add_right n _) (ih h)

theorem pairwise_located (n : ℕ) (ps : List Piece) :
    (located n ps).Pairwise fun a b => a.1 < b.1 := by
  induction ps generalizing n with
  | nil => exact .nil
  | cons p rest ih =>
    refine List.pairwise_cons.mpr ⟨fun x hx => ?_, ih _⟩
    have hlength : 0 < p.spelled.length := by simp [Piece.spelled, Literal.spelled]
    have hlt := lt_of_mem_located hx
    dsimp only
    omega

theorem map_snd_located (n : ℕ) (ps : List Piece) :
    (located n ps).map Prod.snd = ps.map Piece.source := by
  induction ps generalizing n with
  | nil => rfl
  | cons p rest ih => rw [located, List.map_cons, ih, List.map_cons]

theorem perm_filters {α : Type} [DecidableEq α] (f : α → Option Clause) (l : List α) :
    (l.filter (fun x => f x = some .requireCall) ++ l.filter (fun x => f x = some .declaration) ++
      l.filter (fun x => f x = some .bareImport) ++ l.filter (fun x => f x = some .importCall) ++
      l.filter fun x => f x = none).Perm l := by
  refine List.perm_iff_count.mpr fun a => ?_
  have hcount : ∀ c, (l.filter fun x => f x = c).count a = if f a = c then l.count a else 0 := by
    intro c
    split
    · next hc => exact List.count_filter (decide_eq_true hc)
    · next hc => exact List.count_eq_zero_of_not_mem (by simp [hc])
  simp only [List.count_append, hcount]
  cases f a with
  | none => simp
  | some k => cases k <;> simp

theorem perm_placesOf (n : ℕ) (ps : List Piece) :
    (placesOf (some .requireCall) n ps ++ placesOf (some .declaration) n ps ++
      placesOf (some .bareImport) n ps ++ placesOf (some .importCall) n ps ++ placesOf none n ps).Perm
      ((located n ps).map fun x => (x.1, x.2.literal.text)) := by
  simp only [placesOf, ← List.map_append]
  exact (perm_filters (fun x : ℕ × Source => x.2.clause?) (located n ps)).map _

theorem length_placesOf (clause? : Option Clause) (n : ℕ) (ps : List Piece) :
    (placesOf clause? n ps).length = ps.countP (·.source.clause? = clause?) := by
  induction ps generalizing n with
  | nil => rfl
  | cons p rest ih =>
    by_cases h : p.source.clause? = clause?
    · rw [placesOf_cons_own h, List.length_cons, ih]
      simp [h]
    · rw [placesOf_cons_other h, ih]
      simp [h]

theorem mergeSort_places {l l' : List (ℕ × Text)} (hperm : l.Perm l')
    (h : l'.Pairwise fun a b => a.1 < b.1) : l.mergeSort (fun a b => a.1 ≤ b.1) = l' := by
  refine mergeSort_eq_of_perm ?_ ?_ ?_ ?_ hperm h
  · intro a b c hab hbc
    simp only [decide_eq_true_eq] at hab hbc ⊢
    exact Nat.le_trans hab hbc
  · intro a b
    simp only [Bool.or_eq_true, decide_eq_true_eq]
    exact Nat.le_total _ _
  · exact fun a b hab => decide_eq_true hab.le
  · exact fun a b hab hba => Nat.not_le_of_lt hab (of_decide_eq_true hba)

theorem specifiers_of_reported (h : ∀ x ∈ references (stripComments source), Reported x.2)
    (includeCore skipPlugins : Bool) : specifiers source includeCore skipPlugins =
      ((references (stripComments source)).mergeSort fun a b => a.1 ≤ b.1).map fun x => trim x.2 := by
  refine List.filter_eq_self.mpr fun spec hspec => ?_
  obtain ⟨x, hx, rfl⟩ := List.mem_map.mp hspec
  have hreported := h x (List.mem_mergeSort.mp hx)
  simp [hreported.ne_nil, hreported.no_plugin, hreported.foreign]

def finds (k : Clause) (program : List Statement) : List (ℕ × Text) :=
  foundBefore k (program.flatMap Statement.text).length none (cut program).1 (cut program).2

def places (clause? : Option Clause) (program : List Statement) : List (ℕ × Text) :=
  placesOf clause? (cut program).1.length (cut program).2

theorem length_text_sub_spelled (program : List Statement) :
    (program.flatMap Statement.text).length - ((cut program).2.flatMap Piece.spelled).length =
      (cut program).1.length := by
  rw [text_eq_cut, List.length_append, Nat.add_sub_cancel]

theorem references_program (h : ∀ st ∈ program, st.WellFormed) :
    references (stripComments (program.flatMap Statement.text)) =
      finds .requireCall program ++ finds .declaration program ++ finds .bareImport program ++
        finds .importCall program ++ places none program := by
  have hcommentless : Commentless (program.flatMap Statement.text) := by
    rw [text_eq_cut]
    exact (segmented_cut h).commentless
  have harrays : arrayItems (found arrayForm (program.flatMap Statement.text)) =
      placesOf none ((program.flatMap Statement.text).length -
        ((cut program).2.flatMap Piece.spelled).length) (cut program).2 := by
    rw [Text.found_eq_foundFrom]
    exact arrayItems_program h rfl (Nat.le_refl _)
  have hfinds : ∀ k : Clause, found k.form (program.flatMap Statement.text) = finds k program := by
    intro k
    rw [Text.found_eq_foundFrom, finds, foundBefore, ← text_eq_cut]
  rw [stripComments_eq_self hcommentless, places, ← length_text_sub_spelled, ← harrays, ← hfinds,
    ← hfinds, ← hfinds, ← hfinds]
  rfl

theorem accounted_finds (h : ∀ st ∈ program, st.WellFormed) (k : Clause) :
    Accounted k (finds k program) (cut program).2 (k.Clear (cut program).2) :=
  (accounted k _ (cut program).2).1 _ none (segmented_cut h) rfl (by rw [← text_eq_cut])

theorem finds_of_clear (h : ∀ st ∈ program, st.WellFormed) (hclear : k.Clear (cut program).2) :
    finds k program = places (some k) program := by
  rw [finds, foundBefore_of_clear (segmented_cut h) hclear rfl (by rw [← text_eq_cut]),
    length_text_sub_spelled, places]

theorem plain_of_mem_cut (h : ∀ st ∈ program, st.WellFormed) :
    ∀ p ∈ (cut program).2, p.source.literal.Plain := by
  intro p hp
  have hsource := List.mem_map_of_mem (f := Piece.source) hp
  rw [map_source_cut] at hsource
  obtain ⟨st, hst, hsources⟩ := List.mem_flatMap.mp hsource
  obtain ⟨l, hl, heq⟩ := List.mem_map.mp hsources
  rw [← heq]
  exact (h st hst).literals l hl

theorem exists_of_mem_placesOf {clause? : Option Clause} {x : ℕ × Text}
    (h : x ∈ placesOf clause? n ps) : ∃ p ∈ ps, x.2 = p.source.literal.text := by
  obtain ⟨y, hy, rfl⟩ := List.mem_map.mp h
  have hsource := List.mem_map_of_mem (f := Prod.snd) (List.mem_filter.mp hy).1
  rw [map_snd_located] at hsource
  obtain ⟨p, hp, heq⟩ := List.mem_map.mp hsource
  exact ⟨p, hp, by rw [heq]⟩

theorem reported_references (h : ∀ st ∈ program, st.WellFormed) :
    ∀ x ∈ references (stripComments (program.flatMap Statement.text)), Reported x.2 := by
  intro x hx
  simp only [references_program h, List.mem_append] at hx
  rcases hx with (((hx | hx) | hx) | hx) | hx
  · exact (accounted_finds h _).reported x hx
  · exact (accounted_finds h _).reported x hx
  · exact (accounted_finds h _).reported x hx
  · exact (accounted_finds h _).reported x hx
  · obtain ⟨p, hp, heq⟩ := exists_of_mem_placesOf hx
    rw [heq]
    exact (plain_of_mem_cut h p hp).reported

theorem map_text_cut (program : List Statement) :
    (cut program).2.map (·.source.literal.text) =
      program.flatMap fun st => st.literals.map Literal.text := by
  have hmap := congrArg (List.map fun s : Source => s.literal.text) (map_source_cut program)
  rw [List.map_map, List.map_flatMap] at hmap
  refine hmap.trans (List.flatMap_congr fun st _ => ?_)
  rw [Statement.sources, List.map_map]
  rfl

theorem specifiers_of_clear (h : ∀ st ∈ program, st.WellFormed)
    (hclear : ∀ k : Clause, k.Clear (cut program).2) (includeCore skipPlugins : Bool) :
    specifiers (program.flatMap Statement.text) includeCore skipPlugins =
      program.flatMap fun st => st.literals.map Literal.text := by
  have hperm := perm_placesOf (cut program).1.length (cut program).2
  have hsorted : ((located (cut program).1.length (cut program).2).map fun x =>
      (x.1, x.2.literal.text)).Pairwise fun a b => a.1 < b.1 :=
    List.pairwise_map.mpr (pairwise_located _ _)
  have htrim : ∀ p ∈ (cut program).2, trim p.source.literal.text = p.source.literal.text :=
    fun p hp => (plain_of_mem_cut h p hp).trimmed
  rw [specifiers_of_reported (reported_references h), references_program h, finds_of_clear h (hclear _),
    finds_of_clear h (hclear _), finds_of_clear h (hclear _), finds_of_clear h (hclear _)]
  rw [places, places, places, places, places, mergeSort_places hperm hsorted, List.map_map,
    ← map_text_cut, ← List.map_congr_left htrim]
  have hsources := congrArg (List.map fun s : Source => trim s.literal.text)
    (map_snd_located (cut program).1.length (cut program).2)
  rw [List.map_map, List.map_map] at hsources
  exact hsources

theorem clear_of_specifiers (h : ∀ st ∈ program, st.WellFormed)
    (hspec : specifiers (program.flatMap Statement.text) includeCore skipPlugins =
      program.flatMap fun st => st.literals.map Literal.text) (k : Clause) :
    k.Clear (cut program).2 := by
  rw [specifiers_of_reported (reported_references h), ← map_text_cut] at hspec
  have hline : ∀ x ∈ references (stripComments (program.flatMap Statement.text)), '\n' ∉ trim x.2 := by
    intro x hx
    have hmem : trim x.2 ∈ (cut program).2.map (·.source.literal.text) := by
      rw [← hspec]
      exact List.mem_map.mpr ⟨x, List.mem_mergeSort.mpr hx, rfl⟩
    obtain ⟨p, hp, heq⟩ := List.mem_map.mp hmem
    rw [← heq]
    exact fun hbreak => (plain_of_mem_cut h p hp).allowed _ hbreak (by decide)
  have hlength := congrArg List.length hspec
  have hcount := (perm_placesOf (cut program).1.length (cut program).2).length_eq
  rw [List.length_map, List.length_mergeSort] at hlength
  rw [references_program h] at hlength hline
  have hlocated := congrArg List.length (map_snd_located (cut program).1.length (cut program).2)
  simp only [List.length_append, List.length_map, length_placesOf, places] at hlength hcount hlocated
  simp only [List.mem_append] at hline
  have hfinds := fun k => accounted_finds h k
  have hrequire := (hfinds .requireCall).count_le fun x hx => hline x (by simp [hx])
  have hdeclaration := (hfinds .declaration).count_le fun x hx => hline x (by simp [hx])
  have hbare := (hfinds .bareImport).count_le fun x hx => hline x (by simp [hx])
  have himport := (hfinds .importCall).count_le fun x hx => hline x (by simp [hx])
  cases k with
  | requireCall | importCall | declaration | bareImport =>
    exact (hfinds _).clear (fun x hx => hline x (by simp [hx])) (by omega)

theorem clear_iff_isChain : (∀ k : Clause, k.Clear (cut program).2) ↔
    (program.flatMap Statement.sources).IsChain fun a b => ¬ Clash a b := by
  simp only [Clause.Clear, map_source_cut, List.isChain_iff_getElem, Clash, not_exists]
  exact ⟨fun h i hi k => h k i hi, fun h k i hi => h i hi k⟩

/-- Exactly the literals of a program are extracted from it, in their order, if and only if none of
them clashes with the next one. -/
theorem specifiers_of_program_iff (program : List Statement) (h : ∀ st ∈ program, st.WellFormed)
    (includeCore skipPlugins : Bool) :
    specifiers (program.flatMap Statement.text) includeCore skipPlugins =
        (program.flatMap fun st => st.literals.map Literal.text) ↔
      (program.flatMap Statement.sources).IsChain fun a b => ¬ Clash a b := by
  rw [← clear_iff_isChain]
  exact ⟨clear_of_specifiers h, fun hclear => specifiers_of_clear h hclear includeCore skipPlugins⟩

theorem specifiers_of_program_in_changing_quotes :
    let program : List Statement := [.requireCall ⟨'\'', "./import".toList⟩,
      .define [⟨'"', "x//y".toList⟩, ⟨'"', "z".toList⟩] "f".toList, .exportAll ⟨'\'', "./from".toList⟩]
    (∀ st ∈ program, st.WellFormed) ∧ specifiers (program.flatMap Statement.text) false true =
      ["./import".toList, "x//y".toList, "z".toList, "./from".toList] := by
  intro program
  have hformed : ∀ st ∈ program, st.WellFormed := by decide +kernel
  refine ⟨hformed, (specifiers_of_program_iff program hformed false true).mpr ?_⟩
  have hquote : ∀ {a b : Source}, a.literal.quote ≠ b.literal.quote → ¬ Clash a b :=
    fun hne ⟨_, _, hcatches⟩ => hne hcatches.quote
  have hlast : ∀ b : Source, ¬ Clash ⟨none, ⟨'"', "x//y".toList⟩⟩ b := by
    rintro b ⟨k, -, hcatches⟩
    have hsolid : "x//y".toList.reverse.find? (fun x => !isBlank x) = some 'y' := by decide +kernel
    cases k <;> cases hsolid.symm.trans hcatches.opens.lastSolid
  refine .cons_cons (hquote (by decide)) (.cons_cons (hlast _) (.cons_cons (hquote (by decide)) ?_))
  exact .singleton _

/-- A literal that ends in a word of a clause is read as the beginning of one. -/
theorem specifiers_of_program_with_import_in_literal :
    let program : List Statement :=
      [.requireCall ⟨'\'', "./import".toList⟩, .bareImport ⟨'\'', "./b".toList⟩]
    (∀ st ∈ program, st.WellFormed) ∧
      specifiers (program.flatMap Statement.text) false true =
        ["./import".toList, ");\nimport".toList] ∧
      specifiers (program.flatMap Statement.text) false true ≠
        program.flatMap fun st => st.literals.map Literal.text := by
  intro program
  have hformed : ∀ st ∈ program, st.WellFormed := by decide +kernel
  have hreferences : references (stripComments (program.flatMap Statement.text)) =
      [(9, "./import".toList), (18, ");\nimport ".toList)] := by
    decide +kernel
  have hfound : specifiers (program.flatMap Statement.text) false true =
      ["./import".toList, ");\nimport".toList] := by
    rw [specifiers, hreferences, mergeSort_places (List.Perm.refl _) (by decide)]
    decide +kernel
  refine ⟨hformed, hfound, ?_⟩
  rw [hfound]
  decide +kernel

end ModuleGraph.Script
