import Mathlib.Data.List.Forall2
import ModuleGraph.Proofs.Program.Openings
import ModuleGraph.Proofs.Program.Scan

/-! The specifiers of a program in the order of its text. The import statements of a program begin
with words that stand in the text one behind the other, so the sort by places leaves them in the
order in which they are written, and no word `import` is left out. -/

namespace ModuleGraph.Program

variable {isCharacterName : Text → Bool} {source : Text} {program : Block} {ts : List Token}

theorem marks_openings (b : Block) : marks (openings b) = openings b := by
  refine List.filter_eq_self.mpr fun t ht => ?_
  obtain ⟨i, -, rfl⟩ := List.mem_map.mp ht
  rfl

theorem importWords_marks (ts : List Token) : importWords (marks ts) = importWords ts := by
  rw [importWords, marks, List.countP_filter]
  refine List.countP_congr fun t _ => ?_
  rw [Bool.and_eq_true, decide_eq_true_iff]
  refine ⟨fun h => h.1, fun h => ⟨h, ?_⟩⟩
  rw [h]
  rfl

theorem importWords_behind_end {tokens : List Token}
    (h : ∀ t ∈ (marks tokens).dropLast, t.kind ≠ .endOfInput) (hts : ts <:+ tokens)
    (hend : (Reader.head ts).kind = .endOfInput) : importWords (ts.drop 1) = 0 := by
  cases ts with
  | nil => rfl
  | cons t rest =>
    replace hend : t.kind = .endOfInput := hend
    have hmarks : marks (t :: rest) = t :: marks rest :=
      List.filter_cons_of_pos (by rw [hend]; rfl)
    obtain ⟨before, hbefore⟩ : marks (t :: rest) <:+ marks tokens := hts.filter _
    rw [List.drop_one, List.tail_cons, ← importWords_marks]
    by_cases hnil : marks rest = []
    · rw [hnil]
      rfl
    · refine absurd hend (h t ?_)
      rw [← hbefore, hmarks, List.dropLast_append_of_ne_nil (List.cons_ne_nil _ _),
        List.dropLast_cons_of_ne_nil hnil]
      exact List.mem_append_right _ List.mem_cons_self

/-- Each word `import` of the tokens belongs to an import statement of the program. -/
theorem openings_of_wholeProgram {fuel : Nat} {r : Read false Block ts}
    (h : Statement.wholeProgram isCharacterName fuel ts = .ok r)
    (hends : ∀ t ∈ (marks ts).dropLast, t.kind ≠ .endOfInput) :
    (openings r.value).Sublist (marks ts) ∧ (openings r.value).length = importWords ts := by
  obtain ⟨hsublist, hmet⟩ := Statement.tells_wholeProgram isCharacterName fuel r h
  have hrest : importWords r.rest = 0 := by
    obtain ⟨r₁, r₂, h₁, h₂, -, hrest⟩ := Reader.bind_eq_ok h
    obtain ⟨r₃, r₄, h₃, h₄, -, hrest'⟩ := Reader.bind_eq_ok h₂
    obtain ⟨r₅, h₅, -, hrest''⟩ := Reader.liftM_eq_ok h₃
    obtain ⟨hend, hdrop⟩ := Reader.expect_eq_ok h₅
    cases h₄
    rw [← hrest, ← hrest', ← hrest'', hdrop]
    exact importWords_behind_end hends r₁.left hend
  refine ⟨?_, ?_⟩
  · rw [← marks_openings]
    exact ((List.sublist_append_left _ _).trans hsublist).filter _
  · rw [hrest] at hmet
    simpa using hmet

theorem openings_of_parse (h : parse isCharacterName source = .ok program) :
    (openings program).Sublist (marks (scan source).tokens) ∧
      (openings program).length = importWords (scan source).tokens := by
  unfold parse at h
  split at h
  · cases h
  · extract_lets scanned tokens at h
    have hmarks : marks tokens = marks scanned.tokens := by
      unfold tokens
      split
      · rfl
      · rw [marks, List.filter_append]
        exact List.append_nil _
    have hends : ∀ t ∈ (marks tokens).dropLast, t.kind ≠ .endOfInput := by
      rw [hmarks]
      exact (ordered_scan source).ends
    split at h
    · next b rest hread =>
      cases h
      unfold Reader.readAll at hread
      split at hread
      · next r hr =>
        cases hread
        rw [← hmarks, ← importWords_marks scanned.tokens, ← hmarks, importWords_marks]
        exact openings_of_wholeProgram hr hends
      · cases hread
    · cases h

def StandsBehind (text before : Text) (i : Place × Import) : Prop :=
  before ++ i.2.keyword.toList <+: text ∧ i.1 = Place.start.after before

theorem standsBehind_of_standsIn {text : Text} {i : Place × Import}
    (h : Token.StandsIn text ⟨word i.2.keyword, i.1⟩) : ∃ before, StandsBehind text before i := by
  obtain ⟨keyword, before, after, hkind, htext, hplace⟩ := h
  refine ⟨before, ⟨after, ?_⟩, hplace⟩
  rw [htext, Kind.keyword.inj hkind, List.append_assoc]

theorem exists_beginnings {text : Text} {written : List (Place × Import)}
    (hstands : ∀ i ∈ written, ∃ before, StandsBehind text before i)
    (horder : written.Pairwise fun i j => i.1.Before j.1) :
    ∃ beginnings, List.Forall₂ (StandsBehind text) beginnings written ∧
      beginnings.Pairwise fun before before' => before.length < before'.length := by
  induction written with
  | nil => exact ⟨[], .nil, .nil⟩
  | cons i written ih =>
    obtain ⟨⟨before, hbefore⟩, hstands⟩ := List.forall_mem_cons.mp hstands
    obtain ⟨hfirst, horder⟩ := List.pairwise_cons.mp horder
    obtain ⟨beginnings, hall, hlengths⟩ := ih hstands horder
    have hbefores : ∀ {before : Text} {j : Place × Import}, StandsBehind text before j →
        before <+: text := fun h => (List.prefix_append _ _).trans h.1
    have hboth : List.Forall₂ (fun j before' => i.1.Before j.1 ∧ StandsBehind text before' j)
        written beginnings :=
      (List.forall₂_and_left written beginnings).mpr ⟨hfirst, hall.flip⟩
    have hlater : List.Forall₂ (fun before' j => before.length < before'.length ∧
        StandsBehind text before' j) beginnings written := by
      refine (hboth.imp fun j before' ⟨hij, hbefore'⟩ => ?_).flip
      rw [hbefore.2, hbefore'.2] at hij
      exact ⟨(Place.before_iff_length_lt (hbefores hbefore) (hbefores hbefore') _).mp hij, hbefore'⟩
    have hlonger := ((List.forall₂_and_left beginnings written).mp hlater).1
    exact ⟨before :: beginnings, .cons hbefore hall, List.pairwise_cons.mpr ⟨hlonger, hlengths⟩⟩

/-- The specifiers that an import statement states: the modules of `import`, or the one behind
`from`, with its dots. If there are only dots, the members may be modules, and without any member
that has a name the dots stand alone. -/
def Import.stated : Import → List Text
  | .modules names => names
  | .members level (some source) _ => [List.replicate level '.' ++ source]
  | .members level none names =>
    if ∀ name ∈ names, name = ['*'] then [List.replicate level '.']
    else (names.filter (· ≠ ['*'])).map (List.replicate level '.' ++ ·)

theorem Import.specifiers_eq_stated (i : Import) : i.specifiers = i.stated := by
  cases i with
  | modules names => rfl
  | members level source names =>
    cases source with
    | some source => rfl
    | none =>
      rw [specifiers, stated]
      have hnil : names.filter (· ≠ ['*']) = [] ↔ ∀ name ∈ names, name = ['*'] := by
        simp
      split
      · next hfilter => rw [if_pos (hnil.mp hfilter)]
      · next hfilter => rw [if_neg (mt hnil.mpr hfilter)]

/-- The specifiers of a program are those of its import statements, from the first that is written
to the last, less the absolute ones of the standard library. The statements stand behind longer and
longer beginnings of the text, and there is one for each word `import`. -/
theorem specifiers_in_textual_order (h : parse isCharacterName source = .ok program)
    (includeCore : Bool) :
    specifiers isCharacterName source includeCore =
        .ok (((Statement.writtenIn program).flatMap fun i => i.2.stated).filter fun s =>
          includeCore ∨ s.head? = some '.' ∨ s.takeWhile (· ≠ '.') ∉ standardModules) ∧
      ∃ beginnings, List.Forall₂ (StandsBehind (closedLines ' ' source)) beginnings
          (Statement.writtenIn program) ∧
        (beginnings.Pairwise fun before before' => before.length < before'.length) ∧
        beginnings.length = importWords (scan source).tokens := by
  obtain ⟨hsublist, hlength⟩ := openings_of_parse h
  have hordered := ordered_scan source
  have hstands : ∀ i ∈ Statement.writtenIn program,
      ∃ before, StandsBehind (closedLines ' ' source) before i := by
    intro i hi
    have hmem : (⟨word i.2.keyword, i.1⟩ : Token) ∈ openings program :=
      List.mem_map.mpr ⟨i, hi, rfl⟩
    exact standsBehind_of_standsIn (hordered.stands _ (hsublist.subset hmem) nofun)
  have horder : (Statement.writtenIn program).Pairwise fun i j => i.1.Before j.1 := by
    have hopenings := hordered.order.sublist hsublist
    exact (List.pairwise_map.mp hopenings).imp fun hbefore => hbefore nofun
  obtain ⟨beginnings, hall, hlengths⟩ := exists_beginnings hstands horder
  refine ⟨?_, beginnings, hall, hlengths, ?_⟩
  · rw [specifiers, h, Except.map, Block.specifiers, Block.imports_eq_writtenIn horder]
    simp only [Import.specifiers_eq_stated]
    refine congrArg Except.ok (List.filter_congr fun s _ => ?_)
    simp [isStandardModule]
  · rw [hall.length_eq, ← hlength, openings, List.length_map]

def nestedImports : Text :=
  ("'é'; import b.c, os as o\n" ++
    "if a:\n    from . import *; from . import f, g\n" ++
    "else:\n  def h(): from ..m import x\n").toList

theorem specifiers_of_nested_imports : ∃ program, parse (fun _ => false) nestedImports = .ok program ∧
    specifiers (fun _ => false) nestedImports true =
      .ok ["b.c".toList, "os".toList, ".".toList, ".f".toList, ".g".toList, "..m".toList] := by
  have hwritten : (parse (fun _ => false) nestedImports).toOption.map Statement.writtenIn = some
      [(⟨1, 6⟩, .modules ["b.c".toList, "os".toList]), (⟨3, 4⟩, .members 1 none ["*".toList]),
        (⟨3, 21⟩, .members 1 none ["f".toList, "g".toList]),
        (⟨5, 11⟩, .members 2 (some "m".toList) ["x".toList])] := by
    decide +kernel
  cases hparse : parse (fun _ => false) nestedImports with
  | error fault => rw [hparse] at hwritten; cases hwritten
  | ok program =>
    rw [hparse] at hwritten
    have hspecifiers := (specifiers_in_textual_order hparse true).1
    rw [Option.some.inj hwritten] at hspecifiers
    refine ⟨program, rfl, hspecifiers.trans (congrArg Except.ok ?_)⟩
    decide +kernel

end ModuleGraph.Program
