import Mathlib.Data.Option.Basic
import ModuleGraph.Proofs.Stylesheet.Sheet
import ModuleGraph.Proofs.Text.Found

/-! What the body of an at-rule gives. A body goes up to the first semicolon, also to one inside of a
target. The targets before it are found with their texts. A target that the body breaks off in is not
found, and if it is the first one, its beginning is taken for a bare word. -/

namespace ModuleGraph.Stylesheet

open Text (Blanks markedFrom isBlank trim trimRight)

variable {t : Target} {r : Rule} {s u v rest : Text} {q c : Char} {before : Option Char}
  {items : List (Text × Target)}

def Target.isCut (t : Target) : Bool := t.text.contains ';'

def inside (s : Text) : Text := s.takeWhile (· ≠ ';')

def brokenOff : List (Text × Target) → Text
  | [] => []
  | (gap, t) :: _ => gap ++ (t.opening ++ inside t.text)

theorem not_mem_inside (s : Text) : ';' ∉ inside s := fun hmem => by
  simpa using List.mem_takeWhile_imp hmem

theorem inside_append (h : ';' ∉ u) (v : Text) : inside (u ++ v) = u ++ inside v :=
  List.takeWhile_append_of_pos fun _ hc => decide_eq_true fun heq => h (heq ▸ hc)

theorem inside_append_of_mem (h : ';' ∈ u) (v : Text) : inside (u ++ v) = inside u := by
  induction u with
  | nil => cases h
  | cons c u ih =>
    by_cases hc : c = ';'
    · simp [inside, hc]
    · have hu : ';' ∈ u := (List.mem_cons.mp h).resolve_left (Ne.symm hc)
      have hstep := ih hu
      simp only [inside, List.cons_append] at hstep ⊢
      rw [List.takeWhile_cons_of_pos (by simp [hc]), List.takeWhile_cons_of_pos (by simp [hc]), hstep]
theorem Target.Plain.ne_quote (h : t.Plain) (hx : isQuote x = false) : x ≠ t.quote := by
  rintro rfl
  exact absurd h.quote (by simp [hx])

theorem Target.Plain.not_mem_opening (h : t.Plain) (hx : isQuote x = false)
    (hurl : x ∉ "url(".toList) : x ∉ t.opening := by
  have hq := h.ne_quote hx
  unfold Target.opening
  split
  · exact fun hmem => (List.mem_append.mp hmem).elim hurl (by simp [hq])
  · simp [hq]

theorem Target.Plain.not_mem_closing (h : t.Plain) (hx : isQuote x = false) (hbracket : x ≠ ')') :
    x ∉ t.closing := by
  have hq := h.ne_quote hx
  unfold Target.closing
  split <;> simp [hq, hbracket]

theorem spelledAll_cons (item : Text × Target) (items : List (Text × Target)) :
    spelledAll (item :: items) =
      item.1 ++ (item.2.opening ++ (item.2.text ++ (item.2.closing ++ spelledAll items))) := by
  simp [spelledAll, Target.spelled]

theorem Rule.body_eq (r : Rule) :
    r.body = r.first.opening ++ (r.first.text ++ (r.first.closing ++ spelledAll r.more)) :=
  spelledAll_cons ([], r.first) r.more

theorem inside_spelledAll (hplain : ∀ item ∈ items, item.2.Plain)
    (hdull : ∀ item ∈ items, ∀ c ∈ item.1, Dull c) :
    inside (spelledAll items) = spelledAll (items.takeWhile fun item => !item.2.isCut) ++
      brokenOff (items.dropWhile fun item => !item.2.isCut) := by
  induction items with
  | nil => rfl
  | cons item items ih =>
    obtain ⟨hitem, hplain⟩ := List.forall_mem_cons.mp hplain
    obtain ⟨hgap, hdull⟩ := List.forall_mem_cons.mp hdull
    have hgap' : ';' ∉ item.1 := fun hmem => hgap _ hmem (by decide)
    have hopening := hitem.not_mem_opening (by decide) (show ';' ∉ "url(".toList by decide)
    by_cases hcut : item.2.isCut = true
    · rw [List.takeWhile_cons_of_neg (by simp [hcut]), List.dropWhile_cons_of_neg (by simp [hcut]),
        spelledAll_cons, inside_append hgap', inside_append hopening,
        inside_append_of_mem (by simpa [Target.isCut] using hcut)]
      rfl
    · have htext : ';' ∉ item.2.text := by simpa [Target.isCut] using hcut
      rw [List.takeWhile_cons_of_pos (by simp [hcut]), List.dropWhile_cons_of_pos (by simp [hcut]),
        spelledAll_cons, inside_append hgap', inside_append hopening, inside_append htext,
        inside_append (hitem.not_mem_closing (by decide) (by decide)), ih hplain hdull,
        spelledAll_cons]
      simp

theorem Target.Plain.unquoted (h : t.Plain) : ∀ c ∈ t.text, isQuote c = false := by
  intro c hc
  have hmem := h.allowed c hc
  simp only [List.mem_cons, List.not_mem_nil, or_false, not_or] at hmem
  simp [isQuote, hmem.1, hmem.2.1]

theorem Target.Plain.ne_nil (h : t.Plain) : t.text ≠ [] := fun hnil => h.solid (by rw [hnil]; rfl)

theorem takeWhile_append_quote {p : Char → Bool} (hs : ∀ c ∈ s, p c = true) (hq : p q = false)
    (rest : Text) : (s ++ q :: rest).takeWhile p = s := by
  rw [List.takeWhile_append_of_pos hs, List.takeWhile_cons_of_neg (by simp [hq]), List.append_nil]

theorem targetForm_spelled (h : t.Plain) (before : Option Char) (rest : Text) :
    ∃ distance, targetForm before (t.spelled ++ rest) =
      some ⟨t.spelled.length, distance, t.text⟩ := by
  have hquote := h.quote
  by_cases hurl : t.isUrl = true
  · have hsplit : t.spelled ++ rest =
        "url(".toList ++ t.quote :: (t.text ++ t.quote :: ')' :: rest) := by
      simp [Target.spelled, Target.opening, Target.closing, hurl]
    have htake : (t.text ++ t.quote :: ')' :: rest).takeWhile isUrlChar = t.text := by
      refine takeWhile_append_quote (fun c hc => ?_) (by simp [isUrlChar, hquote]) _
      have hbracket : c ≠ ')' := fun heq => h.allowed c hc (by simp [heq])
      simp [isUrlChar, h.unquoted c hc, hbracket]
    have hafter : Text.after? "url(".toList (t.spelled ++ rest) =
        some (t.quote :: (t.text ++ t.quote :: ')' :: rest)) :=
      Text.after?_eq_some_iff.mpr hsplit
    refine ⟨0, ?_⟩
    have hread : url? (t.spelled ++ rest) = some ⟨t.spelled.length, 0, t.text⟩ := by
      unfold url?
      simp only [hafter, Option.bind_eq_bind, Option.bind_some,
        Text.trimLeft_cons (isBlank_of_isQuote hquote), hquote, if_true, htake]
      have hne : t.text.isEmpty = false := by simpa using h.ne_nil
      simp [hne, Text.after?, Text.trimLeft_cons (show isBlank ')' = false by decide),
        Target.spelled, Target.opening, Target.closing, hurl, guard]
      omega
    rw [targetForm, hread]
    rfl
  · have hurl' : t.isUrl = false := by simpa using hurl
    have hsplit : t.spelled ++ rest = t.quote :: (t.text ++ t.quote :: rest) := by
      simp [Target.spelled, Target.opening, Target.closing, hurl']
    have htake : (t.text ++ t.quote :: rest).takeWhile (fun c => !isQuote c) = t.text :=
      takeWhile_append_quote (fun c hc => by simp [h.unquoted c hc]) (by simp [hquote]) _
    have hurlNone : url? (t.quote :: (t.text ++ t.quote :: rest)) = none := by
      simp [url?, Text.after?, h.ne_quote (show isQuote 'u' = false by decide)]
    refine ⟨1, ?_⟩
    rw [targetForm, hsplit, hurlNone, Option.none_or, quoted?, hquote]
    have hne : t.text.isEmpty = false := by simpa using h.ne_nil
    simp [htake, hne, Text.after?, Target.spelled, Target.opening, Target.closing, hurl', guard]

theorem targetForm_plain (hc : c ≠ 'u') (hquote : isQuote c = false) (before : Option Char)
    (rest : Text) : targetForm before (c :: rest) = none := by
  have hurl : url? (c :: rest) = none := by simp [url?, Text.after?, Ne.symm hc]
  rw [targetForm, hurl, Option.none_or, quoted?, hquote]
  rfl

theorem markedFrom_gap (h : ∀ c ∈ s, Dull c) (before : Option Char) (rest : Text) :
    ∃ last, markedFrom targetForm before (s ++ rest) = markedFrom targetForm last rest := by
  refine Text.markedFrom_append_of_none _ fun u c t hs before => ?_
  have hc := h c (by simp [hs])
  have hmarks : c ≠ 'u' ∧ isQuote c = false := by
    simp only [Dull, List.mem_cons, List.not_mem_nil, or_false, not_or] at hc
    simp [isQuote, hc]
  exact targetForm_plain hmarks.1 hmarks.2 before _

theorem markedFrom_spelledAll (hplain : ∀ item ∈ items, item.2.Plain)
    (hdull : ∀ item ∈ items, ∀ c ∈ item.1, Dull c) (before : Option Char) (rest : Text) :
    ∃ last, markedFrom targetForm before (spelledAll items ++ rest) =
      items.map (fun item => item.2.text) ++ markedFrom targetForm last rest := by
  induction items generalizing before with
  | nil => exact ⟨before, rfl⟩
  | cons item items ih =>
    obtain ⟨hitem, hplain⟩ := List.forall_mem_cons.mp hplain
    obtain ⟨hgap, hdull⟩ := List.forall_mem_cons.mp hdull
    obtain ⟨last₁, hlast₁⟩ :=
      markedFrom_gap hgap before (item.2.spelled ++ (spelledAll items ++ rest))
    obtain ⟨distance, hform⟩ := targetForm_spelled hitem last₁ (spelledAll items ++ rest)
    have hne : item.2.spelled ≠ [] := by simp [Target.spelled, hitem.ne_nil]
    obtain ⟨last₂, hlast₂⟩ := Text.markedFrom_of_hit hne hform
    obtain ⟨last₃, hlast₃⟩ := ih hplain hdull last₂
    refine ⟨last₃, ?_⟩
    have hsplit : spelledAll (item :: items) ++ rest =
        item.1 ++ (item.2.spelled ++ (spelledAll items ++ rest)) := by simp [spelledAll]
    rw [hsplit, hlast₁, hlast₂, hlast₃]
    rfl

theorem url?_of_not_mem (h : '(' ∉ s) : url? s = none := by
  have hafter : Text.after? "url(".toList s = none := by
    rw [Option.eq_none_iff_forall_ne_some]
    rintro rest hrest
    rw [Text.after?_eq_some_iff] at hrest
    exact h (by simp [hrest])
  unfold url?
  rw [hafter]
  rfl

theorem quoted?_of_unquoted (h : ∀ x ∈ s, isQuote x = false) (c : Char) :
    quoted? (c :: s) = none := by
  have htake : s.takeWhile (fun x => !isQuote x) = s :=
    List.takeWhile_eq_self_iff.mpr fun x hx => by simp [h x hx]
  simp [quoted?, htake, Text.after?]

theorem url?_of_unquoted (hq : isQuote q = true) (h : ∀ x ∈ s, isQuote x = false) :
    url? ("url(".toList ++ q :: s) = none := by
  have hafter : Text.after? "url(".toList ("url(".toList ++ q :: s) = some (q :: s) :=
    Text.after?_eq_some_iff.mpr rfl
  have hclose : Text.after? [q] (s.drop (s.takeWhile isUrlChar).length) = none := by
    rw [Option.eq_none_iff_forall_ne_some]
    rintro rest hrest
    rw [Text.after?_eq_some_iff] at hrest
    have hmem : q ∈ s.drop (s.takeWhile isUrlChar).length := by simp [hrest]
    exact absurd hq (by simp [h q ((List.drop_suffix _ s).subset hmem)])
  unfold url?
  rw [hafter]
  simp only [Option.bind_eq_bind, Option.bind_some, Text.trimLeft_cons (isBlank_of_isQuote hq), hq,
    if_true, hclose, Option.bind_none, Option.bind_fun_none]

theorem markedFrom_opening (h : t.Plain) (hs : s ⊆ t.text) (before : Option Char) :
    markedFrom targetForm before (t.opening ++ s) = [] := by
  have hunquoted : ∀ x ∈ s, isQuote x = false := fun x hx => h.unquoted x (hs hx)
  have hbracket : '(' ∉ t.quote :: s :=
    List.not_mem_cons_of_ne_of_not_mem (h.ne_quote (by decide)) fun hmem =>
      h.allowed '(' (hs hmem) (by decide)
  have hquoted : ∀ before, markedFrom targetForm before (t.quote :: s) = [] := by
    intro before
    have hnone : ∀ u x v, t.quote :: s = u ++ x :: v → ∀ before,
        targetForm before (x :: (v ++ [])) = none := by
      intro u x v hsplit before
      have hinner : '(' ∉ x :: v := fun hmem => hbracket (hsplit ▸ List.mem_append_right u hmem)
      have hrest : ∀ y ∈ v, isQuote y = false := by
        intro y hy
        cases u with
        | nil => exact hunquoted y ((List.cons.inj hsplit).2 ▸ hy)
        | cons z u =>
          refine hunquoted y ?_
          rw [(List.cons.inj hsplit).2]
          exact List.mem_append_right u (List.mem_cons_of_mem x hy)
      rw [List.append_nil, targetForm, url?_of_not_mem hinner, Option.none_or,
        quoted?_of_unquoted hrest]
    obtain ⟨last, hlast⟩ := Text.markedFrom_append_of_none before hnone
    rw [← List.append_nil (t.quote :: s), hlast]
    rfl
  unfold Target.opening
  split
  · -- of `url(` only the first character could begin a target
    have hpassed : ∀ u c v, "url(".toList = u ++ c :: v → ∀ before,
        targetForm before (c :: (v ++ t.quote :: s)) = none := by
      intro u c v hsplit before
      cases u with
      | nil =>
        have hwhole : c :: (v ++ t.quote :: s) = "url(".toList ++ t.quote :: s := by
          rw [hsplit]
          rfl
        rw [targetForm, hwhole, url?_of_unquoted h.quote hunquoted]
        rfl
      | cons x u =>
        have hmem : c ∈ ['r', 'l', '('] := by
          rw [show ['r', 'l', '('] = u ++ c :: v from (List.cons.inj hsplit).2]
          exact List.mem_append_right u List.mem_cons_self
        have hmarks : ∀ c ∈ ['r', 'l', '('], c ≠ 'u' ∧ isQuote c = false :=
          Text.forall_mem_of_all (by decide)
        exact targetForm_plain (hmarks c hmem).1 (hmarks c hmem).2 before _
    obtain ⟨last, hlast⟩ := Text.markedFrom_append_of_none _ hpassed
    rw [List.append_assoc, List.singleton_append, hlast, hquoted]
  · exact hquoted before

theorem Target.Plain.exists_opening (h : t.Plain) : ∃ u, t.opening = u ++ [t.quote] ∧
    (∀ c ∈ t.opening, isBlank c = false) ∧ isBlank t.quote = false := by
  have hq := isBlank_of_isQuote h.quote
  have hurl : ∀ c ∈ "url(".toList, isBlank c = false := Text.forall_mem_of_all (by decide)
  unfold Target.opening
  split
  · refine ⟨_, rfl, fun c hc => ?_, hq⟩
    rcases List.mem_append.mp hc with hc | hc
    · exact hurl c hc
    · exact List.mem_singleton.mp hc ▸ hq
  · exact ⟨[], rfl, by simpa using hq, hq⟩

theorem Target.Plain.exists_closing (h : t.Plain) :
    ∃ u c, t.spelled = u ++ [c] ∧ isBlank c = false := by
  unfold Target.spelled Target.closing
  split
  · exact ⟨t.opening ++ (t.text ++ [t.quote]), ')', by simp, by decide⟩
  · exact ⟨t.opening ++ t.text, t.quote, by simp, isBlank_of_isQuote h.quote⟩

theorem trimLeft_opening (h : t.Plain) (s : Text) :
    Text.trimLeft (t.opening ++ s) = t.opening ++ s := by
  obtain ⟨u, hu, hsolid, -⟩ := h.exists_opening
  cases hopening : t.opening with
  | nil => simp [hopening] at hu
  | cons c rest => exact Text.trimLeft_cons (hsolid c (by simp [hopening])) (rest ++ s)

theorem trimRight_opening (h : t.Plain) (s v : Text) :
    trimRight (s ++ (t.opening ++ v)) = s ++ (t.opening ++ trimRight v) := by
  obtain ⟨u, hu, -, hq⟩ := h.exists_opening
  rw [hu, List.append_assoc, List.singleton_append, ← List.append_assoc, trimRight,
    Text.dropTail_append_cons hq]
  simp [trimRight]

theorem trimRight_subset (s : Text) : trimRight s ⊆ s := by
  intro c hc
  exact List.mem_reverse.mp ((List.dropWhile_suffix _).subset (List.mem_reverse.mp hc))

theorem trimRight_spelledAll (h : ∀ item ∈ items, item.2.Plain) :
    trimRight (spelledAll items) = spelledAll items := by
  rcases List.eq_nil_or_concat items with rfl | ⟨init, item, heq⟩
  · rfl
  · obtain rfl := heq.trans (List.concat_eq_append ..)
    obtain ⟨u, c, hspelled, hc⟩ := (h item (by simp)).exists_closing
    have hsplit : spelledAll (init ++ [item]) = (spelledAll init ++ (item.1 ++ u)) ++ [c] := by
      simp [spelledAll, hspelled]
    rw [hsplit, trimRight, Text.dropTail_append_cons hc]
    rfl

theorem trimLeft_inside (h : r.WellFormed) :
    Text.trimLeft (inside r.body) = inside r.body := by
  have hfirst := h.targets r.first List.mem_cons_self
  rw [r.body_eq, inside_append (hfirst.not_mem_opening (by decide) (by decide)),
    trimLeft_opening hfirst]

theorem found_inside (h : r.WellFormed) : markedFrom targetForm none (trim (inside r.body)) =
    (r.targets.takeWhile fun t => !t.isCut).map Target.text := by
  have hsplit := inside_spelledAll h.plain h.dull
  have hkept : ∀ item ∈ r.items.takeWhile fun item => !item.2.isCut,
      item.2.Plain ∧ ∀ c ∈ item.1, Dull c := fun item hitem =>
    have hmem := (List.takeWhile_prefix _).subset hitem
    ⟨h.plain item hmem, h.dull item hmem⟩
  have hfound := fun rest => markedFrom_spelledAll (fun item hitem => (hkept item hitem).1)
    (fun item hitem => (hkept item hitem).2) none rest
  have htargets : (r.targets.takeWhile fun t => !t.isCut).map Target.text =
      (r.items.takeWhile fun item => !item.2.isCut).map fun item => item.2.text := by
    have hsnd : r.targets = r.items.map Prod.snd := rfl
    rw [hsnd, List.takeWhile_map, List.map_map]
    rfl
  rw [htargets, trim, trimLeft_inside h, Rule.body, hsplit]
  cases hlost : r.items.dropWhile fun item => !item.2.isCut with
  | nil =>
    obtain ⟨last, hlast⟩ := hfound []
    rw [brokenOff, List.append_nil, trimRight_spelledAll fun item hitem => (hkept item hitem).1]
    rw [List.append_nil] at hlast
    rw [hlast, Text.markedFrom_nil, List.append_nil]
  | cons item others =>
    have hmem : item ∈ r.items := (List.dropWhile_suffix _).subset (by rw [hlost]; simp)
    obtain ⟨last, hlast⟩ :=
      hfound (item.1 ++ (item.2.opening ++ trimRight (inside item.2.text)))
    obtain ⟨last', hlast'⟩ := markedFrom_gap (h.dull item hmem) last
      (item.2.opening ++ trimRight (inside item.2.text))
    have hinner : trimRight (inside item.2.text) ⊆ item.2.text :=
      List.Subset.trans (trimRight_subset _) (List.takeWhile_prefix _).subset
    rw [brokenOff, ← List.append_assoc, trimRight_opening (h.plain item hmem), List.append_assoc,
      hlast, hlast', markedFrom_opening (h.plain item hmem) hinner, List.append_nil]

/-- If the first target has no semicolon, the targets up to the first one with a semicolon are
found. -/
theorem targets_of_found (h : r.WellFormed) (hfirst : r.first.isCut = false) :
    targets (inside r.body) = (r.targets.takeWhile fun t => !t.isCut).map Target.text := by
  have hfound := found_inside h
  have hcons : (r.targets.takeWhile fun t => !t.isCut) =
      r.first :: (r.more.map Prod.snd).takeWhile fun t => !t.isCut :=
    List.takeWhile_cons_of_pos (by simp [hfirst])
  rw [hcons, List.map_cons] at hfound ⊢
  simp only [targets, Text.map_snd_found, hfound]

/-- If the first target has a semicolon, its beginning is taken for a word. -/
theorem targets_of_cut (h : r.WellFormed) (hfirst : r.first.isCut = true) :
    ∃ s, targets (inside r.body) = [r.first.opening ++ s] := by
  have hplain := h.targets r.first List.mem_cons_self
  have hfound := found_inside h
  rw [Rule.targets, List.takeWhile_cons_of_neg (by simp [hfirst]), List.map_nil] at hfound
  have hbody : inside r.body = r.first.opening ++ inside r.first.text := by
    rw [r.body_eq, inside_append (hplain.not_mem_opening (by decide) (by decide)),
      inside_append_of_mem (by simpa [Target.isCut] using hfirst)]
  have htrim : trim (inside r.body) = r.first.opening ++ trimRight (inside r.first.text) := by
    rw [trim, trimLeft_inside h, hbody]
    exact trimRight_opening hplain [] _
  obtain ⟨u, hu, hsolid, hq⟩ := hplain.exists_opening
  have hword : Text.firstWord (trim (inside r.body)) =
      r.first.opening ++ (trimRight (inside r.first.text)).takeWhile fun c => !isBlank c := by
    rw [Text.firstWord, htrim, trimLeft_opening hplain]
    exact List.takeWhile_append_of_pos fun c hc => by simp [hsolid c hc]
  have hcomma : r.first.quote ≠ ',' := (hplain.ne_quote (by decide)).symm
  have hne : (trim (inside r.body)).isEmpty = false := by simp [htrim, hu]
  refine ⟨Text.dropTail (· = ',') ((trimRight (inside r.first.text)).takeWhile fun c => !isBlank c),
    ?_⟩
  simp only [targets, Text.map_snd_found, hfound, hne, Bool.false_eq_true, if_false, hword]
  rw [hu, List.append_assoc, List.singleton_append,
    Text.dropTail_append_cons (by simp [hcomma]), List.append_assoc, List.singleton_append]

end ModuleGraph.Stylesheet
