import Mathlib.Data.List.Basic
import ModuleGraph.Proofs.Stylesheet.Targets

/-! What is extracted from a sheet. The body of a rule ends at its first semicolon, so of a rule with a
semicolon in a target nothing is found from that target on. The specifiers of a sheet are its local
targets exactly if all that is lost in this way is remote, and no rule begins with it. -/

namespace ModuleGraph.Stylesheet

open Text (Blanks markedFrom isBlank trim trimRight)

variable {t : Target} {r : Rule} {sheet : List Rule} {s u v w rest : Text} {x c : Char}
  {before : Option Char} {items : List (Text × Target)}

def OpensRule (s : Text) : Prop :=
  ∃ u name c v, s = u ++ '@' :: (name ++ c :: v) ∧ name ∈ ruleNames ∧ isBlank c = true

def outside (s : Text) : Text := s.dropWhile (· ≠ ';')

theorem inside_append_outside (s : Text) : inside s ++ outside s = s :=
  List.takeWhile_append_dropWhile

theorem inside_append_outside_append (s rest : Text) :
    inside s ++ (outside s ++ rest) = s ++ rest := by
  rw [← List.append_assoc, inside_append_outside]

theorem exists_outside_append (s rest : Text) : ∃ v, outside s ++ ';' :: rest = ';' :: v := by
  induction s with
  | nil => exact ⟨rest, rfl⟩
  | cons c s ih =>
    by_cases hc : c = ';'
    · exact ⟨s ++ ';' :: rest, by simp [outside, hc]⟩
    · obtain ⟨v, hv⟩ := ih
      exact ⟨v, by rw [outside, List.dropWhile_cons_of_pos (by simp [hc])]; exact hv⟩

theorem OpensRule.of_suffix (hsuffix : u <:+ s) (h : OpensRule u) : OpensRule s := by
  obtain ⟨w, rfl⟩ := hsuffix
  obtain ⟨u, name, c, v, rfl, hname, hc⟩ := h
  exact ⟨w ++ u, name, c, v, (List.append_assoc ..).symm, hname, hc⟩

theorem not_opens_nil : ¬ OpensRule [] := by
  rintro ⟨u, name, c, v, heq, -⟩
  simp at heq

theorem prefix_of_append_cons (hx : x ∉ w) (h : w ++ v = s ++ x :: rest) : w <+: s := by
  rcases List.append_eq_append_iff.mp h with ⟨d, hs, -⟩ | ⟨d, hw, hd⟩
  · exact ⟨d, hs.symm⟩
  · cases d with
    | nil => exact ⟨[], by simp [hw]⟩
    | cons y d =>
      obtain rfl := (List.cons.inj hd).1
      exact absurd (hw ▸ List.mem_append_right s List.mem_cons_self) hx

def closingMarks : List Char := ['\'', '"', ';']

theorem not_mem_opening_of_mark (hx : x ∈ closingMarks) (hname : u ∈ ruleNames)
    (hc : isBlank c = true) : x ∉ u ++ [c] := by
  have hletters : ∀ name ∈ ruleNames, (closingMarks.all fun x => x ∉ name) = true := by decide
  have hsolid : ∀ x ∈ closingMarks, isBlank x = false := Text.forall_mem_of_all (by decide)
  intro hmem
  rcases List.mem_append.mp hmem with hmem | hmem
  · exact Text.forall_mem_of_all (hletters u hname) x hx hmem
  · obtain rfl := List.mem_singleton.mp hmem
    exact absurd hc (by simp [hsolid x hx])

theorem OpensRule.of_append_cons (hx : x ∈ closingMarks) (h : OpensRule (s ++ x :: rest)) :
    OpensRule s ∨ OpensRule rest := by
  obtain ⟨u, name, c, v, heq, hname, hc⟩ := h
  have hat : x ≠ '@' := by
    rintro rfl
    exact absurd hx (by decide)
  rcases List.append_eq_append_iff.mp heq with ⟨d, rfl, hd⟩ | ⟨d, rfl, hd⟩
  · cases d with
    | nil => exact absurd (List.cons.inj hd).1 hat
    | cons y d => exact Or.inr ⟨d, name, c, v, (List.cons.inj hd).2, hname, hc⟩
  · cases d with
    | nil => exact absurd (List.cons.inj hd).1.symm hat
    | cons y d =>
      obtain ⟨rfl, htail⟩ := List.cons.inj hd
      have htail' : (name ++ [c]) ++ v = d ++ x :: rest := by simpa using htail
      obtain ⟨d', rfl⟩ := prefix_of_append_cons (not_mem_opening_of_mark hx hname hc) htail'
      exact Or.inl ⟨u, name, c, d', by simp, hname, hc⟩

theorem OpensRule.of_append_of_not_mem (hs : '@' ∉ s) (h : OpensRule (s ++ rest)) :
    OpensRule rest := by
  obtain ⟨u, name, c, v, heq, hname, hc⟩ := h
  rcases List.append_eq_append_iff.mp heq with ⟨d, -, hd⟩ | ⟨d, rfl, hd⟩
  · exact ⟨d, name, c, v, hd, hname, hc⟩
  · cases d with
    | nil => exact ⟨[], name, c, v, hd.symm, hname, hc⟩
    | cons y d =>
      obtain rfl := (List.cons.inj hd).1
      exact absurd (List.mem_append_right u List.mem_cons_self) hs

theorem Target.Plain.opens_closing (h : t.Plain) (hopens : OpensRule (s ++ (t.closing ++ rest))) :
    OpensRule s ∨ OpensRule rest := by
  have hmark : t.quote ∈ closingMarks := by
    rcases isQuote_iff.mp h.quote with hq | hq <;> simp [hq, closingMarks]
  unfold Target.closing at hopens
  split at hopens
  · refine (hopens.of_append_cons hmark).imp_right fun hrest => ?_
    exact OpensRule.of_append_of_not_mem (s := [')']) (by decide) hrest
  · exact hopens.of_append_cons hmark

theorem not_opens_spelledAll (hplain : ∀ item ∈ items, item.2.Plain)
    (hdull : ∀ item ∈ items, ∀ c ∈ item.1, Dull c)
    (h : ∀ item ∈ items, ¬ OpensRule item.2.text) : ¬ OpensRule (spelledAll items) := by
  induction items with
  | nil => exact not_opens_nil
  | cons item items ih =>
    obtain ⟨hitem, hplain⟩ := List.forall_mem_cons.mp hplain
    obtain ⟨hgap, hdull⟩ := List.forall_mem_cons.mp hdull
    obtain ⟨hclosed, h⟩ := List.forall_mem_cons.mp h
    intro hopens
    have hat : '@' ∉ item.1 ++ item.2.opening := fun hmem =>
      (List.mem_append.mp hmem).elim (fun hmem => hgap _ hmem (by decide))
        (hitem.not_mem_opening (by decide) (by decide))
    rw [spelledAll_cons, ← List.append_assoc] at hopens
    exact (hitem.opens_closing (hopens.of_append_of_not_mem hat)).elim hclosed
      (ih hplain hdull h)

def Rule.lost (r : Rule) : List Target := r.targets.dropWhile fun t => !t.isCut

theorem not_opens_outside (h : r.WellFormed) (hlost : ∀ t ∈ r.lost, ¬ OpensRule t.text) :
    ¬ OpensRule (outside r.body) := by
  have hinside := inside_spelledAll h.plain h.dull
  have hsplit := inside_append_outside r.body
  have hitems := List.takeWhile_append_dropWhile (p := fun item => !item.2.isCut) (l := r.items)
  have hlost' : ∀ item ∈ r.items.dropWhile fun item => !item.2.isCut,
      ¬ OpensRule item.2.text := by
    intro item hitem
    refine hlost item.2 ?_
    have hsnd : r.targets = r.items.map Prod.snd := rfl
    rw [Rule.lost, hsnd, List.dropWhile_map]
    exact List.mem_map_of_mem hitem
  have hmem : ∀ item ∈ r.items.dropWhile fun item => !item.2.isCut, item ∈ r.items :=
    fun item hitem => (List.dropWhile_suffix _).subset hitem
  rw [Rule.body] at hsplit ⊢
  cases hdrop : r.items.dropWhile fun item => !item.2.isCut with
  | nil =>
    rw [hdrop, List.append_nil] at hitems
    rw [hinside, hdrop, hitems, brokenOff, List.append_nil] at hsplit
    rw [List.append_right_eq_self.mp hsplit]
    exact not_opens_nil
  | cons item others =>
    rw [hdrop] at hlost' hmem hitems hinside
    obtain ⟨hitem, hothers⟩ := List.forall_mem_cons.mp hlost'
    obtain ⟨hmem₁, hmem₂⟩ := List.forall_mem_cons.mp hmem
    have hbody : spelledAll r.items = inside (spelledAll r.items) ++
        (outside item.2.text ++ (item.2.closing ++ spelledAll others)) := by
      generalize (r.items.takeWhile fun item => !item.2.isCut) = kept at hinside hitems
      calc spelledAll r.items
          = spelledAll kept ++ (item.1 ++ (item.2.opening ++
              (item.2.text ++ (item.2.closing ++ spelledAll others)))) := by
            rw [← hitems]
            simp [spelledAll, Target.spelled]
        _ = spelledAll kept ++ (item.1 ++ (item.2.opening ++
              ((inside item.2.text ++ outside item.2.text) ++
                (item.2.closing ++ spelledAll others)))) := by rw [inside_append_outside]
        _ = inside (spelledAll r.items) ++
              (outside item.2.text ++ (item.2.closing ++ spelledAll others)) := by
            rw [hinside, brokenOff]
            simp
    have houtside := List.append_cancel_left (hsplit.trans hbody)
    rw [houtside]
    intro hopens
    rcases (h.plain item hmem₁).opens_closing hopens with hopens | hopens
    · exact hitem (hopens.of_suffix (List.dropWhile_suffix _))
    · exact not_opens_spelledAll (fun item hitem => h.plain item (hmem₂ item hitem))
        (fun item hitem => h.dull item (hmem₂ item hitem)) hothers hopens

theorem findSome?_ruleNames (h : u ∈ ruleNames) (s : Text) :
    ruleNames.findSome? (fun name => Text.after? name (u ++ s)) = some s := by
  simp only [ruleNames, List.mem_cons, List.not_mem_nil, or_false] at h
  rcases h with rfl | rfl | rfl | rfl <;> simp [ruleNames, Text.after?]

theorem not_mem_body (h : r.WellFormed) : '\n' ∉ r.body := by
  intro hmem
  obtain ⟨item, hitem, hmem⟩ := List.mem_flatMap.mp hmem
  have hplain := h.plain item hitem
  rcases List.mem_append.mp hmem with hmem | hmem
  · exact h.dull item hitem _ hmem (by decide)
  · rw [Target.spelled, List.mem_append, List.mem_append] at hmem
    rcases hmem with hmem | hmem | hmem
    · exact hplain.not_mem_opening (by decide) (by decide) hmem
    · exact hplain.allowed _ hmem (by decide)
    · exact hplain.not_mem_closing (by decide) (by decide) hmem

theorem ruleForm_text (h : r.WellFormed) (before : Option Char) (rest : Text) : ∃ distance,
    ruleForm before ('@' :: (r.name ++ (r.gap ++ inside r.body)) ++
        (outside r.body ++ [';', '\n'] ++ rest)) =
      some ⟨('@' :: (r.name ++ (r.gap ++ inside r.body))).length, distance, inside r.body⟩ := by
  have hwhole : '@' :: (r.name ++ (r.gap ++ inside r.body)) ++
      (outside r.body ++ [';', '\n'] ++ rest) =
        '@' :: (r.name ++ (r.gap ++ (r.body ++ ';' :: '\n' :: rest))) := by
    simp [inside_append_outside_append]
  have hfirst := h.targets r.first List.mem_cons_self
  have htrim : Text.trimLeft (r.gap ++ (r.body ++ ';' :: '\n' :: rest)) =
      r.body ++ ';' :: '\n' :: rest := by
    rw [Text.trimLeft_append h.gap.1, r.body_eq, List.append_assoc, trimLeft_opening hfirst]
  have htake : (r.body ++ ';' :: '\n' :: rest).takeWhile (fun c => c ≠ ';' && c ≠ '\n') =
      inside r.body := by
    obtain ⟨v, hv⟩ := exists_outside_append r.body ('\n' :: rest)
    have hinner : ∀ c ∈ inside r.body, (c ≠ ';' && c ≠ '\n') = true := by
      intro c hc
      have hsemicolon : c ≠ ';' := fun heq => not_mem_inside r.body (heq ▸ hc)
      have hline : c ≠ '\n' := fun heq =>
        not_mem_body h (heq ▸ (List.takeWhile_prefix _).subset hc)
      simp [hsemicolon, hline]
    have hsplit : r.body ++ ';' :: '\n' :: rest = inside r.body ++ ';' :: v := by
      rw [← hv, ← List.append_assoc, inside_append_outside]
    rw [hsplit]
    exact takeWhile_append_quote hinner (by decide) v
  have hne : (inside r.body).isEmpty = false := by
    rw [r.body_eq, inside_append (hfirst.not_mem_opening (by decide) (by decide))]
    obtain ⟨u, hu, -⟩ := hfirst.exists_opening
    simp [hu]
  have hgap : 0 < r.gap.length := List.length_pos_iff.mpr h.gap.2
  have hlength : (inside r.body).length ≤ r.body.length := (List.takeWhile_prefix _).length_le
  rw [hwhole]
  unfold ruleForm
  simp only [Text.after?, if_true, Option.bind_eq_bind, Option.bind_some,
    findSome?_ruleNames h.name, htrim, htake, hne]
  have hshorter : (r.body ++ ';' :: '\n' :: rest).length <
      (r.gap ++ (r.body ++ ';' :: '\n' :: rest)).length := by
    simp only [List.length_append]
    omega
  have hread : ('@' :: (r.name ++ (r.gap ++ (r.body ++ ';' :: '\n' :: rest)))).length -
      ((r.body ++ ';' :: '\n' :: rest).length - (inside r.body).length) =
        ('@' :: (r.name ++ (r.gap ++ inside r.body))).length := by
    simp only [List.length_cons, List.length_append]
    omega
  refine ⟨('@' :: (r.name ++ (r.gap ++ (r.body ++ ';' :: '\n' :: rest)))).length -
    (r.body ++ ';' :: '\n' :: rest).length, ?_⟩
  rw [hread, guard, if_pos hshorter]
  rfl

theorem exists_of_ruleForm {hit : Text.Hit} (h : ruleForm before s = some hit) :
    ∃ name c v, s = '@' :: (name ++ c :: v) ∧ name ∈ ruleNames ∧ isBlank c = true := by
  simp only [ruleForm, Option.bind_eq_bind, Option.bind_eq_some_iff] at h
  obtain ⟨rest, hat, rest', hname, ⟨⟩, hguard, -⟩ := h
  obtain ⟨name, hmem, hafter⟩ := List.exists_of_findSome?_eq_some hname
  rw [Text.after?_eq_some_iff] at hat hafter
  have hshorter : (Text.trimLeft rest').length < rest'.length := by
    by_contra hnot
    simp [guard, hnot] at hguard
  cases rest' with
  | nil => simp at hshorter
  | cons c v =>
    refine ⟨name, c, v, by rw [hat, hafter]; rfl, hmem, ?_⟩
    by_contra hsolid
    rw [Text.trimLeft_cons (by simpa using hsolid)] at hshorter
    exact absurd hshorter (Nat.lt_irrefl _)

theorem markedFrom_line (h : ¬ OpensRule s) (before : Option Char) (rest : Text) :
    ∃ last, markedFrom ruleForm before (s ++ [';', '\n'] ++ rest) =
      markedFrom ruleForm last rest := by
  refine Text.markedFrom_append_of_none _ fun u c t hsplit before => ?_
  rw [Option.eq_none_iff_forall_ne_some]
  intro hit hhit
  obtain ⟨name, c', v, heq, hname, hc'⟩ := exists_of_ruleForm hhit
  obtain ⟨rfl, htail⟩ := List.cons.inj heq
  -- the rule would begin before the semicolon and go on to at most there
  rcases List.append_eq_append_iff.mp hsplit with ⟨d, -, hd⟩ | ⟨d, rfl, hd⟩
  · have hmem : '@' ∈ [';', '\n'] := hd ▸ List.mem_append_right d List.mem_cons_self
    exact absurd hmem (by decide)
  · cases d with
    | nil => cases hd
    | cons y d =>
      obtain ⟨rfl, rfl⟩ := List.cons.inj hd
      have htail' : (name ++ [c']) ++ v = d ++ ';' :: ('\n' :: rest) := by simpa using htail.symm
      obtain ⟨d', rfl⟩ := prefix_of_append_cons
        (not_mem_opening_of_mark (by decide) hname hc') htail'
      exact h ⟨u, name, c', d', by simp, hname, hc'⟩

theorem markedFrom_rule (h : r.WellFormed) (hlost : ∀ t ∈ r.lost, ¬ OpensRule t.text)
    (before : Option Char) (rest : Text) : ∃ last,
      markedFrom ruleForm before (r.text ++ rest) = inside r.body :: markedFrom ruleForm last rest := by
  have hsplit : r.text ++ rest = '@' :: (r.name ++ (r.gap ++ inside r.body)) ++
      (outside r.body ++ [';', '\n'] ++ rest) := by
    simp [Rule.text, inside_append_outside_append]
  obtain ⟨distance, hform⟩ := ruleForm_text h before rest
  obtain ⟨last, hlast⟩ := Text.markedFrom_of_hit (List.cons_ne_nil _ _) hform
  obtain ⟨last', hlast'⟩ := markedFrom_line (not_opens_outside h hlost) last rest
  exact ⟨last', by rw [hsplit, hlast, hlast']⟩

theorem markedFrom_sheet (h : ∀ r ∈ sheet, r.WellFormed)
    (hlost : ∀ r ∈ sheet, ∀ t ∈ r.lost, ¬ OpensRule t.text) (before : Option Char) :
    markedFrom ruleForm before (sheet.flatMap Rule.text) = sheet.map fun r => inside r.body := by
  induction sheet generalizing before with
  | nil => rfl
  | cons r sheet ih =>
    obtain ⟨hr, h⟩ := List.forall_mem_cons.mp h
    obtain ⟨hlost₁, hlost⟩ := List.forall_mem_cons.mp hlost
    obtain ⟨last, hlast⟩ := markedFrom_rule hr hlost₁ before (sheet.flatMap Rule.text)
    rw [List.flatMap_cons, hlast, ih h hlost, List.map_cons]

def isRemote (s : Text) : Bool := remoteMarks.any fun mark => Text.beginsWith mark s

def locals (targets : List Target) : List Text :=
  (targets.map fun t => trim t.text).filter fun s => !isRemote s

theorem locals_append (ts us : List Target) : locals (ts ++ us) = locals ts ++ locals us := by
  simp [locals]

theorem locals_eq_nil_iff {ts : List Target} :
    locals ts = [] ↔ ∀ t ∈ ts, isRemote (trim t.text) = true := by
  simp [locals]

theorem specifiers_eq_flatMap (h : ∀ r ∈ sheet, r.WellFormed)
    (hlost : ∀ r ∈ sheet, ∀ t ∈ r.lost, ¬ OpensRule t.text) :
    specifiers (sheet.flatMap Rule.text) =
      sheet.flatMap fun r => ((targets (inside r.body)).map trim).filter isLocal := by
  have hmarked : (Text.found ruleForm (sheet.flatMap Rule.text)).map (·.2) =
      sheet.map fun r => inside r.body := markedFrom_sheet h hlost none
  have hbodies : (Text.found ruleForm (sheet.flatMap Rule.text)).flatMap (fun x => targets x.2) =
      sheet.flatMap fun r => targets (inside r.body) := by
    calc (Text.found ruleForm (sheet.flatMap Rule.text)).flatMap (fun x => targets x.2)
        = ((Text.found ruleForm (sheet.flatMap Rule.text)).map (·.2)).flatMap targets :=
          (List.flatMap_map ..).symm
      _ = sheet.flatMap fun r => targets (inside r.body) := by rw [hmarked, List.flatMap_map]
  rw [specifiers, stripComments_sheet h, hbodies, List.map_flatMap, List.filter_flatMap]

theorem specifiers_of_found (h : r.WellFormed) (hfirst : r.first.isCut = false) :
    ((targets (inside r.body)).map trim).filter isLocal =
      locals (r.targets.takeWhile fun t => !t.isCut) := by
  rw [targets_of_found h hfirst, List.map_map]
  refine List.filter_congr fun s hs => ?_
  obtain ⟨t, ht, rfl⟩ := List.mem_map.mp hs
  have hsolid := (h.targets t ((List.takeWhile_prefix _).subset ht)).solid
  simp [isLocal, isRemote, hsolid]

/-- What is taken for a word begins with a quote or a bracket, so it counts as local, and no target
holds its quote. -/
theorem exists_specifier_of_cut (h : r.WellFormed) (hfirst : r.first.isCut = true) :
    ∃ s ∈ ((targets (inside r.body)).map trim).filter isLocal, r.first.quote ∈ s := by
  have hplain := h.targets r.first List.mem_cons_self
  obtain ⟨s, hs⟩ := targets_of_cut h hfirst
  have htrim : trim (r.first.opening ++ s) = r.first.opening ++ trimRight s := by
    rw [trim, trimLeft_opening hplain]
    exact trimRight_opening hplain [] s
  have hquote : r.first.quote ∈ r.first.opening := by
    obtain ⟨u, hu, -⟩ := hplain.exists_opening
    simp [hu]
  refine ⟨r.first.opening ++ trimRight s, ?_, List.mem_append_left _ hquote⟩
  rw [hs, List.map_singleton, htrim, List.mem_filter]
  refine ⟨List.mem_singleton_self _, ?_⟩
  unfold Target.opening
  split
  · simp [isLocal, remoteMarks, Text.beginsWith, List.isPrefixOf]
  · rcases isQuote_iff.mp hplain.quote with hq | hq <;>
      simp [hq, isLocal, remoteMarks, Text.beginsWith, List.isPrefixOf]

theorem eq_nil_of_flatMap_append {α β : Type} {l : List α} {f g : α → List β}
    (h : l.flatMap f = l.flatMap fun a => f a ++ g a) : ∀ a ∈ l, g a = [] := by
  have hle : ∀ l : List α, (l.flatMap f).length ≤ (l.flatMap fun a => f a ++ g a).length := by
    intro l
    induction l with
    | nil => exact Nat.le_refl _
    | cons a l ih =>
      simp only [List.flatMap_cons, List.length_append]
      omega
  induction l with
  | nil => exact fun a ha => by cases ha
  | cons a l ih =>
    rw [List.flatMap_cons, List.flatMap_cons, List.append_assoc] at h
    have hrest := List.append_cancel_left h
    have hlength := congrArg List.length hrest
    rw [List.length_append] at hlength
    have hnil : g a = [] := by
      refine List.length_eq_zero_iff.mp ?_
      have := hle l
      omega
    rw [hnil, List.nil_append] at hrest
    exact List.forall_mem_cons.mpr ⟨hnil, ih hrest⟩

/-- The specifiers of a sheet of rules are its local targets, in order and without blanks around them,
exactly if no first target of a rule has a semicolon, and from the first target with a semicolon on
all targets of a rule are remote. In what stands behind a semicolon no rule may begin. So a sheet
whose targets have no semicolons gives its local targets. -/
theorem specifiers_of_sheet_iff (h : ∀ r ∈ sheet, r.WellFormed)
    (hlost : ∀ r ∈ sheet, ∀ t ∈ r.lost, ¬ OpensRule t.text) :
    specifiers (sheet.flatMap Rule.text) = locals (sheet.flatMap Rule.targets) ↔
      ∀ r ∈ sheet, r.first.isCut = false ∧ ∀ t ∈ r.lost, isRemote (trim t.text) = true := by
  have hlocals : locals (sheet.flatMap Rule.targets) = sheet.flatMap fun r => locals r.targets := by
    rw [locals, List.map_flatMap, List.filter_flatMap]
    rfl
  have hparts : ∀ r : Rule, locals r.targets =
      locals (r.targets.takeWhile fun t => !t.isCut) ++ locals r.lost := fun r => by
    rw [← locals_append, Rule.lost, List.takeWhile_append_dropWhile]
  rw [specifiers_eq_flatMap h hlost, hlocals]
  constructor
  · intro heq
    have hfirst : ∀ r ∈ sheet, r.first.isCut = false := by
      intro r hr
      rw [Bool.eq_false_iff]
      intro hcut
      obtain ⟨s, hs, hquote⟩ := exists_specifier_of_cut (h r hr) hcut
      have hmem : s ∈ sheet.flatMap fun r => locals r.targets :=
        heq ▸ List.mem_flatMap.mpr ⟨r, hr, hs⟩
      obtain ⟨r', hr', hs'⟩ := List.mem_flatMap.mp hmem
      obtain ⟨t, ht, rfl⟩ := List.mem_map.mp (List.mem_filter.mp hs').1
      have hunquoted := ((h r' hr').targets t ht).unquoted _ (Text.mem_of_mem_trim hquote)
      exact absurd ((h r hr).targets r.first List.mem_cons_self).quote (by simp [hunquoted])
    have hsplit : (sheet.flatMap fun r => locals (r.targets.takeWhile fun t => !t.isCut)) =
        sheet.flatMap fun r =>
          locals (r.targets.takeWhile fun t => !t.isCut) ++ locals r.lost := by
      calc (sheet.flatMap fun r => locals (r.targets.takeWhile fun t => !t.isCut))
          = sheet.flatMap fun r => ((targets (inside r.body)).map trim).filter isLocal :=
            List.flatMap_congr fun r hr => (specifiers_of_found (h r hr) (hfirst r hr)).symm
        _ = sheet.flatMap fun r => locals r.targets := heq
        _ = sheet.flatMap fun r =>
              locals (r.targets.takeWhile fun t => !t.isCut) ++ locals r.lost :=
            List.flatMap_congr fun r _ => hparts r
    exact fun r hr => ⟨hfirst r hr, locals_eq_nil_iff.mp (eq_nil_of_flatMap_append hsplit r hr)⟩
  · intro hsafe
    refine List.flatMap_congr fun r hr => ?_
    obtain ⟨hfirst, hremote⟩ := hsafe r hr
    rw [specifiers_of_found (h r hr) hfirst, hparts r, locals_eq_nil_iff.mpr hremote,
      List.append_nil]

def remoteFont : Rule where
  name := "import".toList
  gap := [' ']
  first := ⟨false, '\'', ['a']⟩
  more := [([',', ' '], ⟨true, '"', ['/', '/', 'b', ';', 'c']⟩)]

theorem wellFormed_remoteFont : remoteFont.WellFormed where
  name := by decide
  gap := ⟨fun c hc => by rw [List.mem_singleton.mp hc]; decide, List.cons_ne_nil _ _⟩
  targets := by
    refine List.forall_mem_cons.mpr
      ⟨⟨by decide, by decide, Text.forall_mem_of_all (by decide)⟩, ?_⟩
    exact List.forall_mem_cons.mpr
      ⟨⟨by decide, by decide, Text.forall_mem_of_all (by decide)⟩, fun t ht => by cases ht⟩
  separators := by
    refine List.forall_mem_cons.mpr ⟨⟨[], [' '], Text.blanks_nil, ?_, by decide, by decide, rfl⟩,
      fun item hitem => by cases hitem⟩
    exact fun c hc => by rw [List.mem_singleton.mp hc]; decide

theorem remote_target_with_semicolon_dropped : (∀ r ∈ [remoteFont], r.WellFormed) ∧
    (∀ r ∈ [remoteFont], ∀ t ∈ r.lost, ¬ OpensRule t.text) ∧
      specifiers ([remoteFont].flatMap Rule.text) = [['a']] := by
  have hwellFormed : ∀ r ∈ [remoteFont], r.WellFormed := by
    simpa using wellFormed_remoteFont
  have hlost : ∀ r ∈ [remoteFont], ∀ t ∈ r.lost, ¬ OpensRule t.text := by
    have hat : ∀ t ∈ remoteFont.lost, '@' ∉ t.text := by decide
    rintro r hr t ht hopens
    obtain rfl := List.mem_singleton.mp hr
    rw [← List.append_nil t.text] at hopens
    exact not_opens_nil (hopens.of_append_of_not_mem (hat t ht))
  refine ⟨hwellFormed, hlost, ?_⟩
  refine ((specifiers_of_sheet_iff hwellFormed hlost).mpr fun r hr => ?_).trans (by decide)
  obtain rfl := List.mem_singleton.mp hr
  exact ⟨by decide, by decide⟩

/-- A remote target with a semicolon that stands first in its rule is reported, and mangled. -/
theorem first_target_with_semicolon_mangled :
    let rule : Rule := ⟨"import".toList, [' '], ⟨true, '"', "https://f?w=4;7".toList⟩, []⟩
    rule.WellFormed ∧ locals rule.targets = [] ∧
      specifiers rule.text = ["url(\"https://f?w=4".toList] := by
  intro rule
  refine ⟨⟨by decide, ⟨?_, List.cons_ne_nil _ _⟩, ?_, fun item hitem => by cases hitem⟩, by decide,
    by decide +kernel⟩
  · exact fun c hc => by rw [List.mem_singleton.mp hc]; decide
  · exact List.forall_mem_cons.mpr
      ⟨⟨by decide, by decide, Text.forall_mem_of_all (by decide)⟩, fun t ht => by cases ht⟩

end ModuleGraph.Stylesheet
