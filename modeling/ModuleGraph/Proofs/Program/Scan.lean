import ModuleGraph.Program.Token.Scan
import ModuleGraph.Proofs.Program.Place
import ModuleGraph.Proofs.Text.Blank

/-! Where the tokens of a program come from. Each step of a scan passes over a piece of the text,
and the place of the scan is that of the text passed so far. So each keyword stands in the text at
its place, the keywords come in the order of their places, and nothing comes behind the end of the
input. -/

namespace ModuleGraph.Program

def Kind.isMark : Kind → Bool
  | .keyword _ | .endOfInput => true
  | _ => false

def marks (ts : List Token) : List Token := ts.filter fun t => t.kind.isMark

def Token.StandsIn (text : Text) (t : Token) : Prop :=
  ∃ word before after, t.kind = .keyword word ∧ text = before ++ (word.toList ++ after) ∧
    t.place = Place.start.after before

theorem Token.StandsIn.kind_ne {text : Text} {t : Token} (h : t.StandsIn text) :
    t.kind ≠ .endOfInput := by
  obtain ⟨word, _, _, hkind, _⟩ := h
  rw [hkind]
  exact nofun

/-- The keywords of a scan stand in the text, in the order of their places, and none comes behind
the end of the input. -/
structure Scanned.Ordered (text : Text) (scanned : Scanned) : Prop where
  stands : ∀ t ∈ marks scanned.tokens, t.kind ≠ .endOfInput → t.StandsIn text
  order : (marks scanned.tokens).Pairwise fun t u => u.kind ≠ .endOfInput →
    t.place.Before u.place
  ends : ∀ t ∈ (marks scanned.tokens).dropLast, t.kind ≠ .endOfInput

namespace Scan

variable {text rest piece : Text} {s s' : Scan} {kind : Kind}

/-- A scan that stands before the `rest` of a text. -/
structure Standing (text : Text) (s : Scan) (rest : Text) : Prop where
  passed : ∃ before, text = before ++ rest ∧ s.place = Place.start.after before
  stands : ∀ t ∈ marks s.tokens, t.StandsIn text ∧ t.place.Before s.place
  order : (marks s.tokens).Pairwise fun t u => u.place.Before t.place

namespace Standing

theorem past (piece : Text) (h : Standing text s (piece ++ rest)) :
    Standing text (s.past piece) rest := by
  obtain ⟨⟨before, htext, hplace⟩, hstands, horder⟩ := h
  refine ⟨⟨before ++ piece, ?_, ?_⟩, fun t ht => ?_, horder⟩
  · rw [htext, List.append_assoc]
  · rw [Place.after_append, ← hplace]
    rfl
  · obtain ⟨hstands, hbefore⟩ := hstands t ht
    exact ⟨hstands, hbefore.after piece⟩

theorem congr (h : Standing text s rest) (hplace : s'.place = s.place)
    (htokens : marks s'.tokens = marks s.tokens) : Standing text s' rest := by
  obtain ⟨hpassed, hstands, horder⟩ := h
  rw [← hplace] at hpassed hstands
  rw [← htokens] at hstands horder
  exact ⟨hpassed, hstands, horder⟩

theorem emit (h : Standing text s rest) (hkind : kind.isMark = false) :
    Standing text (s.emit kind) rest :=
  h.congr rfl (List.filter_cons_of_neg (by simp [hkind]))

theorem take (piece : Text) (h : Standing text s (piece ++ rest)) (hkind : kind.isMark = false) :
    Standing text (s.take kind piece) rest :=
  (h.emit hkind).past piece

theorem take_keyword (h : Standing text s (piece ++ rest)) (hne : piece ≠ []) :
    Standing text (s.take (.keyword (Text.string piece)) piece) rest := by
  obtain ⟨⟨before, htext, hplace⟩, hstands, horder⟩ := h
  have hbefore : s.place.Before (s.place.after piece) := Place.before_after s.place hne
  refine ⟨⟨before ++ piece, ?_, ?_⟩, ?_, ?_⟩
  · rw [htext, List.append_assoc]
  · rw [Place.after_append, ← hplace]
    rfl
  · refine List.forall_mem_cons.mpr ⟨⟨⟨Text.string piece, before, rest, rfl, ?_, hplace⟩, hbefore⟩,
      fun t ht => ?_⟩
    · rw [htext, Text.string, String.toList_ofList]
    · obtain ⟨hstands, htoken⟩ := hstands t ht
      exact ⟨hstands, htoken.trans hbefore⟩
  · exact List.pairwise_cons.mpr ⟨fun t ht => (hstands t ht).2, horder⟩

theorem stop (h : Standing text s rest) (fault : Option (Fault × Bool)) :
    Scanned.Ordered text ⟨s.tokens.reverse, fault⟩ := by
  have hstands : ∀ t ∈ marks s.tokens.reverse, t.StandsIn text := by
    intro t ht
    rw [marks, List.filter_reverse, List.mem_reverse] at ht
    exact (h.stands t ht).1
  refine ⟨fun t ht _ => hstands t ht, ?_, fun t ht => ?_⟩
  · rw [marks, List.filter_reverse, List.pairwise_reverse]
    refine List.Pairwise.imp ?_ h.order
    exact fun hbefore _ => hbefore
  · exact (hstands t (List.dropLast_subset _ ht)).kind_ne

theorem close (h : Standing text s rest) :
    Scanned.Ordered text ⟨(s.emit .endOfInput).tokens.reverse, none⟩ := by
  obtain ⟨hstands, horder, -⟩ := h.stop none
  have hmarks : marks (s.emit .endOfInput).tokens.reverse =
      marks s.tokens.reverse ++ [⟨.endOfInput, s.place⟩] := by
    rw [Scan.emit, List.reverse_cons, marks, List.filter_append]
    rfl
  refine ⟨fun t ht hkind => ?_, ?_, fun t ht => ?_⟩
  · rw [hmarks, List.mem_append, List.mem_singleton] at ht
    rcases ht with ht | rfl
    · exact hstands t ht hkind
    · exact absurd rfl hkind
  · rw [hmarks, List.pairwise_append]
    refine ⟨horder, List.pairwise_singleton _ _, fun t _ u hu hkind => ?_⟩
    rw [List.mem_singleton.mp hu] at hkind
    exact absurd rfl hkind
  · rw [hmarks, List.dropLast_concat, marks, List.filter_reverse, List.mem_reverse] at ht
    exact (h.stands t ht).1.kind_ne

end Standing

theorem margin_passes {fuel : Nat} {m m' : Margin} (h : margin fuel m text = .ok (m', rest)) :
    ∃ passed, text = passed ++ rest ∧ m'.place = m.place.after passed := by
  induction fuel generalizing m text with
  | zero =>
    obtain ⟨rfl, rfl⟩ := Prod.mk.inj (Except.ok.inj h)
    exact ⟨[], rfl, rfl⟩
  | succ fuel ih =>
    have hpass : ∀ (piece behind : Text) {n : Margin}, n.place = m.place.after piece →
        margin fuel n behind = .ok (m', rest) →
        ∃ passed, piece ++ behind = passed ++ rest ∧ m'.place = m.place.after passed := by
      intro piece behind n hplace hrest
      obtain ⟨passed, rfl, hm'⟩ := ih hrest
      exact ⟨piece ++ passed, (List.append_assoc ..).symm, by rw [hm', hplace, Place.after_append]⟩
    unfold margin at h
    split at h
    · exact hpass [' '] _ rfl h
    · exact hpass ['\t'] _ rfl h
    · exact hpass ['\x0c'] _ rfl h
    · split at h
      · cases h
      · exact hpass ['\\', '\n'] _ rfl h
    · cases h
    · obtain ⟨rfl, rfl⟩ := Prod.mk.inj (Except.ok.inj h)
      exact ⟨[], rfl, rfl⟩

theorem literalMarks?_append {m m' : Marks} {letters : Text}
    (h : literalMarks? m text = some (m', letters, rest)) : text = letters ++ rest := by
  induction text generalizing m letters with
  | nil => cases h
  | cons c text ih =>
    rw [literalMarks?] at h
    split at h
    · cases h
      rfl
    · obtain ⟨m₁, -, h⟩ := Option.bind_eq_some_iff.mp h
      obtain ⟨⟨m₂, more, behind⟩, hmore, heq⟩ := Option.map_eq_some_iff.mp h
      cases heq
      rw [ih hmore, List.cons_append]

theorem singleBody?_append {quote : Char} {body : Text}
    (h : singleBody? quote text = some (body, rest)) : text = body ++ quote :: rest := by
  fun_induction singleBody? quote text generalizing body with
  | case1 => cases h
  | case2 e text ih =>
    obtain ⟨⟨more, behind⟩, hmore, heq⟩ := Option.map_eq_some_iff.mp h
    cases heq
    rw [ih hmore]
    rfl
  | case3 => cases h; rfl
  | case4 => cases h
  | case5 c text _ _ _ ih =>
    obtain ⟨⟨more, behind⟩, hmore, heq⟩ := Option.map_eq_some_iff.mp h
    cases heq
    rw [ih hmore]
    rfl

theorem tripleBody?_append {quote : Char} {body : Text}
    (h : tripleBody? quote text = some (body, rest)) :
    text = body ++ quote :: quote :: quote :: rest := by
  fun_induction tripleBody? quote text generalizing body with
  | case1 => cases h
  | case2 e text ih =>
    obtain ⟨⟨more, behind⟩, hmore, heq⟩ := Option.map_eq_some_iff.mp h
    cases heq
    rw [ih hmore]
    rfl
  | case3 c text _ hclosed =>
    rw [Bool.and_eq_true, decide_eq_true_iff, decide_eq_true_iff] at hclosed
    obtain ⟨rfl, htwo⟩ := hclosed
    cases h
    rw [← List.take_append_drop 2 text, htwo]
    simp
  | case4 c text _ _ ih =>
    obtain ⟨⟨more, behind⟩, hmore, heq⟩ := Option.map_eq_some_iff.mp h
    cases heq
    rw [ih hmore]
    rfl

theorem literal_append {m : Marks} {lit : Literal} {spelled : Text}
    (h : literal m text = .ok (lit, spelled, rest)) : text = spelled ++ rest := by
  unfold literal at h
  split at h
  · next q q' q'' text =>
    split at h
    · next htriple =>
      rw [Bool.and_eq_true, decide_eq_true_iff, decide_eq_true_iff] at htriple
      obtain ⟨rfl, rfl⟩ := htriple
      split at h
      · next body behind hbody =>
        cases h
        simp [tripleBody?_append hbody]
      · cases h
    · split at h
      · next body behind hbody =>
        cases h
        simp [singleBody?_append hbody]
      · cases h
  · split at h
    · next body behind hbody =>
      cases h
      simp [singleBody?_append hbody]
    · cases h
  · cases h

theorem digitGroups_suffix {digit : Char → Bool} {digits : Text}
    (h : digitGroups digit text = some (digits, rest)) : rest <:+ text := by
  fun_induction digitGroups digit text generalizing digits with
  | case1 => cases h; exact List.suffix_rfl
  | case2 c text _ ih =>
    obtain ⟨⟨more, behind⟩, hmore, heq⟩ := Option.map_eq_some_iff.mp h
    cases heq
    exact (ih hmore).trans (List.suffix_append ['_', c] text)
  | case3 => cases h
  | case4 => cases h
  | case5 c text _ _ _ ih =>
    obtain ⟨⟨more, behind⟩, hmore, heq⟩ := Option.map_eq_some_iff.mp h
    cases heq
    exact (ih hmore).trans (List.suffix_cons c text)
  | case6 => cases h; exact List.suffix_rfl

def Returns {ε α : Type} (x : Except ε α) (P : α → Prop) : Prop := ∀ a, x = .ok a → P a

namespace Returns

variable {ε α β : Type} {P Q : α → Prop} {R : β → Prop} {x : Except ε α} {f : α → Except ε β}

theorem pure {a : α} (h : P a) : Returns (Pure.pure a : Except ε α) P := fun _ ha =>
  Except.ok.inj ha ▸ h

theorem error (e : ε) : Returns (.error e : Except ε α) P := fun _ ha => nomatch ha

theorem mono (h : Returns x P) (himp : ∀ a, P a → Q a) : Returns x Q := fun a ha =>
  himp a (h a ha)

theorem bind (hx : Returns x P) (hf : ∀ a, P a → Returns (f a) R) : Returns (x >>= f) R := by
  intro b hb
  cases h : x with
  | error e => rw [h] at hb; cases hb
  | ok a => rw [h] at hb; exact hf a (hx a h) b hb

theorem map {g : α → β} (hx : Returns x P) (hg : ∀ a, P a → R (g a)) : Returns (x.map g) R := by
  intro b hb
  cases h : x with
  | error e => rw [h] at hb; cases hb
  | ok a => rw [h] at hb; cases hb; exact hg a (hx a h)

theorem of_any (x : Except ε α) : Returns x fun _ => True := fun _ _ => trivial

end Returns

theorem decimalGroups_suffix (text : Text) : Returns (decimalGroups text) (·.2 <:+ text) := by
  unfold decimalGroups
  split
  · exact .error _
  · next hfound => exact .pure (digitGroups_suffix hfound)

theorem radixNumber_suffix (name : String) (digit : Char → Bool) (text : Text) :
    Returns (radixNumber name digit text) (· <:+ text) := by
  unfold radixNumber
  extract_lets body
  have hbody : body <:+ text := by
    unfold body
    split
    · exact List.suffix_cons _ _
    · exact List.suffix_rfl
  clear_value body
  split
  · exact .error _
  · split
    · split <;> exact .error _
    · split
      · exact .error _
      · next hfound =>
        have hrest := (digitGroups_suffix hfound).trans hbody
        split
        · split
          · exact .error _
          · exact (Returns.of_any _).map fun _ _ => hrest
        · exact .pure List.nil_suffix

theorem numberTail_suffix (whole : Bool) (text : Text) :
    Returns (numberTail whole text) (·.2.2 <:+ text) := by
  unfold numberTail
  extract_lets imaginary
  have himaginary : ∀ found : Bool × Text, found.2 <:+ text →
      Returns (imaginary found) (·.2.2 <:+ text) := by
    intro (whole, rest) hrest
    unfold imaginary
    dsimp only
    split
    · next j after =>
      split
      · exact (Returns.of_any _).bind fun _ _ => .pure ((List.suffix_cons j after).trans hrest)
      · exact (Returns.of_any _).bind fun _ _ => .pure hrest
    · exact .pure hrest
  clear_value imaginary
  split
  · next e rest =>
    extract_lets signed
    have hsigned : ∀ more, signed = some more → more <:+ rest := by
      intro more hmore
      unfold signed at hmore
      split at hmore
      · split at hmore
        · cases hmore
          exact List.suffix_cons _ _
        · cases hmore
      · cases hmore
    clear_value signed
    have hexponent : ∀ digits, digits <:+ rest →
        Returns (decimalGroups digits) (·.2 <:+ e :: rest) := by
      intro digits hdigits
      exact (decimalGroups_suffix digits).mono fun _ hafter =>
        hafter.trans (hdigits.trans (List.suffix_cons e rest))
    split
    · split
      · next more =>
        have hmore := hsigned more rfl
        split
        · split
          · refine (hexponent _ hmore).bind fun found hfound => ?_
            exact himaginary (false, found.2) hfound
          · exact .error _
        · exact .error _
      · split
        · split
          · refine (hexponent _ List.suffix_rfl).bind fun found hfound => ?_
            exact himaginary (false, found.2) hfound
          · exact (Returns.of_any _).bind fun _ _ => .pure List.suffix_rfl
        · exact (Returns.of_any _).bind fun _ _ => .pure List.suffix_rfl
    · exact himaginary _ List.suffix_rfl
  · exact himaginary _ List.suffix_rfl

theorem fractionTail_suffix (text : Text) : Returns (fractionTail text) (·.2 <:+ text) := by
  unfold fractionTail
  extract_lets tail
  have htail : ∀ rest, rest <:+ text → Returns (tail rest) (·.2 <:+ text) := by
    intro rest hrest
    exact (numberTail_suffix false rest).bind fun _ hafter => .pure (hafter.trans hrest)
  have hdigits : Returns ((decimalGroups text).map (·.2)) (· <:+ text) :=
    (decimalGroups_suffix text).map fun _ => id
  split
  · split
    · exact hdigits.bind htail
    · exact htail _ List.suffix_rfl
  · exact htail _ List.suffix_rfl

theorem decimal_suffix (text : Text) : Returns (number.decimal text) (·.2 <:+ text) := by
  unfold number.decimal
  refine (decimalGroups_suffix text).bind fun found hfound => ?_
  obtain ⟨digits, rest⟩ := found
  dsimp only at hfound ⊢
  split
  · next after =>
    exact (fractionTail_suffix after).mono fun _ hafter =>
      hafter.trans ((List.suffix_cons '.' after).trans hfound)
  · refine (numberTail_suffix true rest).bind fun found' hafter => ?_
    have hafter := hafter.trans hfound
    split
    · split
      · split
        · exact .pure hafter
        · exact .error _
      · split
        · exact .error _
        · exact .pure hafter
    · exact .pure hafter

theorem number_suffix (text : Text) : Returns (number text) (·.2 <:+ text) := by
  unfold number
  split
  · next rest =>
    exact (fractionTail_suffix rest).mono fun _ hafter => hafter.trans (List.suffix_cons '.' rest)
  · next x rest =>
    have hradix : ∀ name digit, Returns (radixNumber name digit rest) (· <:+ '0' :: x :: rest) :=
      fun name digit => (radixNumber_suffix name digit rest).mono fun _ hafter =>
        hafter.trans (List.suffix_append ['0', x] rest)
    extract_lets base
    split
    · exact (hradix _ _).bind fun _ hafter => .pure hafter
    · split
      · exact (hradix _ _).bind fun _ hafter => .pure hafter
      · split
        · exact (hradix _ _).bind fun _ hafter => .pure hafter
        · exact decimal_suffix _
  · exact decimal_suffix text

/-- A step leads to the rest of the text, or stops with what has been read. -/
def Leads (text : Text) : Except Scanned (Scan × Text) → Prop
  | .ok (s, rest) => Standing text s rest
  | .error scanned => scanned.Ordered text

theorem quoted_leads {m : Marks} {body : Text} (letters : Text)
    (h : Standing text s (letters ++ body)) :
    Leads text (match literal m body with
      | .ok (lit, spelled, behind) => .ok (s.take (.string lit) (letters ++ spelled), behind)
      | .error triple =>
        let last := if triple then s.line + lastLineOf body - 1 else s.line
        .error (s.stop (.unterminatedString triple last) true)) := by
  split
  · next lit spelled behind hlit =>
    rw [literal_append hlit, ← List.append_assoc] at h
    exact h.take _ rfl
  · exact h.stop _

theorem token_leads (h : Standing text s rest) : Leads text (s.token rest) := by
  unfold token
  split
  · exact h
  · next c after =>
    extract_lets quoted word behind
    split
    · split
      · next hmarks =>
        rw [literalMarks?_append hmarks] at h
        exact quoted_leads _ h
      · have hsplit : c :: after = word ++ behind := by
          rw [show behind = _ from Text.drop_length_takeWhile isNameChar _,
            List.takeWhile_append_dropWhile]
        split
        · split
          · next hkeyword =>
            rw [hsplit] at h
            refine h.take_keyword fun hnil => ?_
            rw [hnil] at hkeyword
            exact absurd hkeyword (by decide)
          · rw [hsplit] at h
            exact h.take _ rfl
        · split
          · exact h.stop _
          · rw [hsplit] at h
            exact h.take _ rfl
    · split
      · exact quoted_leads [] h
      · split
        · split
          · next imaginary behind hnumber =>
            obtain ⟨spelled, hspelled⟩ := number_suffix _ _ hnumber
            have htaken : (c :: after).take ((c :: after).length - behind.length) = spelled := by
              simp [← hspelled]
            rw [htaken]
            rw [← hspelled] at h
            exact h.take _ rfl
          · exact h.stop _
        · split
          · exact h.stop _
          · split
            · exact h.stop _
            · split
              · next o ho =>
                have hbegins :=
                  List.find?_some (p := fun o : String => Text.beginsWith o.toList _) ho
                obtain ⟨behind, hbehind⟩ := List.isPrefixOf_iff_prefix.mp hbegins
                rw [← hbehind] at h
                have hdrop : (c :: after).drop o.length = behind := by
                  rw [← hbehind, ← String.length_toList, List.drop_left]
                rw [hdrop]
                have hafter : Standing text (s.take (.operator o) o.toList) behind :=
                  h.take _ rfl
                exact hafter.congr rfl rfl
              · exact h.take [c] rfl

theorem Standing.dedent {α : Type} (l : List α) (h : Standing text s rest) :
    Standing text (l.foldl (fun s _ => s.emit .dedent) s) rest := by
  induction l generalizing s with
  | nil => exact h
  | cons a l ih => exact ih (h.emit rfl)

theorem Standing.align {column narrow : Nat} (h : Standing text s rest)
    (halign : s.align column narrow = .ok s') : Standing text s' rest := by
  unfold Scan.align at halign
  dsimp only at halign
  split at halign
  · split at halign <;> cases halign
    exact h
  · split at halign
    · split at halign
      · cases halign
      · split at halign <;> cases halign
        have hopened : Standing text { s with levels := (column, narrow) :: s.levels } rest :=
          h.congr rfl rfl
        exact hopened.emit rfl
    · split at halign
      · cases halign
      · split at halign <;> cases halign
        have hclosed : Standing text { s with levels := (closeLevels column s.levels).2 } rest :=
          h.congr rfl rfl
        exact hclosed.dedent _

theorem Standing.finish (h : Standing text s rest) : s.finish.Ordered text := by
  unfold Scan.finish
  split
  · exact h.stop _
  · exact (h.dedent s.levels).close

/-- The keywords of a run are those of its text, in order. -/
theorem ordered_run {fuel : Nat} {fresh : Bool} (h : Standing text s rest) :
    (run fuel fresh s rest).Ordered text := by
  induction fuel generalizing fresh s rest with
  | zero => exact h.stop _
  | succ fuel ih =>
    cases fresh with
    | true =>
      unfold run
      split
      · exact h.stop _
      · next m behind hmargin =>
        obtain ⟨passed, hpassed, hplace⟩ := margin_passes hmargin
        rw [hpassed] at h
        replace h : Standing text { s with place := m.place } behind :=
          (h.past passed).congr hplace rfl
        extract_lets s'
        split
        · exact h.finish
        · exact ih (h.past ['\n'])
        · next after =>
          extract_lets comment behind
          refine ih (Standing.past _ ?_)
          have hsplit : '#' :: after = '#' :: (comment ++ behind.take 1) ++ behind.drop 1 := by
            rw [List.cons_append, List.append_assoc, List.take_append_drop,
              List.takeWhile_append_dropWhile]
          rwa [← hsplit]
        · split
          · split
            · exact h.stop _
            · next halign => exact ih (h.align halign)
          · exact ih h
    | false =>
      unfold run
      split
      · exact h.finish
      · exact ih (h.past [' '])
      · exact ih (h.past ['\t'])
      · exact ih (h.past ['\x0c'])
      · next rest =>
        refine ih (Standing.past _ ?_)
        rwa [List.cons_append, List.takeWhile_append_dropWhile]
      · next after =>
        have hnewline : Standing text (if s.brackets.isEmpty then s.emit .newline else s)
            (['\n'] ++ after) := by
          split
          · exact h.emit rfl
          · exact h
        exact ih (hnewline.past ['\n'])
      · exact h.stop _
      · next c rest _ =>
        split
        · exact h.stop _
        · next hc =>
          rw [not_not] at hc
          subst hc
          split
          · exact h.stop _
          · exact ih (h.past ['\\', '\n'])
      · have hleads := token_leads h
        split
        · next herror =>
          rwa [herror] at hleads
        · next hok =>
          rw [hok] at hleads
          exact ih hleads

end Scan

theorem ordered_scan (source : Text) : (scan source).Ordered (closedLines ' ' source) :=
  Scan.ordered_run ⟨⟨[], rfl, rfl⟩, nofun, .nil⟩

end ModuleGraph.Program
