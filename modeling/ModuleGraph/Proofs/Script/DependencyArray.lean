import Mathlib.Data.List.Chain
import ModuleGraph.Proofs.Script.Scan

/-! Scans for dependency arrays, and for the literals in one. Where every opening square bracket
stands directly behind a round one, no module name stands before an array, and an array begins
nowhere but at the word of its call. -/

namespace ModuleGraph.Script

open Text (Hit Blanks isBlank opensWord closesWord after? trimLeft foundFrom)

variable {s t u rest list after items word b : Text} {before : Option Char} {hit : Hit} {q c : Char}
  {total : ℕ}

/-- Every opening square bracket, but for one at the start, stands directly behind a round one. -/
def Bracketed (s : Text) : Prop := s.IsChain fun a b => b = '[' → a = '('

def IsArrayWord (word : Text) : Prop := word = "define".toList ∨ word = "require".toList

theorem Bracketed.of_not_mem (h : '[' ∉ s) : Bracketed s := by
  refine List.Pairwise.isChain (List.pairwise_iff_forall_sublist.mpr ?_)
  rintro a b hab rfl
  exact absurd (hab.subset (List.mem_cons_of_mem a List.mem_cons_self)) h

theorem Bracketed.behind_blanks (hb : Blanks b) (h : Bracketed (u ++ c :: (b ++ '[' :: items))) :
    b = [] ∧ c = '(' := by
  rcases List.eq_nil_or_concat b with rfl | ⟨b, x, rfl⟩
  · exact ⟨rfl, (List.isChain_append_cons_cons.mp h).2.1 rfl⟩
  · rw [List.concat_eq_append, ← List.append_cons, ← List.cons_append, ← List.append_assoc] at h
    obtain rfl : x = '(' := (List.isChain_append_cons_cons.mp h).2.1 rfl
    exact absurd (hb '(' (by simp)) (by decide)

theorem exists_of_moduleName? (h : moduleName? s = some rest) :
    ∃ u b, Blanks b ∧ s = u ++ ',' :: (b ++ rest) := by
  cases s with
  | nil => cases h
  | cons q s =>
    have hquote : ∀ s r, after? [q] s = some r ↔ s = [q] ++ r := fun _ _ => Text.after?_eq_some_iff
    simp only [moduleName?, Option.bind_eq_bind, Option.bind_eq_some_iff, Option.pure_def,
      Option.some.injEq, hquote,
      Text.after?_trimLeft_eq_some_iff (show isBlank ',' = false by decide)] at h
    obtain ⟨-, -, r, hr, r', ⟨b, hb, rfl⟩, rfl⟩ := h
    obtain ⟨b', hb', hr'⟩ := Text.exists_blanks r'
    refine ⟨q :: s.takeWhile (fun c => !isQuote c) ++ q :: b, b', hb', ?_⟩
    have hs : s = s.takeWhile (fun c => !isQuote c) ++ q :: (b ++ ',' :: r') := by
      rw [← List.singleton_append, ← hr, List.takeWhile_append_dropWhile]
    rw [← hr', List.append_assoc, List.cons_append, List.cons_append, ← hs]

theorem exists_of_arrayForm (hs : Bracketed s) (h : arrayForm before s = some hit) :
    ∃ word b items, IsArrayWord word ∧ Blanks b ∧ s = word ++ b ++ '(' :: '[' :: items := by
  have hkeyword : ∀ rest, (after? "define".toList s).or (after? "require".toList s) = some rest →
      ∃ word, IsArrayWord word ∧ s = word ++ rest := by
    intro rest hrest
    rw [Option.or_eq_some_iff, Text.after?_eq_some_iff, Text.after?_eq_some_iff] at hrest
    rcases hrest with hs | ⟨-, hs⟩
    · exact ⟨_, Or.inl rfl, hs⟩
    · exact ⟨_, Or.inr rfl, hs⟩
  have hsquare : ∀ s r, after? ['['] s = some r ↔ s = ['['] ++ r := fun _ _ =>
    Text.after?_eq_some_iff
  simp only [arrayForm, Option.bind_eq_bind, Option.bind_eq_some_iff, Option.pure_def, hsquare,
    Text.after?_trimLeft_eq_some_iff (show isBlank '(' = false by decide)] at h
  obtain ⟨-, -, _, hrest, rest, ⟨b, hb, rfl⟩, items, hitems, -⟩ := h
  obtain ⟨word, hword, rfl⟩ := hkeyword _ hrest
  obtain ⟨b', hb', hargument⟩ := Text.exists_blanks rest
  rw [hargument] at hs
  cases hname : moduleName? (trimLeft rest) with
  | some behind =>
    -- a name would put a comma in front of the bracket
    obtain ⟨u, b'', hb'', hbehind⟩ := exists_of_moduleName? hname
    rw [hname] at hitems
    obtain rfl : behind = '[' :: items := hitems
    rw [hbehind, show word ++ (b ++ '(' :: (b' ++ (u ++ ',' :: (b'' ++ '[' :: items)))) =
      (word ++ b ++ '(' :: b' ++ u) ++ ',' :: (b'' ++ '[' :: items) by simp] at hs
    exact absurd (hs.behind_blanks hb'').2 (by decide)
  | none =>
    rw [hname] at hitems
    replace hitems : trimLeft rest = '[' :: items := hitems
    rw [hitems, ← List.append_assoc] at hs
    obtain ⟨rfl, -⟩ := hs.behind_blanks hb'
    exact ⟨word, b, items, hword, hb, by rw [hargument, hitems, List.nil_append, List.append_assoc]⟩

theorem arrayForm_of_array (hword : IsArrayWord word) (hbefore : opensWord before = true)
    (hlist : ']' ∉ list) (after : Text) :
    let s := word ++ '(' :: '[' :: (list ++ ']' :: after)
    arrayForm before s = some ⟨s.length - after.length, s.length - (list ++ ']' :: after).length,
      list⟩ := by
  intro s
  have hkeyword : (after? "define".toList s).or (after? "require".toList s) =
      some ('(' :: '[' :: (list ++ ']' :: after)) := by
    rcases hword with rfl | rfl
    · rw [Text.after?_eq_some_iff.mpr rfl, Option.some_or]
    · have hrequire : after? "require".toList s = some ('(' :: '[' :: (list ++ ']' :: after)) :=
        Text.after?_eq_some_iff.mpr rfl
      rw [hrequire]
      rfl
  have hround : trimLeft ('(' :: '[' :: (list ++ ']' :: after)) =
      '(' :: '[' :: (list ++ ']' :: after) := Text.trimLeft_cons (by decide) _
  have hsquare : trimLeft ('[' :: (list ++ ']' :: after)) = '[' :: (list ++ ']' :: after) :=
    Text.trimLeft_cons (by decide) _
  have htake : (list ++ ']' :: after).takeWhile (· ≠ ']') = list := by
    have hother : ∀ c ∈ list, decide (c ≠ ']') = true := by
      intro c hc
      exact decide_eq_true fun heq => hlist (heq ▸ hc)
    rw [List.takeWhile_append_of_pos hother, List.takeWhile_cons_of_neg (by simp), List.append_nil]
  have hname : moduleName? ('[' :: (list ++ ']' :: after)) = none := by
    simp [moduleName?, isQuote]
  simp only [arrayForm, hbefore, guard, if_true, hkeyword, Option.bind_eq_bind, Option.pure_def,
    Option.bind_some, hround, Text.after?, hsquare, hname, Option.getD_none, htake,
    List.drop_left, hitAt_eq]

theorem foundFrom_array_of_line {line : Text} (hline : [';', '\n'] <:+ line) (hopen : '[' ∉ line)
    (hs : Bracketed (line ++ rest)) (hle : (line ++ rest).length ≤ total) :
    foundFrom arrayForm total before (line ++ rest) = foundFrom arrayForm total (some '\n') rest := by
  have hlast : line.getLast?.or before = some '\n' := by
    obtain ⟨a, rfl⟩ := hline
    rw [List.getLast?_append]
    rfl
  rw [← hlast]
  refine Text.foundFrom_append_of_none (fun u c t hpart => ?_) hle
  rw [Option.eq_none_iff_forall_ne_some]
  intro hit hhit
  have hsuffix : c :: t <:+ line := ⟨u, hpart.symm⟩
  have hbracketed : Bracketed (c :: t ++ rest) := by
    rw [hpart, List.append_assoc] at hs
    exact (List.isChain_append.mp hs).2.1
  obtain ⟨word, b, items, hword, hb, heq⟩ := exists_of_arrayForm hbracketed hhit
  -- what stands before the first square bracket begins here
  have hstart : c :: t <+: word ++ b ++ ['('] := by
    rw [List.append_cons _ '(' ('[' :: items)] at heq
    rcases List.append_eq_append_iff.mp heq with ⟨v, hv, -⟩ | ⟨v, hv, hitems⟩
    · exact ⟨v, hv.symm⟩
    · cases v with
      | nil => exact ⟨[], by rw [List.append_nil, hv, List.append_nil]⟩
      | cons x v =>
        obtain ⟨rfl, -⟩ := List.cons.inj hitems
        exact absurd (hsuffix.subset (hv ▸ List.mem_append_right _ List.mem_cons_self)) hopen
  have hhead : ∀ x ∈ word ++ b ++ ['('], x ≠ ';' := by
    rintro x hx rfl
    rw [List.mem_append, List.mem_append] at hx
    rcases hx with (hx | hx) | hx
    · rcases hword with rfl | rfl <;> exact absurd hx (by decide)
    · exact absurd (hb _ hx) (by decide)
    · exact absurd hx (by decide)
  rcases List.suffix_or_suffix_of_suffix hline hsuffix with hend | hend
  · exact hhead ';' (hstart.subset (hend.subset List.mem_cons_self)) rfl
  · have hc : c ∈ [';', '\n'] := hend.subset List.mem_cons_self
    obtain ⟨v, hv⟩ := hstart
    rcases hword with rfl | rfl
    · obtain rfl : c = 'd' := (List.cons.inj hv).1
      exact absurd hc (by decide)
    · obtain rfl : c = 'r' := (List.cons.inj hv).1
      exact absurd hc (by decide)

theorem foundFrom_array (hword : IsArrayWord word) (hbefore : opensWord before = true)
    (hlist : ']' ∉ list) {after : Text}
    (hle : (word ++ '(' :: '[' :: (list ++ ']' :: after)).length ≤ total) :
    foundFrom arrayForm total before (word ++ '(' :: '[' :: (list ++ ']' :: after)) =
      (total - (list ++ ']' :: after).length, list) :: foundFrom arrayForm total (some ']') after := by
  have hs : word ++ '(' :: '[' :: (list ++ ']' :: after) =
      (word ++ '(' :: '[' :: list) ++ ']' :: after := by simp
  refine Text.foundFrom_of_hit hs ?_ (arrayForm_of_array hword hbefore hlist after) hle
  simp only [List.length_append, List.length_cons]
  omega

theorem itemForm_of_ne_quote (hc : isQuote c = false) (before : Option Char) (rest : Text) :
    itemForm before (c :: rest) = none := by
  simp [itemForm, plainLiteral?, hc]

theorem foundFrom_item {body : Text} (hq : isQuote q = true) (hbody : Unquoted body)
    (hne : body ≠ []) (hle : (q :: (body ++ q :: rest)).length ≤ total) :
    foundFrom itemForm total before (q :: (body ++ q :: rest)) =
      (total - (body ++ q :: rest).length, body) :: foundFrom itemForm total (some q) rest := by
  have hliteral : plainLiteral? isQuote (q :: (body ++ q :: rest)) = some (body, rest) :=
    plainLiteral?_eq_some_iff.mpr ⟨q, hq, hbody, hne, rfl⟩
  have hs : q :: (body ++ q :: rest) = (q :: body) ++ q :: rest := rfl
  refine Text.foundFrom_of_hit hs (Nat.le_succ _) ?_ hle
  rw [itemForm, hliteral, Option.map_some]
  simp only [List.length_cons, List.length_append]
  congr 2
  · omega
  · omega

end ModuleGraph.Script
