import Mathlib.Data.Option.Basic
import ModuleGraph.Proofs.Script.Comment
import ModuleGraph.Proofs.Text.Blank
import ModuleGraph.Proofs.Text.Found

/-! The four clauses with one literal, read as texts. A clause has a head that no quote stands in,
then its literal, and a call also has its closing bracket. Where a clause begins, its head reaches to
the next quote of the script, wherever that stands. -/

namespace ModuleGraph.Script

open Text (Hit Form Blanks isBlank opensWord closesWord after?)

variable {s head body after left rest : Text} {before : Option Char} {hit : Hit} {q : Char}

def Unquoted (s : Text) : Prop := ∀ c ∈ s, isQuote c = false

def Unbroken (s : Text) : Prop := ∀ c ∈ s, isQuote c = false ∧ c ≠ ';'

instance (s : Text) : Decidable (Unquoted s) := List.decidableBAll _ s

instance (s : Text) : Decidable (Unbroken s) := List.decidableBAll _ s

theorem isBlank_eq_false_of_isAnyQuote (h : isAnyQuote q = true) : isBlank q = false := by
  simp only [isAnyQuote, isQuote, Bool.or_eq_true, decide_eq_true_eq] at h
  rcases h with (rfl | rfl) | rfl <;> decide

theorem isBlank_eq_false_of_isQuote (h : isQuote q = true) : isBlank q = false :=
  isBlank_eq_false_of_isAnyQuote (isAnyQuote_of_isQuote h)

theorem unquoted_of_not_mem (hsingle : '\'' ∉ s) (hdouble : '"' ∉ s) : Unquoted s := by
  intro c hc
  rw [Bool.eq_false_iff]
  intro hquote
  rcases isQuote_iff.mp hquote with rfl | rfl
  · exact hsingle hc
  · exact hdouble hc

theorem unquoted_of_blanks {b : Text} (h : Blanks b) : Unquoted b := by
  intro c hc
  rw [Bool.eq_false_iff]
  intro hquote
  cases (h c hc).symm.trans (isBlank_eq_false_of_isQuote hquote)

theorem unquoted_append {a b : Text} : Unquoted (a ++ b) ↔ Unquoted a ∧ Unquoted b := by
  simp [Unquoted, or_imp, forall_and]

theorem first_quote_unique {a a' r r' : Text} {q' : Char} (ha : Unquoted a) (ha' : Unquoted a')
    (hq : isQuote q = true) (hq' : isQuote q' = true) (h : a ++ q :: r = a' ++ q' :: r') :
    a = a' ∧ q = q' ∧ r = r' := by
  induction a generalizing a' with
  | nil =>
    cases a' with
    | nil => simpa using h
    | cons c a' =>
      obtain rfl : q = c := by simpa using congrArg List.head? h
      simp [ha' q List.mem_cons_self] at hq
  | cons c a ih =>
    obtain ⟨hc, ha⟩ := List.forall_mem_cons.mp ha
    cases a' with
    | nil =>
      obtain rfl : c = q' := by simpa using congrArg List.head? h
      simp [hc] at hq'
    | cons c' a' =>
      obtain ⟨rfl, htail⟩ := List.cons.inj h
      obtain ⟨rfl, rfl, rfl⟩ := ih ha (List.forall_mem_cons.mp ha').2 htail
      exact ⟨rfl, rfl, rfl⟩

theorem plainLiteral?_eq_some_iff {isQ : Char → Bool} :
    plainLiteral? isQ s = some (body, rest) ↔ ∃ q, isQ q = true ∧ (∀ c ∈ body, isQ c = false) ∧
      body ≠ [] ∧ s = q :: (body ++ q :: rest) := by
  cases s with
  | nil => simp [plainLiteral?]
  | cons q s =>
    rw [plainLiteral?]
    constructor
    · intro h
      by_cases hq : isQ q = true
      · rw [if_pos hq] at h
        dsimp only at h
        split at h
        · next close after hdrop =>
          split at h
          · next hclose =>
            simp only [Bool.and_eq_true, decide_eq_true_eq, Bool.not_eq_true',
              List.isEmpty_eq_false_iff] at hclose
            obtain ⟨rfl, hne⟩ := hclose
            obtain ⟨rfl, rfl⟩ := Prod.mk.inj (Option.some.inj h)
            refine ⟨close, hq, fun c hc => by simpa using List.mem_takeWhile_imp hc, hne, ?_⟩
            rw [← hdrop, Text.drop_length_takeWhile, List.takeWhile_append_dropWhile]
          · cases h
        · cases h
      · rw [if_neg hq] at h
        cases h
    · rintro ⟨q', hq, hbody, hne, heq⟩
      obtain ⟨rfl, rfl⟩ := List.cons.inj heq
      have htake : (body ++ q :: rest).takeWhile (fun c => !isQ c) = body := by
        rw [List.takeWhile_append_of_pos (by simpa using hbody),
          List.takeWhile_cons_of_neg (by simp [hq]), List.append_nil]
      simp [hq, htake, hne]

theorem plainLiteral?_trimLeft_eq_some_iff {isQ : Char → Bool}
    (hblank : ∀ q, isQ q = true → isBlank q = false) :
    plainLiteral? isQ (Text.trimLeft s) = some (body, rest) ↔ ∃ b q, Blanks b ∧ isQ q = true ∧
      (∀ c ∈ body, isQ c = false) ∧ body ≠ [] ∧ s = b ++ q :: (body ++ q :: rest) := by
  rw [plainLiteral?_eq_some_iff]
  constructor
  · rintro ⟨q, hq, hbody, hne, hs⟩
    obtain ⟨b, hb, rfl⟩ := (Text.trimLeft_eq_cons_iff (hblank q hq)).mp hs
    exact ⟨b, q, hb, hq, hbody, hne, rfl⟩
  · rintro ⟨b, q, hb, hq, hbody, hne, rfl⟩
    exact ⟨q, hq, hbody, hne, (Text.trimLeft_eq_cons_iff (hblank q hq)).mpr ⟨b, hb, rfl⟩⟩

inductive Clause where
  | requireCall
  | importCall
  | declaration
  | bareImport
  deriving DecidableEq

namespace Clause

def form : Clause → Form
  | requireCall => callForm "require".toList
  | importCall => callForm "import".toList
  | declaration => declarationForm
  | bareImport => bareImportForm

def CallHead (word t : Text) : Prop :=
  ∃ b b', Blanks b ∧ Blanks b' ∧ t = word ++ b ++ '(' :: b'

/-- `import … from` or `export … from`: two words with no quote and no semicolon between them. -/
def DeclarationHead (t : Text) : Prop :=
  ∃ word middle b, (word = "import".toList ∨ word = "export".toList) ∧ middle ≠ [] ∧
    closesWord middle = true ∧ opensWord middle.getLast? = true ∧
    Unbroken middle ∧ Blanks b ∧
    t = word ++ middle ++ "from".toList ++ b

def Head : Clause → Text → Prop
  | requireCall => CallHead "require".toList
  | importCall => CallHead "import".toList
  | declaration => DeclarationHead
  | bareImport => fun t => ∃ b, Blanks b ∧ t = "import".toList ++ b

/-- What is left of a text behind the literal: a call takes its closing bracket away. -/
def Closes : Clause → (after left : Text) → Prop
  | requireCall | importCall => fun after left => ∃ b, Blanks b ∧ after = b ++ ')' :: left
  | declaration | bareImport => fun after left => left = after

end Clause

theorem guard_bind_eq_some_iff {α : Type} {p : Prop} [Decidable p] {next : Option α} {a : α} :
    ((guard p : Option Unit).bind fun _ => next) = some a ↔ p ∧ next = some a := by
  simp only [Option.bind_eq_some_iff, Option.guard_eq_some', exists_and_left, exists_const]

theorem hitAt_eq (s from_ marked after : Text) :
    hitAt s from_ marked after = ⟨s.length - after.length, s.length - from_.length, marked⟩ :=
  rfl

theorem callForm_eq_some_iff {word : Text} (hback : '`' ∉ s) :
    callForm word before s = some hit ↔ opensWord before = true ∧ ∃ head q body after left,
      s = head ++ q :: (body ++ q :: after) ∧ Clause.CallHead word head ∧ isQuote q = true ∧
      Unquoted body ∧ body ≠ [] ∧ (∃ b, Blanks b ∧ after = b ++ ')' :: left) ∧
      hit = ⟨s.length - left.length, s.length - (body ++ q :: after).length, body⟩ := by
  have hquote : ∀ c ∈ s, isAnyQuote c = isQuote c := by
    intro c hc
    have hne : c ≠ '`' := fun heq => hback (heq ▸ hc)
    simp [isAnyQuote, hne]
  unfold callForm
  rw [Option.bind_eq_bind, guard_bind_eq_some_iff]
  refine and_congr_right fun _ => ?_
  have hword : ∀ rest, after? word s = some rest ↔ s = word ++ rest := fun _ =>
    Text.after?_eq_some_iff
  simp only [Option.bind_eq_bind, Option.bind_eq_some_iff, Option.pure_def, Option.some.injEq, hword,
    Prod.exists,
    Text.after?_trimLeft_eq_some_iff (show isBlank '(' = false by decide),
    Text.after?_trimLeft_eq_some_iff (show isBlank ')' = false by decide),
    plainLiteral?_trimLeft_eq_some_iff fun _ => isBlank_eq_false_of_isAnyQuote]
  constructor
  · rintro ⟨_, rfl, _, ⟨b, hb, rfl⟩, body, _, ⟨b', q, hb', hq, hbody, hne, rfl⟩, left,
      ⟨b'', hb'', rfl⟩, rfl⟩
    have hquoted : isQuote q = true := by
      rw [← hquote q (by simp), hq]
    refine ⟨word ++ b ++ '(' :: b', q, body, _, left, by simp, ⟨b, b', hb, hb', rfl⟩, hquoted, ?_,
      hne, ⟨b'', hb'', rfl⟩, ?_⟩
    · intro c hc
      rw [← hquote c (by simp [hc]), hbody c hc]
    · rw [Text.trimLeft_append hb', Text.trimLeft_cons (isBlank_eq_false_of_isQuote hquoted), hitAt_eq]
      rfl
  · rintro ⟨_, q, body, _, left, rfl, ⟨b, b', hb, hb', rfl⟩, hq, hbody, hne, ⟨b'', hb'', rfl⟩, rfl⟩
    refine ⟨b ++ '(' :: (b' ++ q :: (body ++ q :: (b'' ++ ')' :: left))), by simp, _, ⟨b, hb, rfl⟩,
      body, _, ⟨b', q, hb', isAnyQuote_of_isQuote hq, ?_, hne, rfl⟩, left, ⟨b'', hb'', rfl⟩, ?_⟩
    · intro c hc
      rw [hquote c (by simp [hc]), hbody c hc]
    · rw [Text.trimLeft_append hb', Text.trimLeft_cons (isBlank_eq_false_of_isQuote hq), hitAt_eq]
      simp

theorem bareImportForm_eq_some_iff :
    bareImportForm before s = some hit ↔ opensWord before = true ∧ ∃ head q body after,
      s = head ++ q :: (body ++ q :: after) ∧ (∃ b, Blanks b ∧ head = "import".toList ++ b) ∧
      isQuote q = true ∧ Unquoted body ∧ body ≠ [] ∧
      hit = ⟨s.length - after.length, s.length - (body ++ q :: after).length, body⟩ := by
  unfold bareImportForm
  rw [Option.bind_eq_bind, guard_bind_eq_some_iff]
  refine and_congr_right fun _ => ?_
  simp only [Option.bind_eq_bind, Option.bind_eq_some_iff, Option.pure_def, Option.some.injEq,
    Text.after?_eq_some_iff, Prod.exists,
    plainLiteral?_trimLeft_eq_some_iff fun _ => isBlank_eq_false_of_isQuote]
  constructor
  · rintro ⟨_, rfl, body, after, ⟨b, q, hb, hq, hbody, hne, rfl⟩, rfl⟩
    refine ⟨_, q, body, after, (List.append_assoc ..).symm, ⟨b, hb, rfl⟩, hq, hbody, hne, ?_⟩
    rw [Text.trimLeft_append hb, Text.trimLeft_cons (isBlank_eq_false_of_isQuote hq), hitAt_eq]
    rfl
  · rintro ⟨_, q, body, after, rfl, ⟨b, hb, rfl⟩, hq, hbody, hne, rfl⟩
    refine ⟨_, List.append_assoc .., body, after, ⟨b, q, hb, hq, hbody, hne, rfl⟩, ?_⟩
    rw [Text.trimLeft_append hb, Text.trimLeft_cons (isBlank_eq_false_of_isQuote hq), hitAt_eq]
    rfl

theorem fromClause?_eq_some_iff {from_ : Text} :
    fromClause? before s = some (from_, body, after) ↔ opensWord before = true ∧ ∃ b q, Blanks b ∧
      isQuote q = true ∧ Unquoted body ∧ body ≠ [] ∧ from_ = body ++ q :: after ∧
      s = "from".toList ++ b ++ q :: from_ := by
  unfold fromClause?
  rw [Option.bind_eq_bind, guard_bind_eq_some_iff]
  refine and_congr_right fun _ => ?_
  simp only [Option.bind_eq_bind, Option.bind_eq_some_iff, Option.pure_def, Option.some.injEq,
    Text.after?_eq_some_iff, Prod.exists, Prod.mk.injEq,
    plainLiteral?_trimLeft_eq_some_iff fun _ => isBlank_eq_false_of_isQuote]
  constructor
  · rintro ⟨_, rfl, _, _, ⟨b, q, hb, hq, hbody, hne, rfl⟩, rfl, rfl, rfl⟩
    refine ⟨b, q, hb, hq, hbody, hne, ?_, ?_⟩
    · rw [Text.trimLeft_append hb, Text.trimLeft_cons (isBlank_eq_false_of_isQuote hq)]
      rfl
    · rw [Text.trimLeft_append hb, Text.trimLeft_cons (isBlank_eq_false_of_isQuote hq),
        List.append_assoc]
      rfl
  · rintro ⟨b, q, hb, hq, hbody, hne, rfl, rfl⟩
    refine ⟨_, List.append_assoc .., _, _, ⟨b, q, hb, hq, hbody, hne, rfl⟩, ?_, rfl, rfl⟩
    rw [Text.trimLeft_append hb, Text.trimLeft_cons (isBlank_eq_false_of_isQuote hq)]
    rfl

/-- The first `from` clause is the one before the first quote, so that only what stands between
matters. -/
theorem firstFromClause?_eq_some_iff {from_ : Text} :
    firstFromClause? before s = some (from_, body, after) ↔ ∃ middle b q,
      opensWord (middle.getLast?.or before) = true ∧ Unbroken middle ∧
      Blanks b ∧ isQuote q = true ∧ Unquoted body ∧ body ≠ [] ∧ from_ = body ++ q :: after ∧
      s = middle ++ "from".toList ++ b ++ q :: from_ := by
  constructor
  · intro h
    induction s generalizing before with
    | nil =>
      unfold firstFromClause? at h
      split at h
      · next hclause =>
        obtain ⟨-, b, q, -, -, -, -, -, hs⟩ := fromClause?_eq_some_iff.mp (hclause.trans h)
        simp at hs
      · cases h
    | cons c rest ih =>
      unfold firstFromClause? at h
      split at h
      · next hclause =>
        obtain ⟨hopens, b, q, hb, hq, hbody, hne, hfrom, hs⟩ :=
          fromClause?_eq_some_iff.mp (hclause.trans h)
        exact ⟨[], b, q, hopens, by simp [Unbroken], hb, hq, hbody, hne, hfrom, hs⟩
      · dsimp only at h
        split at h
        · cases h
        · next hc =>
          obtain ⟨middle, b, q, hopens, hmiddle, hb, hq, hbody, hne, hfrom, rfl⟩ := ih h
          rw [Bool.or_eq_true, decide_eq_true_eq, not_or, Bool.not_eq_true] at hc
          refine ⟨c :: middle, b, q, ?_, List.forall_mem_cons.mpr ⟨hc, hmiddle⟩, hb, hq, hbody, hne,
            hfrom, rfl⟩
          rw [Text.getLast?_cons_or]
          exact hopens
  · rintro ⟨middle, b, q, hopens, hmiddle, hb, hq, hbody, hne, rfl, rfl⟩
    induction middle generalizing before with
    | nil =>
      rw [List.getLast?_nil, Option.none_or] at hopens
      unfold firstFromClause?
      rw [List.nil_append,
        fromClause?_eq_some_iff.mpr ⟨hopens, b, q, hb, hq, hbody, hne, rfl, rfl⟩]
    | cons c middle ih =>
      obtain ⟨hc, hmiddle'⟩ := List.forall_mem_cons.mp hmiddle
      unfold firstFromClause?
      split
      · next found hclause =>
        -- a clause that begins earlier has the same literal
        obtain ⟨from', body', after'⟩ := found
        obtain ⟨-, b', q', hb', hq', hbody', hne', rfl, hs⟩ := fromClause?_eq_some_iff.mp hclause
        have hhead : Unquoted ("from".toList ++ b') :=
          unquoted_append.mpr ⟨by simp [Unquoted, isQuote], unquoted_of_blanks hb'⟩
        have hhead' : Unquoted (c :: middle ++ "from".toList ++ b) :=
          unquoted_append.mpr ⟨unquoted_append.mpr ⟨fun x hx => (hmiddle x hx).1,
            by simp [Unquoted, isQuote]⟩, unquoted_of_blanks hb⟩
        obtain ⟨-, rfl, hrest⟩ := first_quote_unique hhead' hhead hq hq' hs
        obtain ⟨rfl, -, rfl⟩ := first_quote_unique hbody hbody' hq hq hrest
        rfl
      · dsimp only [List.cons_append]
        rw [if_neg (by simp [hc.1, hc.2])]
        exact ih (by rw [← Text.getLast?_cons_or]; exact hopens) hmiddle'

theorem declarationForm_eq_some_iff :
    declarationForm before s = some hit ↔ opensWord before = true ∧ ∃ head q body after,
      s = head ++ q :: (body ++ q :: after) ∧ Clause.DeclarationHead head ∧ isQuote q = true ∧
      Unquoted body ∧ body ≠ [] ∧
      hit = ⟨s.length - after.length, s.length - (body ++ q :: after).length, body⟩ := by
  unfold declarationForm
  rw [Option.bind_eq_bind, guard_bind_eq_some_iff]
  refine and_congr_right fun _ => ?_
  have hword : ∀ rest, (after? "import".toList s).or (after? "export".toList s) = some rest ↔
      ∃ word, (word = "import".toList ∨ word = "export".toList) ∧ s = word ++ rest := by
    intro rest
    rw [Option.or_eq_some_iff, Text.after?_eq_some_iff, Text.after?_eq_some_iff]
    constructor
    · rintro (hs | ⟨-, hs⟩)
      · exact ⟨_, Or.inl rfl, hs⟩
      · exact ⟨_, Or.inr rfl, hs⟩
    · rintro ⟨word, rfl | rfl, rfl⟩
      · exact Or.inl rfl
      · exact Or.inr ⟨rfl, rfl⟩
  simp only [Option.bind_eq_bind, Option.bind_eq_some_iff, Option.pure_def, Option.some.injEq, hword,
    Option.guard_eq_some', firstFromClause?_eq_some_iff, Prod.exists]
  constructor
  · rintro ⟨_, ⟨word, himport, rfl⟩, -, hcloses, _, body, after,
      ⟨middle, b, q, hopens, hmiddle, hb, hq, hbody, hne, rfl, rfl⟩, rfl⟩
    have hnil : middle ≠ [] := by
      rintro rfl
      exact absurd (show (!Text.isWord 'f') = true from hcloses) (by decide)
    refine ⟨word ++ middle ++ "from".toList ++ b, q, body, after, by simp, ⟨word, middle, b, himport,
      hnil, ?_, ?_, hmiddle, hb, rfl⟩, hq, hbody, hne, rfl⟩
    · obtain ⟨c, middle, rfl⟩ := List.exists_cons_of_ne_nil hnil
      exact hcloses
    · rw [List.getLast?_eq_some_getLast hnil] at hopens ⊢
      exact hopens
  · rintro ⟨_, q, body, after, rfl,
      ⟨word, middle, b, himport, hnil, hcloses, hopens, hmiddle, hb, rfl⟩, hq, hbody, hne, rfl⟩
    refine ⟨middle ++ "from".toList ++ b ++ q :: (body ++ q :: after),
      ⟨word, himport, by simp⟩, (), ?_, _, body, after,
      ⟨middle, b, q, ?_, hmiddle, hb, hq, hbody, hne, rfl, rfl⟩, rfl⟩
    · obtain ⟨c, middle, rfl⟩ := List.exists_cons_of_ne_nil hnil
      exact hcloses
    · rw [List.getLast?_eq_some_getLast hnil] at hopens ⊢
      exact hopens

theorem Clause.form_eq_some_iff (k : Clause) (hback : '`' ∉ s) :
    k.form before s = some hit ↔ opensWord before = true ∧ ∃ head q body after left,
      s = head ++ q :: (body ++ q :: after) ∧ k.Head head ∧ isQuote q = true ∧ Unquoted body ∧
      body ≠ [] ∧ k.Closes after left ∧
      hit = ⟨s.length - left.length, s.length - (body ++ q :: after).length, body⟩ := by
  cases k with
  | requireCall | importCall => exact callForm_eq_some_iff hback
  | declaration => simpa [Closes, Head, form] using declarationForm_eq_some_iff
  | bareImport => simpa [Closes, Head, form] using bareImportForm_eq_some_iff

end ModuleGraph.Script
