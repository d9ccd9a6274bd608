import Mathlib.Data.List.TakeWhile
import ModuleGraph.Proofs.Text.Blank
import ModuleGraph.Proofs.Text.Scan
import ModuleGraph.Script.Reference

/-! Scripts as sequences of tokens: plain text, slashes, literals and comments. The scan for comments
goes through a script token by token, whatever marks stand inside of a token, and leaves all of them
but the comments. It keeps the line ends of any script. -/

namespace ModuleGraph.Script

open Text (LiteralBody replaceFormsFrom)

inductive Token where
  | plain (s : Text)
  | slash
  | literal (quote : Char) (body : Text)
  | block (body : Text)
  | line (body : Text)
  deriving DecidableEq, Repr

namespace Token

def text : Token → Text
  | plain s => s
  | slash => ['/']
  | literal quote body => quote :: (body ++ [quote])
  | block body => '/' :: '*' :: (body ++ ['*', '/'])
  | line body => '/' :: '/' :: body

def kept : Token → Text
  | block body => List.replicate ((block body).text.count '\n') '\n'
  | line _ => []
  | t => t.text

/-- A literal ends with the quote it begins with, and only between backticks it may run over the end
of a line; a block comment ends with the first `*/` in it. -/
inductive Closed : Token → Prop
  | plain {s : Text} : (∀ c ∈ s, c ∉ ['\'', '"', '`', '/']) → Closed (plain s)
  | slash : Closed slash
  | literal {quote : Char} {body : Text} : isAnyQuote quote = true →
      LiteralBody quote (fun c => quote ≠ '`' && c = '\n') body → Closed (literal quote body)
  | block {body : Text} : ¬ ['*', '/'] <:+: body → Closed (block body)
  | line {body : Text} : '\n' ∉ body → Closed (line body)

/-- Whether a token can stand before `rest`: a slash opens no comment, and a line comment runs up to
the end of its line. -/
def StandsBefore : Token → Text → Prop
  | slash, rest => rest.head? ≠ some '/' ∧ rest.head? ≠ some '*'
  | line _, rest => rest = [] ∨ rest.head? = some '\n'
  | _, _ => True

inductive Sequence : List Token → Prop
  | nil : Sequence []
  | cons {t : Token} {tokens : List Token} : t.Closed → t.StandsBefore (tokens.flatMap text) →
      Sequence tokens → Sequence (t :: tokens)

variable {t : Token} {tokens : List Token} {rest s body : Text} {quote : Char}

theorem isAnyQuote_iff : isAnyQuote quote = true ↔ quote = '\'' ∨ quote = '"' ∨ quote = '`' := by
  simp [isAnyQuote, isQuote, or_assoc]

theorem commentOrLiteral_plain {c : Char} (hc : c ∉ ['\'', '"', '`', '/']) (before : Option Char)
    (rest : Text) : commentOrLiteral before (c :: rest) = none := by
  simp only [List.mem_cons, List.not_mem_nil, or_false, not_or] at hc
  obtain ⟨hsingle, hdouble, hback, hslash⟩ := hc
  unfold commentOrLiteral
  split <;> simp_all

theorem commentOrLiteral_slash (h : slash.StandsBefore rest) (before : Option Char) :
    commentOrLiteral before ('/' :: rest) = none := by
  unfold commentOrLiteral
  split
  · next heq => cases heq
  · next heq => cases heq
  · next heq => cases heq
  · next heq =>
    obtain rfl := (List.cons.inj heq).2
    exact absurd rfl h.2
  · next heq =>
    obtain rfl := (List.cons.inj heq).2
    exact absurd rfl h.1
  · rfl

theorem commentOrLiteral_literal (hquote : isAnyQuote quote = true)
    (hbody : LiteralBody quote (fun c => quote ≠ '`' && c = '\n') body) (before : Option Char)
    (rest : Text) : commentOrLiteral before ((literal quote body).text ++ rest) =
      some ⟨(literal quote body).text.length, 0, (literal quote body).text⟩ := by
  have hslash : quote ≠ '\\' := by
    rintro rfl
    exact absurd hquote (by decide)
  have hread : literal? quote (body ++ quote :: rest) =
      some ⟨(literal quote body).text.length, 0, (literal quote body).text⟩ := by
    rw [literal?, Text.literalBody?_eq_some hslash hbody]
    simp [text]
  rw [text, List.cons_append, List.append_assoc, List.singleton_append]
  rcases isAnyQuote_iff.mp hquote with rfl | rfl | rfl
  · exact hread
  · exact hread
  · exact hread

theorem commentOrLiteral_block (h : ¬ ['*', '/'] <:+: body) (before : Option Char) (rest : Text) :
    commentOrLiteral before ((block body).text ++ rest) =
      some ⟨(block body).text.length, 0, (block body).kept⟩ := by
  have hread := Text.blockBody?_eq_some h rest
  have htext : (block body).text ++ rest = '/' :: '*' :: (body ++ '*' :: '/' :: rest) := by
    simp [text]
  have hcount : (block body).text.count '\n' = body.count '\n' := by simp [text]
  rw [htext, commentOrLiteral, hread, kept, hcount]
  simp [text]

theorem takeWhile_line (hbody : '\n' ∉ body) (h : (line body).StandsBefore rest) :
    (body ++ rest).takeWhile (· ≠ '\n') = body := by
  have hall : ∀ c ∈ body, decide (c ≠ '\n') = true := by
    intro c hc
    exact decide_eq_true fun heq => hbody (heq ▸ hc)
  rw [List.takeWhile_append_of_pos hall]
  rcases h with rfl | h
  · simp
  · obtain ⟨rest, rfl⟩ := List.head?_eq_some_iff.mp h
    simp

theorem commentOrLiteral_line (hbody : '\n' ∉ body) (h : (line body).StandsBefore rest)
    (before : Option Char) : commentOrLiteral before ((line body).text ++ rest) =
      some ⟨(line body).text.length, 0, []⟩ := by
  rw [text, List.cons_append, List.cons_append, commentOrLiteral, takeWhile_line hbody h]
  rfl

/-- The scan goes on behind a token, and has left what is kept of it. -/
theorem replaceFormsFrom_token (hclosed : t.Closed) (hstands : t.StandsBefore rest)
    (before : Option Char) : ∃ last, replaceFormsFrom commentOrLiteral 0 before (t.text ++ rest) =
      t.kept ++ replaceFormsFrom commentOrLiteral 0 last rest := by
  cases hclosed with
  | plain hplain =>
    exact Text.Unchanged.of_none (fun c hc => commentOrLiteral_plain (hplain c hc)) before rest
  | slash =>
    refine ⟨some '/', ?_⟩
    rw [text, List.singleton_append, replaceFormsFrom, commentOrLiteral_slash hstands]
    rfl
  | literal hquote hbody =>
    exact Text.replaceFormsFrom_of_hit (List.cons_ne_nil _ _)
      (commentOrLiteral_literal hquote hbody before rest)
  | block hbody =>
    exact Text.replaceFormsFrom_of_hit (List.cons_ne_nil _ _)
      (commentOrLiteral_block hbody before rest)
  | line hbody =>
    exact Text.replaceFormsFrom_of_hit (List.cons_ne_nil _ _)
      (commentOrLiteral_line hbody hstands before)

theorem Sequence.stripComments_eq (h : Sequence tokens) :
    stripComments (tokens.flatMap text) = tokens.flatMap kept := by
  have hfrom : ∀ before, replaceFormsFrom commentOrLiteral 0 before (tokens.flatMap text) =
      tokens.flatMap kept := by
    induction h with
    | nil => exact fun before => rfl
    | cons hclosed hstands _ ih =>
      intro before
      obtain ⟨last, hlast⟩ := replaceFormsFrom_token hclosed hstands before
      rw [List.flatMap_cons, hlast, ih, List.flatMap_cons]
  exact hfrom none

theorem literal?_eq_some {hit : Text.Hit} (h : literal? quote rest = some hit) :
    hit.marked <+: quote :: rest ∧ hit.length = hit.marked.length := by
  obtain ⟨⟨body, after⟩, hbody, rfl⟩ := Option.map_eq_some_iff.mp h
  exact ⟨⟨after, by simp [Text.literalBody?_append hbody]⟩, by simp⟩

theorem count_marked {hit : Text.Hit} {before : Option Char}
    (h : commentOrLiteral before s = some hit) :
    0 < hit.length ∧ hit.marked.count '\n' = (s.take hit.length).count '\n' := by
  have hliteral : ∀ quote rest, literal? quote rest = some hit →
      0 < hit.length ∧ hit.marked.count '\n' = ((quote :: rest).take hit.length).count '\n' := by
    intro quote rest hread
    obtain ⟨htoken, hlength⟩ := literal?_eq_some hread
    obtain ⟨⟨body, after⟩, -, rfl⟩ := Option.map_eq_some_iff.mp hread
    rw [hlength]
    exact ⟨Nat.succ_pos _, congrArg _ (List.prefix_iff_eq_take.mp htoken)⟩
  unfold commentOrLiteral at h
  split at h
  · exact hliteral _ _ h
  · exact hliteral _ _ h
  · exact hliteral _ _ h
  · next rest =>
    obtain ⟨⟨body, after⟩, hbody, rfl⟩ := Option.map_eq_some_iff.mp h
    have hsplit : '/' :: '*' :: rest = (block body).text ++ after := by
      simp [text, Text.blockBody?_append hbody]
    have htake : ('/' :: '*' :: rest).take (body.length + 4) = (block body).text := by
      rw [hsplit, List.take_left' (by simp [text])]
    dsimp only
    rw [htake]
    simp [text]
  · next rest =>
    obtain rfl := Option.some.inj h
    refine ⟨Nat.succ_pos _, ?_⟩
    have htake : rest.take (rest.takeWhile (· ≠ '\n')).length = rest.takeWhile (· ≠ '\n') :=
      (List.prefix_iff_eq_take.mp (List.takeWhile_prefix _)).symm
    rw [List.take_succ_cons, List.take_succ_cons, htake]
    have hnone : '\n' ∉ rest.takeWhile (· ≠ '\n') := fun hmem => by
      simpa using List.mem_takeWhile_imp hmem
    have hnone' : '\n' ∉ '/' :: '/' :: rest.takeWhile (· ≠ '\n') :=
      List.not_mem_cons_of_ne_of_not_mem (by decide)
        (List.not_mem_cons_of_ne_of_not_mem (by decide) hnone)
    exact (List.count_eq_zero_of_not_mem hnone').symm
  · cases h

/-- Of a script that is a sequence of tokens, a scan for comments leaves the same sequence without its
line comments and with the line ends of its block comments. Of any script, it leaves all line ends. -/
theorem comments_stripped_token_by_token :
    (∀ tokens, Sequence tokens →
      stripComments (tokens.flatMap text) = tokens.flatMap kept) ∧
    ∀ source, (stripComments source).count '\n' = source.count '\n' := by
  refine ⟨fun tokens h => h.stripComments_eq, fun source => ?_⟩
  exact Text.count_replaceFormsFrom '\n' (fun before s hit => count_marked) 0 none source

theorem comments_among_literals_stripped :
    let tokens := [literal '\'' ['/', '*', '\\', '\''], slash, plain [' '], block ['\'', '\n'],
      literal '`' ['/', '/', '\n'], line ['"']]
    Sequence tokens ∧ stripComments (tokens.flatMap text) =
      ['\'', '/', '*', '\\', '\'', '\'', '/', ' ', '\n', '`', '/', '/', '\n', '`'] := by
  intro tokens
  have hsequence : Sequence tokens := by
    refine .cons (.literal (by decide) ?_) trivial ?_
    · exact .plain (by decide) (by decide) (by decide) (.plain (by decide) (by decide) (by decide)
        (.pair .nil))
    refine .cons .slash ⟨by decide, by decide⟩ ?_
    refine .cons (.plain (Text.forall_mem_of_all (by decide))) trivial ?_
    refine .cons (.block (by decide)) trivial ?_
    refine .cons (.literal (by decide) (.of_plain (Text.forall_mem_of_all (by decide))))
      trivial ?_
    exact .cons (.line (by decide)) (Or.inl rfl) .nil
  exact ⟨hsequence, (comments_stripped_token_by_token.1 tokens hsequence).trans (by decide)⟩

end Token
end ModuleGraph.Script
