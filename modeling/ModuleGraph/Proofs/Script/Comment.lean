import ModuleGraph.Proofs.Script.Tokens

/-! A script in which no comment is found: plain characters and closed literals. Whatever a literal
holds, the scan for comments goes on behind it, so such a script stays as it is. -/

namespace ModuleGraph.Script

variable {a b s : Text}

theorem isQuote_iff {c : Char} : isQuote c = true ↔ c = '\'' ∨ c = '"' := by simp [isQuote]

theorem isAnyQuote_of_isQuote {c : Char} (h : isQuote c = true) : isAnyQuote c = true := by
  simp [isAnyQuote, h]

inductive Commentless : Text → Prop
  | nil : Commentless []
  | plain {c : Char} {rest : Text} : c ∉ ['\'', '"', '`', '/'] → Commentless rest →
      Commentless (c :: rest)
  | literal {quote : Char} {body rest : Text} : isQuote quote = true →
      (∀ c ∈ body, c ∉ [quote, '\\', '\n']) → Commentless rest →
      Commentless (quote :: (body ++ quote :: rest))

theorem Commentless.append (ha : Commentless a) (hb : Commentless b) : Commentless (a ++ b) := by
  induction ha with
  | nil => exact hb
  | plain hc _ ih => exact .plain hc ih
  | literal hquote hbody _ ih =>
    rw [List.cons_append, List.append_assoc, List.cons_append]
    exact .literal hquote hbody ih

theorem Commentless.of_plain (h : ∀ c ∈ s, c ∉ ['\'', '"', '`', '/']) : Commentless s := by
  induction s with
  | nil => exact .nil
  | cons c rest ih =>
    obtain ⟨hc, hrest⟩ := List.forall_mem_cons.mp h
    exact .plain hc (ih hrest)

theorem Commentless.exists_sequence (h : Commentless s) :
    ∃ tokens, Token.Sequence tokens ∧ tokens.flatMap Token.text = s ∧
      tokens.flatMap Token.kept = s := by
  induction h with
  | nil => exact ⟨[], .nil, rfl, rfl⟩
  | @plain c rest hc _ ih =>
    obtain ⟨tokens, hsequence, htext, hkept⟩ := ih
    have hplain : ∀ x ∈ [c], x ∉ ['\'', '"', '`', '/'] := by simpa using hc
    exact ⟨.plain [c] :: tokens, .cons (.plain hplain) trivial hsequence,
      congrArg (c :: ·) htext, congrArg (c :: ·) hkept⟩
  | @literal quote body rest hquote hbody _ ih =>
    obtain ⟨tokens, hsequence, htext, hkept⟩ := ih
    have hclosed : (Token.literal quote body).Closed := by
      refine .literal (isAnyQuote_of_isQuote hquote) (.of_plain fun c hc => ?_)
      have hmem := hbody c hc
      simp only [List.mem_cons, List.not_mem_nil, or_false, not_or] at hmem
      exact ⟨hmem.1, hmem.2.1, by simp [hmem.2.2]⟩
    refine ⟨.literal quote body :: tokens, .cons hclosed trivial hsequence, ?_, ?_⟩
    · simp [Token.text, htext]
    · simp [Token.kept, Token.text, hkept]

theorem stripComments_eq_self (h : Commentless s) : stripComments s = s := by
  obtain ⟨tokens, hsequence, htext, hkept⟩ := h.exists_sequence
  rw [← htext, hsequence.stripComments_eq, hkept, htext]

end ModuleGraph.Script
