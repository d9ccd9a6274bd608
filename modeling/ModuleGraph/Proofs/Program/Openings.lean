import ModuleGraph.Proofs.Program.Statements

/-! What a reader of statements tells. The word with which an import statement begins is one of the
tokens that are read, those of further statements come behind it, and each word `import` that is
read belongs to one of the statements. -/

namespace ModuleGraph.Program

def Import.keyword : Import → String
  | .modules _ => "import"
  | .members _ _ _ => "from"

def openings (b : Block) : List Token :=
  (Statement.writtenIn b).map fun i => ⟨word i.2.keyword, i.1⟩

namespace Reader

variable {plain : Bool} {α β : Type} {told : List Token} {met : Nat} {p : StatementReader α}
  {f : α → StatementReader β} {ts : List Token} {tells : α → List Token} {tells' : β → List Token}

/-- What the result of a reader tells has been told before or is read, in this order, and there
is a token told for each word `import` that has been met before or is read. -/
def TellsFrom (told : List Token) (met : Nat) (p : StatementReader α) (tells : α → List Token)
    (ts : List Token) : Prop :=
  ∀ r, p ts = .ok r → (tells r.value ++ r.rest).Sublist (told ++ ts) ∧
    (tells r.value).length + importWords r.rest = met + importWords ts

abbrev Tells (told : List Token) (p : StatementReader α) (tells : α → List Token)
    (ts : List Token) : Prop :=
  TellsFrom told told.length p tells ts

theorem bind_eq_ok {p : ReaderOf plain α} {f : α → ReaderOf plain β} {r : Read plain β ts}
    (h : (p >>= f) ts = .ok r) :
    ∃ (r₁ : Read plain α ts) (r₂ : Read plain β r₁.rest), p ts = .ok r₁ ∧
      f r₁.value r₁.rest = .ok r₂ ∧ r₂.value = r.value ∧ r₂.rest = r.rest := by
  change Reader.bind p f ts = .ok r at h
  unfold Reader.bind at h
  split at h
  · cases h
  · next a rest _ _ hp =>
    split at h
    · cases h
    · next b rest' _ _ hf =>
      cases h
      exact ⟨_, _, hp, hf, rfl, rfl⟩

theorem liftM_eq_ok {p : Reader α} {r : Read false α ts}
    (h : (liftM p : StatementReader α) ts = .ok r) :
    ∃ r' : Read true α ts, p ts = .ok r' ∧ r'.value = r.value ∧ r'.rest = r.rest := by
  change (p ts).map _ = .ok r at h
  cases hp : p ts with
  | error e => rw [hp] at h; cases h
  | ok r' => rw [hp] at h; cases h; exact ⟨r', rfl, rfl, rfl⟩

theorem advance_eq_ok {r : Read true Unit ts} (h : advance ts = .ok r) : r.rest = ts.drop 1 := by
  unfold advance at h
  split at h
  · cases h
    rfl
  · split at h <;> cases h
    rfl

theorem accept_eq_true {k : Kind} {r : Read true Bool ts} (h : accept k ts = .ok r)
    (hr : r.value = true) : (head ts).kind = k ∧ r.rest = ts.drop 1 := by
  obtain ⟨r₁, r₂, h₁, h₂, hvalue, hrest⟩ := bind_eq_ok h
  cases h₁
  split at h₂
  · next hkind =>
    obtain ⟨r₃, r₄, h₃, h₄, -, hrest'⟩ := bind_eq_ok h₂
    cases h₄
    exact ⟨hkind, (hrest'.trans hrest).symm.trans (advance_eq_ok h₃)⟩
  · cases h₂
    rw [← hvalue] at hr
    cases hr

theorem expect_eq_ok {k : Kind} {r : Read true Unit ts} (h : expect k ts = .ok r) :
    (head ts).kind = k ∧ r.rest = ts.drop 1 := by
  obtain ⟨r₁, r₂, h₁, h₂, -, hrest⟩ := bind_eq_ok h
  split at h₂
  · next hr =>
    cases h₂
    rw [← hrest]
    exact accept_eq_true h₁ hr
  · cases h₂

theorem cons_drop_of_head {k : Kind} (hk : k ≠ .endOfInput) (h : (head ts).kind = k) :
    ts = ⟨k, (head ts).place⟩ :: ts.drop 1 := by
  cases ts with
  | nil => exact absurd h.symm hk
  | cons t ts => rw [← h]; rfl

namespace TellsFrom

theorem pure {a : α} (h : (tells a).Sublist told) (hmet : (tells a).length = met) :
    TellsFrom told met (Pure.pure a) tells ts := by
  intro r hr
  cases hr
  exact ⟨h.append_right ts, congrArg (· + _) hmet⟩

theorem all {a : α} (h : tells a = told) : Tells told (Pure.pure a) tells ts :=
  .pure (h ▸ List.Sublist.refl _) (congrArg _ h)

theorem refuse (cause : Cause) : TellsFrom told met (Reader.refuse cause) tells ts :=
  fun _ hr => nomatch hr

theorem of_bind (h : ∀ r₁, p ts = .ok r₁ → ∀ r₂, f r₁.value r₁.rest = .ok r₂ →
      (tells' r₂.value ++ r₂.rest).Sublist (told ++ ts) ∧
        (tells' r₂.value).length + importWords r₂.rest = met + importWords ts) :
    TellsFrom told met (p >>= f) tells' ts := by
  intro r hr
  obtain ⟨r₁, r₂, h₁, h₂, hvalue, hrest⟩ := bind_eq_ok hr
  rw [← hvalue, ← hrest]
  exact h r₁ h₁ r₂ h₂

theorem bind (hp : Tells [] p tells ts)
    (hf : ∀ a ts', Tells (told ++ tells a) (f a) tells' ts') : Tells told (p >>= f) tells' ts := by
  refine of_bind fun r₁ h₁ r₂ h₂ => ?_
  obtain ⟨hsublist₁, hmet₁⟩ := hp r₁ h₁
  obtain ⟨hsublist₂, hmet₂⟩ := hf r₁.value r₁.rest r₂ h₂
  refine ⟨hsublist₂.trans ?_, ?_⟩
  · rw [List.append_assoc]
    exact hsublist₁.append_left told
  · rw [hmet₂, List.length_append, Nat.add_assoc, hmet₁, List.length_nil, Nat.zero_add]

theorem skip {p : Reader α} (h : ∀ a ts', TellsFrom told met (f a) tells' ts') :
    TellsFrom told met (liftM p >>= f) tells' ts := by
  refine of_bind fun r₁ h₁ r₂ h₂ => ?_
  obtain ⟨r', -, -, hrest⟩ := liftM_eq_ok h₁
  obtain ⟨hsublist, hmet⟩ := h r₁.value r₁.rest r₂ h₂
  refine ⟨hsublist.trans (r₁.left.sublist.append_left told), ?_⟩
  rw [hmet, ← hrest, r'.bare rfl]

theorem look {p : Reader α} {a : α} (hp : ∃ hleft hbare, p ts = .ok ⟨a, ts, hleft, hbare⟩)
    (h : TellsFrom told met (f a) tells' ts) : TellsFrom told met (liftM p >>= f) tells' ts := by
  refine of_bind fun r₁ h₁ r₂ h₂ => ?_
  obtain ⟨r', h', hvalue, hrest⟩ := liftM_eq_ok h₁
  obtain ⟨_, _, hp⟩ := hp
  obtain rfl := Except.ok.inj (h'.symm.trans hp)
  cases r₁
  cases hvalue
  cases hrest
  exact h r₂ h₂

theorem expect {k : Kind} {f : Unit → StatementReader β} (hk : k ≠ .endOfInput)
    (h : ∀ ts', TellsFrom (told ++ [⟨k, (head ts).place⟩]) met (f ()) tells' ts') :
    TellsFrom told met (liftM (Reader.expect k) >>= f) tells' ts := by
  refine of_bind fun r₁ h₁ r₂ h₂ => ?_
  obtain ⟨r', h', -, hrest⟩ := liftM_eq_ok h₁
  obtain ⟨hkind, hdrop⟩ := expect_eq_ok h'
  obtain ⟨hsublist, hmet⟩ := h r₁.rest r₂ h₂
  refine ⟨hsublist.trans ?_, ?_⟩
  · rw [← hrest, hdrop, List.append_assoc, List.singleton_append, ← cons_drop_of_head hk hkind]
  · rw [hmet, ← hrest, r'.bare rfl]

theorem importWord {f : Unit → StatementReader β}
    (h : ∀ ts', TellsFrom (told ++ [⟨word "import", (head ts).place⟩]) (met + 1) (f ())
      tells' ts') :
    TellsFrom told met (Reader.importWord >>= f) tells' ts := by
  refine of_bind fun r₁ h₁ r₂ h₂ => ?_
  obtain ⟨hsublist, hmet⟩ := h r₁.rest r₂ h₂
  unfold Reader.importWord at h₁
  split at h₁
  · next hkind =>
    have hne : word "import" ≠ .endOfInput := nofun
    have hts := cons_drop_of_head hne hkind
    have hwords : importWords ts = importWords (ts.drop 1) + 1 := by
      rw [hts]
      exact List.countP_cons_of_pos (decide_eq_true rfl)
    cases h₁
    refine ⟨hsublist.trans ?_, ?_⟩
    · rw [List.append_assoc, List.singleton_append, ← hts]
    · rw [hmet, hwords, Nat.add_assoc, Nat.add_comm 1]
  · cases h₁

theorem many {n : Nat} {p : StatementReader (Option α)} (tells : α → List Token)
    (h : ∀ ts, Tells [] p (fun a => a.elim [] tells) ts) :
    Tells [] (Reader.many n p) (fun as => as.flatMap tells) ts := by
  induction n generalizing ts with
  | zero => exact .all rfl
  | succ n ih =>
    unfold Reader.many
    refine (h ts).bind fun a ts' => ?_
    cases a with
    | none => exact .all rfl
    | some a => exact ih.bind fun as ts' => .all rfl

end TellsFrom
end Reader

theorem openings_append (b b' : Block) : openings (b ++ b') = openings b ++ openings b' := by
  rw [openings, Statement.writtenIn_append, List.map_append]
  rfl

theorem openings_compound (inner : Block) : openings [.compound inner] = openings inner := by
  rw [openings, Statement.writtenIn, Statement.written, Statement.writtenIn, List.append_nil]
  rfl

theorem openings_flatten (bs : List Block) : openings bs.flatten = bs.flatMap openings := by
  induction bs with
  | nil => rfl
  | cons b bs ih => rw [List.flatten_cons, openings_append, ih, List.flatMap_cons]

theorem openings_map_compound (bs : List Block) :
    openings (bs.map .compound) = bs.flatMap openings := by
  induction bs with
  | nil => rfl
  | cons b bs ih =>
    rw [List.map_cons, ← List.singleton_append, openings_append, openings_compound, ih,
      List.flatMap_cons]

theorem openings_eq_flatMap (b : Block) : openings b = b.flatMap fun s => openings [s] := by
  induction b with
  | nil => rfl
  | cons s b ih =>
    rw [List.flatMap_cons, ← ih, ← openings_append]
    rfl

namespace Statement

open Reader Expression

variable {k : Inner} {body : StatementReader Block} {ts : List Token}

theorem openings_ifParts (otherwise first : Block) (more : List Block) :
    openings (ifParts otherwise first more) =
      openings first ++ (more.flatMap openings ++ openings otherwise) := by
  induction more generalizing first with
  | nil => rw [ifParts, openings_append]; rfl
  | cons next more ih =>
    rw [ifParts, openings_append, openings_compound, ih, List.flatMap_cons, List.append_assoc]

theorem tells_importModules :
    Tells [] (importModules k) (fun i => [⟨word i.keyword, (head ts).place⟩]) ts :=
  .importWord fun _ => .skip fun _ _ => .all rfl

theorem tells_importMembers :
    Tells [] (importMembers k) (fun i => [⟨word i.keyword, (head ts).place⟩]) ts := by
  refine .expect nofun fun _ => .skip fun level _ => .skip fun source _ => ?_
  split
  · exact .refuse _
  · -- The word `import` behind the name counts, but it is not the one that is told.
    refine .importWord fun _ => .skip fun names _ => .pure ?_ rfl
    exact List.sublist_append_left _ _

theorem tells_simpleStatement : Tells [] (simpleStatement k) (fun s => openings [s]) ts := by
  refine .look ⟨_, _, rfl⟩ (.look ⟨_, _, rfl⟩ ?_)
  split
  · exact tells_importModules.bind fun _ _ => .all rfl
  · exact tells_importMembers.bind fun _ _ => .all rfl
  · exact .skip fun _ _ => .all rfl

theorem tells_simpleLine : Tells [] (simpleLine k) openings ts := by
  refine tells_simpleStatement.bind fun first _ => ?_
  refine .bind (.many (fun s => openings [s]) fun _ => .skip fun _ _ => ?_) fun more _ => ?_
  · split
    · refine .skip fun _ _ => ?_
      split
      · exact .all rfl
      · exact tells_simpleStatement.bind fun _ _ => .all rfl
    · exact .all rfl
  · refine .skip fun _ _ => .all ?_
    rw [List.nil_append, ← openings_eq_flatMap, ← openings_append]
    rfl

section

variable (hbody : ∀ ts, Tells [] body openings ts)

include hbody

theorem tells_blockAfter (owner : String) (ownerLine : Nat) :
    Tells [] (blockAfter k owner ownerLine body) openings ts := by
  refine .skip fun _ _ => .skip fun _ _ => ?_
  split
  · refine .skip fun _ _ => ?_
    split
    · exact (hbody _).bind fun _ _ => .skip fun _ _ => .all rfl
    · exact .refuse _
  · exact tells_simpleLine

theorem tells_plainBlock? (keyword owner : String) :
    Tells [] (plainBlock? k body keyword owner) (fun b => b.elim [] openings) ts := by
  refine .skip fun _ _ => .skip fun _ _ => ?_
  split
  · exact (tells_blockAfter hbody _ _).bind fun _ _ => .all rfl
  · exact .all rfl

theorem tells_elseBlock : Tells [] (elseBlock k body) openings ts := by
  refine (tells_plainBlock? hbody _ _).bind fun b _ => .all ?_
  cases b <;> rfl

theorem tells_conditional (owner : String) (ownerLine : Nat) :
    Tells [] (conditional k body owner ownerLine) openings ts :=
  .skip fun _ _ => tells_blockAfter hbody _ _

theorem tells_ifStatement : Tells [] (ifStatement k body) openings ts := by
  refine .skip fun _ _ => .skip fun _ _ => (tells_conditional hbody _ _).bind fun first _ => ?_
  refine .bind (.many openings fun _ => .skip fun _ _ => .skip fun _ _ => ?_) fun more _ => ?_
  · split
    · exact (tells_conditional hbody _ _).bind fun _ _ => .all rfl
    · exact .all rfl
  · refine (tells_elseBlock hbody).bind fun otherwise _ => .all ?_
    rw [openings_ifParts, List.nil_append, List.append_assoc]

theorem tells_whileStatement : Tells [] (whileStatement k body) openings ts := by
  refine .skip fun _ _ => .skip fun _ _ => (tells_conditional hbody _ _).bind fun first _ => ?_
  exact (tells_elseBlock hbody).bind fun otherwise _ => .all (openings_append first otherwise)

theorem tells_forStatement : Tells [] (forStatement k body) openings ts := by
  refine .skip fun _ _ => .skip fun _ _ => .skip fun _ _ => ?_
  refine (tells_blockAfter hbody _ _).bind fun first _ => ?_
  exact (tells_elseBlock hbody).bind fun otherwise _ => .all (openings_append first otherwise)

theorem tells_withStatement : Tells [] (withStatement k body) openings ts :=
  .skip fun _ _ => .skip fun _ _ => .skip fun _ _ => tells_blockAfter hbody _ _

theorem tells_handler? (grouped : Bool) :
    Tells [] (handler? k body grouped) (fun b => b.elim [] openings) ts := by
  refine .skip fun _ _ => .skip fun _ _ => ?_
  split
  · exact (tells_blockAfter hbody _ _).bind fun _ _ => .all rfl
  · exact .all rfl

theorem tells_tryStatement : Tells [] (tryStatement k body) openings ts := by
  refine .skip fun _ _ => .skip fun _ _ => (tells_blockAfter hbody _ _).bind fun first _ => ?_
  extract_lets finallyBlock
  have hfinally : ∀ ts, Tells [] finallyBlock (fun b => b.elim [] openings) ts :=
    fun _ => tells_plainBlock? hbody _ _
  refine (hfinally _).bind fun last _ => ?_
  cases last with
  | some last => exact .all (openings_append first last)
  | none =>
    rw [List.nil_append, Option.elim_none, List.append_nil]
    refine .skip fun _ _ => ?_
    extract_lets grouped
    refine .bind (.many openings fun _ => tells_handler? hbody _) fun handlers _ => ?_
    split
    · exact .refuse _
    · refine (tells_elseBlock hbody).bind fun otherwise _ => (hfinally _).bind fun last _ => .all ?_
      rw [openings_append, openings_append, openings_append, openings_map_compound,
        List.append_assoc, List.append_assoc]
      cases last <;> rfl

theorem tells_functionDefinition : Tells [] (functionDefinition k body) openings ts :=
  .skip fun _ _ => .skip fun _ _ => tells_blockAfter hbody _ _

theorem tells_classDefinition : Tells [] (classDefinition k body) openings ts :=
  .skip fun _ _ => .skip fun _ _ => tells_blockAfter hbody _ _

theorem tells_asynchronous : Tells [] (asynchronous k body) openings ts := by
  refine .skip fun _ _ => ?_
  split
  · exact tells_functionDefinition hbody
  · exact tells_withStatement hbody
  · exact tells_forStatement hbody
  · exact .refuse _

theorem tells_decorated : Tells [] (decorated k body) openings ts := by
  refine .skip fun _ _ => .skip fun _ _ => ?_
  split
  · exact tells_functionDefinition hbody
  · exact tells_classDefinition hbody
  · refine .skip fun _ _ => .skip fun _ _ => ?_
    split
    · exact tells_functionDefinition hbody
    · exact .refuse _
  · exact .refuse _

theorem tells_case? : Tells [] (case? k body) (fun b => b.elim [] openings) ts := by
  refine .skip fun _ _ => .skip fun _ _ => ?_
  split
  · exact (tells_blockAfter hbody _ _).bind fun _ _ => .all rfl
  · exact .all rfl

theorem tells_cases : Tells [] (cases k body) openings ts := by
  refine .bind (.many openings fun _ => tells_case? hbody) fun found _ => ?_
  split
  · exact .refuse _
  · exact .skip fun _ _ => .all (openings_map_compound found)

theorem tells_statement : Tells [] (statement k body) openings ts := by
  have hcompound : ∀ {p : StatementReader Block}, (∀ ts, Tells [] p openings ts) →
      ∀ ts, Tells [] (do return [.compound (← p)]) openings ts := by
    intro p hp ts
    exact (hp ts).bind fun b _ => .all (openings_compound b)
  refine .skip fun next _ => ?_
  split
  · exact hcompound (fun _ => tells_ifStatement hbody) _
  · exact hcompound (fun _ => tells_whileStatement hbody) _
  · exact hcompound (fun _ => tells_forStatement hbody) _
  · exact hcompound (fun _ => tells_withStatement hbody) _
  · exact hcompound (fun _ => tells_tryStatement hbody) _
  · exact hcompound (fun _ => tells_functionDefinition hbody) _
  · exact hcompound (fun _ => tells_classDefinition hbody) _
  · exact .skip fun _ => hcompound fun _ => tells_asynchronous hbody
  · exact hcompound (fun _ => tells_decorated hbody) _
  · refine .skip fun header _ => ?_
    cases header with
    | some => exact hcompound (fun _ => tells_cases hbody) _
    | none => exact tells_simpleLine
  · exact tells_simpleLine

theorem tells_untilEnd : Tells [] (untilEnd k body) openings ts := by
  refine .bind (.many openings fun _ => .skip fun _ _ => ?_) fun parts _ => ?_
  · split
    · exact .all rfl
    · exact .all rfl
    · exact (tells_statement hbody).bind fun _ _ => .all rfl
  · exact .all (openings_flatten parts)

end

theorem tells_block (fuel : Nat) : Tells [] (block k fuel) openings ts := by
  induction fuel generalizing ts with
  | zero => exact .refuse _
  | succ fuel ih => exact tells_untilEnd fun _ => ih

theorem tells_wholeProgram (isCharacterName : Text → Bool) (fuel : Nat) :
    Tells [] (wholeProgram isCharacterName fuel) openings ts :=
  (tells_block fuel).bind fun _ _ => .skip fun _ _ => .all rfl

end Statement

end ModuleGraph.Program
