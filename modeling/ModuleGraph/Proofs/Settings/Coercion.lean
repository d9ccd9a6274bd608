import ModuleGraph.Proofs.Text.Blank
import ModuleGraph.Settings.Validation

/-! Single values read strictly and leniently. The lenient reading takes every value. The strict one
refuses where the lenient one has something to say, and where texts are written with commas; else
both give the same. What either gives is trimmed, and is given again for itself. -/

namespace ModuleGraph.Settings

open Json (Value)

variable {α : Type} {strict : Bool} {field : Field} {v : Value}

/-- The strict reading of a value beside the lenient one. The strict one refuses if the lenient one
warns, or if the value is one of those that are converted silently. -/
inductive Agrees (silent : Prop) : Outcome α → Outcome α → Prop
  | accepted (x : α) (h : ¬ silent) : Agrees silent (.ok ⟨x, []⟩) (.ok ⟨x, []⟩)
  | refused (c : Complaint) (x : α) (ws : List Warning) (h : ws ≠ [] ∨ silent) :
    Agrees silent (.error c) (.ok ⟨x, ws⟩)

theorem Agrees.exists_lenient {silent : Prop} {s l : Outcome α} (h : Agrees silent s l) :
    ∃ c, l = .ok c := by
  cases h with
  | accepted x => exact ⟨_, rfl⟩
  | refused c x ws => exact ⟨_, rfl⟩

theorem Agrees.strict_eq_ok_iff {silent : Prop} {s l : Outcome α} (h : Agrees silent s l)
    {lenient : Coerced α} (hl : l = .ok lenient) (c : Coerced α) :
    s = .ok c ↔ c = lenient ∧ lenient.warnings = [] ∧ ¬ silent := by
  cases h with
  | accepted x hloud =>
    obtain rfl := Except.ok.inj hl
    simp [hloud, eq_comm]
  | refused complaint x ws hrefused =>
    obtain rfl := Except.ok.inj hl
    simp only [reduceCtorEq, false_iff]
    rintro ⟨-, hnone, hloud⟩
    exact hrefused.elim (fun hws => hws hnone) hloud

/-- Where nothing is converted silently, the strict reading takes what comes without warnings. -/
theorem Agrees.strict_eq_ok_iff_of_loud {s l : Outcome α} (h : Agrees False s l)
    {lenient : Coerced α} (hl : l = .ok lenient) (c : Coerced α) :
    s = .ok c ↔ c = lenient ∧ lenient.warnings = [] := by
  rw [h.strict_eq_ok_iff hl, and_iff_left not_false]

theorem agrees_complain (c : Complaint) (fallback : α) (remedy : String) (silent : Prop) :
    Agrees silent (complain true c fallback remedy) (complain false c fallback remedy) :=
  .refused c fallback _ (Or.inl (List.cons_ne_nil _ _))

theorem agrees_asText (field : Field) (fallback : Text) (v : Value) :
    Agrees False (asText true field fallback v) (asText false field fallback v) := by
  cases v with
  | null | str s => exact .accepted _ not_false
  | bool | int | float | arr | obj => exact agrees_complain ..

theorem converted?_warns {c : Coerced Bool} (h : converted? field v = some c) :
    c.warnings ≠ [] := by
  cases v with
  | int n =>
    simp only [converted?] at h
    split at h
    · obtain rfl := Option.some.inj h
      exact List.cons_ne_nil _ _
    · cases h
  | float x =>
    simp only [converted?] at h
    split at h
    · obtain rfl := Option.some.inj h
      exact List.cons_ne_nil _ _
    · cases h
  | str s =>
    simp only [converted?] at h
    split at h
    · obtain rfl := Option.some.inj h
      exact List.cons_ne_nil _ _
    · split at h
      · obtain rfl := Option.some.inj h
        exact List.cons_ne_nil _ _
      · cases h
  | null | bool | arr | obj => cases h

theorem agrees_asBool (field : Field) (fallback : Bool) (v : Value) :
    Agrees False (asBool true field fallback v) (asBool false field fallback v) := by
  cases v with
  | null | bool b => exact .accepted _ not_false
  | int | float | str | arr | obj =>
    simp only [asBool, if_true, Bool.false_eq_true, if_false]
    split
    · next c h => exact .refused _ c.value c.warnings (Or.inl (converted?_warns h))
    · exact agrees_complain ..

theorem agrees_textItems (field : Field) (i : Nat) (vs : List Value) :
    Agrees False (textItems true field i vs) (textItems false field i vs) := by
  induction vs generalizing i with
  | nil => exact .accepted [] not_false
  | cons v rest ih =>
    have hrest := ih (i + 1)
    rw [textItems.eq_def true, textItems.eq_def false]
    cases v with
    | str s =>
      dsimp only
      generalize textItems true field (i + 1) rest = s' at hrest
      generalize textItems false field (i + 1) rest = l' at hrest
      cases hrest with
      | accepted ts => exact .accepted _ not_false
      | refused c ts ws h => exact .refused c _ ws h
    | null | bool | int | float | arr | obj =>
      obtain ⟨⟨ts, ws⟩, hlenient⟩ := hrest.exists_lenient
      dsimp only
      rw [hlenient]
      exact .refused (.wrongItem field i) ts _ (Or.inl (List.cons_ne_nil _ _))

theorem agrees_asTexts (field : Field) (v : Value) :
    Agrees (∃ s, v = .str s) (asTexts true field v) (asTexts false field v) := by
  cases v with
  | null => exact .accepted [] (by simp)
  | arr items =>
    have hitems := agrees_textItems field 0 items
    have hno : (∃ s, Value.arr items = .str s) ↔ False := by simp
    rw [hno]
    exact hitems
  | str s => exact .refused _ _ _ (Or.inr ⟨s, rfl⟩)
  | bool | int | float | obj => exact agrees_complain ..

theorem agrees_asObject (field : Field) (v : Value) :
    Agrees False (asObject true field v) (asObject false field v) := by
  cases v with
  | null | obj members => exact .accepted _ not_false
  | bool | int | float | str | arr => exact agrees_complain ..

def Trimmed (t : Text) : Prop := Text.trim t = t

theorem trimmed_trim (s : Text) : Trimmed (Text.trim s) := Text.trim_trim s

def Items (ts : List Text) : Prop := ∀ t ∈ ts, Trimmed t ∧ t ≠ []

theorem asText_spec {fallback : Text} {c : Coerced Text} (h : asText false field fallback v = .ok c)
    (hfallback : Trimmed fallback) : Trimmed c.value ∧ (fallback ≠ [] → c.value ≠ []) := by
  cases v with
  | str s =>
    obtain rfl := Except.ok.inj h
    dsimp only
    split
    · exact ⟨hfallback, id⟩
    · next hne => exact ⟨trimmed_trim s, fun _ => by simpa using hne⟩
  | null | bool | int | float | arr | obj =>
    obtain rfl := Except.ok.inj h
    exact ⟨hfallback, id⟩

theorem items_textItems {i : Nat} {vs : List Value} {c : Coerced (List Text)}
    (h : textItems false field i vs = .ok c) : Items c.value := by
  induction vs generalizing i c with
  | nil =>
    obtain rfl := Except.ok.inj h
    rintro t ⟨⟩
  | cons v rest ih =>
    obtain ⟨⟨ts, ws⟩, hrest⟩ := (agrees_textItems field (i + 1) rest).exists_lenient
    have hts : Items ts := ih hrest
    rw [textItems.eq_def] at h
    cases v with
    | str s =>
      dsimp only at h
      rw [hrest] at h
      obtain rfl := Except.ok.inj h
      dsimp only
      split
      · exact hts
      · next hne =>
        intro t ht
        rcases List.mem_cons.mp ht with rfl | ht
        · exact ⟨trimmed_trim s, by simpa using hne⟩
        · exact hts t ht
    | null | bool | int | float | arr | obj =>
      dsimp only at h
      rw [hrest] at h
      obtain rfl := Except.ok.inj h
      exact hts

theorem items_commaParts (s : Text) : Items (commaParts s) := by
  intro t ht
  obtain ⟨ht, hne⟩ := List.mem_filter.mp ht
  obtain ⟨part, -, rfl⟩ := List.mem_map.mp ht
  exact ⟨trimmed_trim part, by simpa using hne⟩

theorem items_asTexts {c : Coerced (List Text)} (h : asTexts false field v = .ok c) :
    Items c.value := by
  cases v with
  | arr items => exact items_textItems h
  | str s =>
    obtain rfl := Except.ok.inj h
    exact items_commaParts s
  | null | bool | int | float | obj =>
    obtain rfl := Except.ok.inj h
    rintro t ⟨⟩

theorem asText_of_trimmed {t fallback : Text} (ht : Trimmed t) (hblank : t = [] → fallback = []) :
    asText strict field fallback (.str t) = .ok ⟨t, []⟩ := by
  rw [asText, show Text.trim t = t from ht]
  cases t with
  | nil => rw [hblank rfl]; rfl
  | cons c rest => rfl

theorem textItems_of_items {ts : List Text} (hts : Items ts) (i : Nat) :
    textItems strict field i (ts.map .str) = .ok ⟨ts, []⟩ := by
  induction ts generalizing i with
  | nil => rfl
  | cons t rest ih =>
    obtain ⟨⟨ht, hne⟩, hrest⟩ := List.forall_mem_cons.mp hts
    have hempty : t.isEmpty = false := by simpa using hne
    rw [List.map_cons, textItems.eq_def]
    dsimp only
    rw [ih hrest, show Text.trim t = t from ht]
    simp only [hempty]
    rfl

end ModuleGraph.Settings
