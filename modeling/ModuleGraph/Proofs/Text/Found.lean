import ModuleGraph.Text.Scan

/-! What a scan finds in a text: where nothing begins it goes on, and where a form is recognized it
goes on behind it. -/

namespace ModuleGraph.Text

variable {form : Form} {total : Nat} {before : Option Char} {s rest left from_ marked : Text} {c : Char}

theorem getLast?_cons_or (c : Char) (s : Text) (before : Option Char) :
    (c :: s).getLast?.or before = s.getLast?.or (some c) := by
  rw [List.getLast?_cons]
  cases s.getLast? <;> rfl

/-- What a scan finds from a place on, with positions in the whole text, whose length is `total`. -/
def foundFrom (form : Form) (total : Nat) (before : Option Char) (s : Text) : List (Nat × Text) :=
  findAll form 0 (total - s.length) before s

theorem found_eq_foundFrom (form : Form) (s : Text) :
    found form s = foundFrom form s.length none s := by
  rw [foundFrom, Nat.sub_self, found]

theorem foundFrom_nil : foundFrom form total before [] = [] := rfl

theorem findAll_skip (form : Form) (skipped rest : Text) (c : Char) (position : Nat)
    (before : Option Char) : findAll form (skipped.length + 1) position before (skipped ++ c :: rest) =
      findAll form 0 (position + skipped.length + 1) (some c) rest := by
  induction skipped generalizing position before with
  | nil => rfl
  | cons x skipped ih =>
    refine (ih (position + 1) (some x)).trans ?_
    rw [List.length_cons, Nat.add_right_comm position 1, Nat.add_assoc position skipped.length 1]

theorem foundFrom_cons_of_none (h : form before (c :: rest) = none) (hle : (c :: rest).length ≤ total) :
    foundFrom form total before (c :: rest) = foundFrom form total (some c) rest := by
  rw [List.length_cons] at hle
  have hposition : total - (rest.length + 1) + 1 = total - rest.length := by omega
  rw [foundFrom, findAll, h, List.length_cons, hposition, foundFrom]

theorem foundFrom_of_hit {read : Text} (hs : s = read ++ c :: left) (hfrom : from_.length ≤ s.length)
    (h : form before s = some ⟨s.length - left.length, s.length - from_.length, marked⟩)
    (hle : s.length ≤ total) :
    foundFrom form total before s =
      (total - from_.length, marked) :: foundFrom form total (some c) left := by
  have hposition : total - s.length + (s.length - from_.length) = total - from_.length := by omega
  have hlength : s.length = read.length + left.length + 1 := by
    rw [hs, List.length_append, List.length_cons, Nat.add_assoc]
  have hrest : ∀ x tail, s = x :: tail → findAll form (s.length - left.length - 1)
      (total - s.length + 1) (some x) tail = foundFrom form total (some c) left := by
    intro x tail htail
    rw [hs] at htail
    cases read with
    | nil =>
      obtain ⟨rfl, rfl⟩ := List.cons.inj htail
      have hskip : s.length - left.length - 1 = 0 := by simp only [List.length_nil] at hlength; omega
      have hnext : total - s.length + 1 = total - left.length := by
        simp only [List.length_nil] at hlength
        omega
      rw [hskip, hnext, foundFrom]
    | cons y read =>
      rw [List.cons_append] at htail
      obtain ⟨rfl, rfl⟩ := List.cons.inj htail
      rw [List.length_cons] at hlength
      have hskip : s.length - left.length - 1 = read.length + 1 := by omega
      have hnext : total - s.length + 1 + read.length + 1 = total - left.length := by omega
      rw [hskip, findAll_skip, hnext, foundFrom]
  obtain ⟨x, tail, htail⟩ : ∃ x tail, s = x :: tail :=
    List.exists_cons_of_ne_nil fun hnil => by simp [hnil] at hlength
  rw [← hrest x tail htail, ← hposition, htail, foundFrom, findAll, ← htail, h]

theorem foundFrom_append_of_none {passed : Text}
    (h : ∀ u c t, passed = u ++ c :: t → form (u.getLast?.or before) (c :: t ++ rest) = none)
    (hle : (passed ++ rest).length ≤ total) : foundFrom form total before (passed ++ rest) =
      foundFrom form total (passed.getLast?.or before) rest := by
  induction passed generalizing before with
  | nil => rfl
  | cons c passed ih =>
    have hnone := h [] c passed rfl
    rw [List.getLast?_nil, Option.none_or, List.cons_append] at hnone
    rw [List.cons_append] at hle ⊢
    rw [foundFrom_cons_of_none hnone hle, getLast?_cons_or]
    refine ih (fun u x t hpassed => ?_) (Nat.le_of_succ_le hle)
    rw [← getLast?_cons_or]
    exact h (c :: u) x t (by rw [hpassed, List.cons_append])

def markedFrom (form : Form) (before : Option Char) (s : Text) : List Text :=
  (findAll form 0 0 before s).map Prod.snd

theorem map_snd_found (form : Form) (s : Text) :
    (found form s).map (·.2) = markedFrom form none s := rfl

theorem map_snd_findAll (form : Form) (skip position position' : Nat) (before : Option Char)
    (s : Text) : (findAll form skip position before s).map Prod.snd =
      (findAll form skip position' before s).map Prod.snd := by
  induction s generalizing skip position position' before with
  | nil => simp [findAll]
  | cons c s ih =>
    cases skip with
    | succ skip => exact ih skip (position + 1) (position' + 1) (some c)
    | zero =>
      rw [findAll, findAll]
      cases form before (c :: s) with
      | none => exact ih 0 (position + 1) (position' + 1) (some c)
      | some hit => exact congrArg (hit.marked :: ·) (ih _ (position + 1) (position' + 1) (some c))

theorem markedFrom_nil : markedFrom form before [] = [] := rfl

theorem markedFrom_of_hit {distance : Nat} (hne : s ≠ [])
    (h : form before (s ++ rest) = some ⟨s.length, distance, marked⟩) :
    ∃ last, markedFrom form before (s ++ rest) = marked :: markedFrom form last rest := by
  obtain ⟨c, skipped, rfl⟩ := List.exists_cons_of_ne_nil hne
  have hskip : ∀ (skipped : Text) (position : Nat) (before : Option Char), ∃ last,
      (findAll form skipped.length position before (skipped ++ rest)).map Prod.snd =
        markedFrom form last rest := by
    intro skipped
    induction skipped with
    | nil => exact fun position before => ⟨before, map_snd_findAll form 0 position 0 before rest⟩
    | cons x skipped ih => exact fun position before => ih (position + 1) (some x)
  obtain ⟨last, hlast⟩ := hskip skipped 1 (some c)
  refine ⟨last, ?_⟩
  rw [List.cons_append] at h ⊢
  rw [markedFrom, findAll, h, ← hlast]
  rfl

theorem markedFrom_append_of_none (before : Option Char)
    (h : ∀ u c t, s = u ++ c :: t → ∀ before, form before (c :: (t ++ rest)) = none) :
    ∃ last, markedFrom form before (s ++ rest) = markedFrom form last rest := by
  induction s generalizing before with
  | nil => exact ⟨before, rfl⟩
  | cons c s ih =>
    obtain ⟨last, hlast⟩ := ih (some c) fun u x t hs => h (c :: u) x t (by rw [hs]; rfl)
    refine ⟨last, ?_⟩
    rw [List.cons_append, markedFrom, findAll, h [] c s rfl before, ← hlast]
    exact map_snd_findAll form 0 (0 + 1) 0 (some c) (s ++ rest)

end ModuleGraph.Text
