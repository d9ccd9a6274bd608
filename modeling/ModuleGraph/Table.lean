/-! Ordered tables: each key once, in the order in which the keys came in. A known key keeps its
place when its value changes. -/

namespace ModuleGraph

abbrev Table (α β : Type) := List (α × β)

namespace Table

variable {α β : Type} [DecidableEq α]

def get? : Table α β → α → Option β
  | [], _ => none
  | (k, v) :: rest, key => if k = key then some v else get? rest key

def keys (t : Table α β) : List α := t.map (·.1)

def contains (t : Table α β) (key : α) : Bool := (get? t key).isSome

/-- A known key keeps its place, a new one comes last. -/
def set : Table α β → α → β → Table α β
  | [], key, v => [(key, v)]
  | (k, w) :: rest, key, v => if k = key then (k, v) :: rest else (k, w) :: set rest key v

def update (t more : Table α β) : Table α β := more.foldl (fun acc (k, v) => set acc k v) t

def ofList (entries : List (α × β)) : Table α β := update [] entries

theorem get?_set (t : Table α β) (key : α) (v : β) (k : α) :
    get? (set t key v) k = if k = key then some v else get? t k := by
  induction t with
  | nil => simp [get?, set, eq_comm]
  | cons m rest ih =>
    obtain ⟨k', w⟩ := m
    simp only [set]
    split
    · next h => subst h; by_cases h : k = k' <;> simp_all [get?, eq_comm]
    · next h =>
      simp only [get?, ih]
      by_cases hk : k' = k <;> by_cases hn : k = key <;> simp_all

theorem keys_set (t : Table α β) (key : α) (v : β) :
    keys (set t key v) = if key ∈ keys t then keys t else keys t ++ [key] := by
  induction t with
  | nil => rfl
  | cons m rest ih =>
    obtain ⟨k', w⟩ := m
    simp only [keys] at ih
    by_cases hk : k' = key
    · simp [keys, set, hk]
    · by_cases h : ∃ x, (key, x) ∈ rest <;> simp_all [keys, set, Ne.symm hk]

theorem get?_eq_none_iff {t : Table α β} {key : α} : get? t key = none ↔ key ∉ keys t := by
  induction t with
  | nil => simp [get?, keys]
  | cons m rest ih =>
    obtain ⟨k, v⟩ := m
    simp only [keys] at ih
    by_cases h : k = key
    · simp [get?, keys, h]
    · simp [get?, keys, h, ih, Ne.symm h]

theorem mem_keys {t : Table α β} {key : α} {v : β} (h : get? t key = some v) : key ∈ keys t := by
  refine Decidable.not_not.mp fun hnone => ?_
  rw [get?_eq_none_iff.mpr hnone] at h
  cases h

theorem exists_of_mem_keys {t : Table α β} {key : α} (h : key ∈ keys t) :
    ∃ v, get? t key = some v :=
  Option.ne_none_iff_exists'.mp fun hnone => get?_eq_none_iff.mp hnone h

theorem get?_eq_of_mem {t : Table α β} (h : (keys t).Nodup) {key : α} {v : β}
    (hmem : (key, v) ∈ t) : get? t key = some v := by
  induction t with
  | nil => cases hmem
  | cons m rest ih =>
    obtain ⟨k, w⟩ := m
    obtain ⟨hnew, hrest⟩ := List.nodup_cons.mp h
    rw [get?]
    rcases List.mem_cons.mp hmem with heq | hmem
    · cases heq
      rw [if_pos rfl]
    · have hne : k ≠ key := by
        rintro rfl
        exact hnew (List.mem_map.mpr ⟨_, hmem, rfl⟩)
      rw [if_neg hne, ih hrest hmem]

theorem eq_of_get? {t t' : Table α β} (h : (keys t).Nodup) (hkeys : keys t' = keys t)
    (hvalue : ∀ key ∈ keys t, get? t' key = get? t key) : t' = t := by
  induction t generalizing t' with
  | nil => exact List.map_eq_nil_iff.mp hkeys
  | cons m rest ih =>
    obtain ⟨k, v⟩ := m
    obtain ⟨hnew, hrest⟩ := List.nodup_cons.mp h
    cases t' with
    | nil => cases hkeys
    | cons m' rest' =>
      obtain ⟨k', v'⟩ := m'
      obtain ⟨hk, htail⟩ := List.cons.inj hkeys
      obtain rfl : k' = k := hk
      have hv := hvalue k' List.mem_cons_self
      rw [get?, get?, if_pos rfl, if_pos rfl] at hv
      obtain rfl : v' = v := Option.some.inj hv
      rw [ih hrest htail fun key hkey => ?_]
      have hne : k' ≠ key := fun hk => hnew (hk ▸ hkey)
      have hvalue := hvalue key (List.mem_cons_of_mem _ hkey)
      rwa [get?, get?, if_neg hne, if_neg hne] at hvalue

theorem get?_map_snd {γ : Type} (f : β → γ) (t : Table α β) (key : α) :
    get? (t.map fun (k, v) => (k, f v)) key = (get? t key).map f := by
  induction t with
  | nil => rfl
  | cons m rest ih =>
    obtain ⟨k, v⟩ := m
    by_cases h : k = key
    · simp [get?, h]
    · simpa [get?, h] using ih

theorem get?_map_mk (ks : List α) (f : α → β) (key : α) :
    get? (ks.map fun k => (k, f k)) key = if key ∈ ks then some (f key) else none := by
  induction ks with
  | nil => rfl
  | cons k rest ih =>
    by_cases h : k = key
    · simp [get?, h]
    · simp [get?, h, ih, Ne.symm h]

theorem mem_of_get? {t : Table α β} {key : α} {v : β} (h : get? t key = some v) :
    (key, v) ∈ t := by
  induction t with
  | nil => cases h
  | cons m rest ih =>
    obtain ⟨k, w⟩ := m
    rw [get?] at h
    split at h
    · next hk =>
      obtain rfl := Option.some.inj h
      exact hk ▸ List.mem_cons_self
    · exact List.mem_cons_of_mem _ (ih h)

theorem mem_set {t : Table α β} {key : α} {v : β} {m : α × β} (h : m ∈ set t key v) :
    m = (key, v) ∨ m ∈ t := by
  induction t with
  | nil => exact Or.inl (List.mem_singleton.mp h)
  | cons m' rest ih =>
    obtain ⟨k, w⟩ := m'
    rw [set] at h
    split at h
    · next hk =>
      rcases List.mem_cons.mp h with rfl | h
      · exact Or.inl (hk ▸ rfl)
      · exact Or.inr (List.mem_cons_of_mem _ h)
    · rcases List.mem_cons.mp h with rfl | h
      · exact Or.inr List.mem_cons_self
      · exact (ih h).imp_right (List.mem_cons_of_mem _)

theorem set_set (t : Table α β) (key : α) (v w : β) : set (set t key v) key w = set t key w := by
  induction t with
  | nil => simp [set]
  | cons m rest ih =>
    obtain ⟨k, x⟩ := m
    by_cases h : k = key
    · simp [set, h]
    · simpa [set, h] using ih

theorem set_eq_self {t : Table α β} {key : α} {v : β} (h : get? t key = some v) :
    set t key v = t := by
  induction t with
  | nil => simp [get?] at h
  | cons m rest ih =>
    obtain ⟨k, w⟩ := m
    by_cases hk : k = key
    · simp_all [get?, set]
    · simp only [get?, if_neg hk] at h
      rw [set, if_neg hk, ih h]

theorem nodup_keys_set {t : Table α β} (h : (keys t).Nodup) (key : α) (v : β) :
    (keys (set t key v)).Nodup := by
  rw [keys_set]
  split
  · exact h
  · next hkey =>
    refine List.nodup_append.mpr ⟨h, by simp, ?_⟩
    intro a ha b hb hab
    exact hkey (List.mem_singleton.mp hb ▸ hab ▸ ha)

theorem nodup_keys_update {t : Table α β} (h : (keys t).Nodup) (more : List (α × β)) :
    (keys (update t more)).Nodup := by
  induction more generalizing t with
  | nil => exact h
  | cons m rest ih => exact ih (nodup_keys_set h m.1 m.2)

theorem set_of_not_mem {t : Table α β} {key : α} (h : key ∉ keys t) (v : β) :
    set t key v = t ++ [(key, v)] := by
  induction t with
  | nil => rfl
  | cons m rest ih =>
    obtain ⟨k, w⟩ := m
    simp only [keys, List.map_cons, List.mem_cons, not_or] at h
    rw [set, if_neg (Ne.symm h.1), ih h.2, List.cons_append]

theorem update_of_disjoint {t more : Table α β} (hmore : (keys more).Nodup)
    (hnew : ∀ key ∈ keys more, key ∉ keys t) : update t more = t ++ more := by
  induction more generalizing t with
  | nil => simp [update]
  | cons m rest ih =>
    obtain ⟨k, v⟩ := m
    obtain ⟨hk, hrest⟩ := List.nodup_cons.mp hmore
    have hset : set t k v = t ++ [(k, v)] := set_of_not_mem (hnew k List.mem_cons_self) v
    have hupdate : update t ((k, v) :: rest) = update (set t k v) rest := rfl
    rw [hupdate, hset, ih hrest, List.append_assoc]
    · rfl
    · intro key hkey
      have hne : key ≠ k := fun h => hk (h ▸ hkey)
      simpa [keys, hne] using hnew key (List.mem_cons_of_mem _ hkey)

theorem get?_append (t more : Table α β) (key : α) :
    get? (t ++ more) key = (get? t key).or (get? more key) := by
  induction t with
  | nil => rfl
  | cons m rest ih =>
    obtain ⟨k, v⟩ := m
    rw [List.cons_append, get?, get?]
    split
    · rfl
    · exact ih

theorem get?_filter_key (p : α → Bool) (t : Table α β) (key : α) :
    get? (t.filter fun m => p m.1) key = if p key then get? t key else none := by
  induction t with
  | nil => simp [get?]
  | cons m rest ih =>
    obtain ⟨k, v⟩ := m
    rw [List.filter_cons]
    by_cases hp : p k = true
    · rw [if_pos hp, get?, get?, ih]
      by_cases hk : k = key
      · rw [if_pos hk, if_pos hk, if_pos (hk ▸ hp)]
      · rw [if_neg hk, if_neg hk]
    · rw [if_neg hp, ih, get?]
      by_cases hk : k = key
      · rw [if_neg (hk ▸ hp), if_neg (hk ▸ hp)]
      · rw [if_neg hk]

theorem get?_update_of_not_mem_keys {t more : Table α β} {key : α} (h : key ∉ keys more) :
    get? (update t more) key = get? t key := by
  induction more generalizing t with
  | nil => rfl
  | cons m rest ih =>
    obtain ⟨k, v⟩ := m
    obtain ⟨hne, hrest⟩ := List.ne_and_not_mem_of_not_mem_cons h
    rw [show update t ((k, v) :: rest) = update (set t k v) rest from rfl, ih hrest, get?_set,
      if_neg hne]

end Table
end ModuleGraph
