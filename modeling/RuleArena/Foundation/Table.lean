import RuleArena.Foundation.Checked

/-!
# Keyed tables

A table is a list of rows of which each has a key. Rows are looked up by their
key, replaced under it and inserted at the end.

The rules say what each operation does to a lookup and to the sum of a column:
`find?_update`, `find?_append` and `sum_update`, the last one where the keys of
the rows differ (`Keyed`).
-/

namespace RuleArena

namespace Table

variable {κ α : Type} [DecidableEq κ] {key : α → κ}

/-- The first row with a key. -/
def find? (key : α → κ) (rows : List α) (k : κ) : Option α := rows.find? fun r => key r = k

/-- Replace the rows that have the key of a row by it. -/
def update (key : α → κ) (rows : List α) (row : α) : List α :=
  rows.map fun r => if key r = key row then row else r

/-- The keys of the rows differ. -/
def Keyed (key : α → κ) (rows : List α) : Prop := (rows.map key).Nodup

/-- The value of a column in the row with a key, zero where there is none. -/
def valueAt (key : α → κ) (f : α → ℤ) (rows : List α) (k : κ) : ℤ :=
  ((find? key rows k).map f).getD 0

/-! ## Lookups -/

theorem mem_of_find? {rows : List α} {k : κ} {r : α} (h : find? key rows k = some r) : r ∈ rows :=
  List.mem_of_find?_eq_some h

theorem key_of_find? {rows : List α} {k : κ} {r : α} (h : find? key rows k = some r) :
    key r = k := by
  simpa using List.find?_some h

theorem find?_eq_none {rows : List α} {k : κ} : find? key rows k = none ↔ k ∉ rows.map key := by
  simp [find?]

/-- In a keyed table every row is the one found under its key. -/
theorem find?_of_mem {rows : List α} (hk : Keyed key rows) {r : α} (h : r ∈ rows) :
    find? key rows (key r) = some r := by
  induction rows with
  | nil => simp at h
  | cons a rows ih =>
    rw [Keyed, List.map_cons, List.nodup_cons] at hk
    rcases List.mem_cons.1 h with rfl | h
    · simp [find?]
    · have ne : key a ≠ key r := fun e => hk.1 (e ▸ List.mem_map_of_mem h)
      simpa [find?, ne] using ih hk.2 h

/-- The rows with a key are the one found under it. -/
theorem filter_eq {rows : List α} (hk : Keyed key rows) (k : κ) :
    rows.filter (fun r => key r = k) = (find? key rows k).toList := by
  induction rows with
  | nil => rfl
  | cons a rows ih =>
    rw [Keyed, List.map_cons, List.nodup_cons] at hk
    by_cases ha : key a = k
    · have rest : rows.filter (fun r => key r = k) = [] := by
        rw [List.filter_eq_nil_iff]
        intro r hr e
        refine hk.1 ?_
        rw [ha, ← of_decide_eq_true e]
        exact List.mem_map_of_mem hr
      simp [find?, ha, rest]
    · simpa [find?, ha] using ih hk.2

/-- The order of the rows does not matter to a lookup. -/
theorem find?_perm {rows rows' : List α} (hk : Keyed key rows) (hp : rows'.Perm rows) (k : κ) :
    find? key rows' k = find? key rows k := by
  have hk' : Keyed key rows' := (hp.map key).nodup_iff.2 hk
  cases h : find? key rows k with
  | none =>
    rw [find?_eq_none] at h ⊢
    exact fun hm => h ((hp.map key).mem_iff.1 hm)
  | some r =>
    rw [← key_of_find? h]
    exact find?_of_mem hk' (hp.mem_iff.2 (mem_of_find? h))

@[simp] theorem map_key_update (rows : List α) (row : α) :
    (update key rows row).map key = rows.map key := by
  rw [update, List.map_map]
  refine List.map_congr_left fun r _ => ?_
  simp only [Function.comp_apply]
  split <;> simp_all

@[simp] theorem length_update (rows : List α) (row : α) :
    (update key rows row).length = rows.length := List.length_map _

theorem find?_update (rows : List α) (row : α) (k : κ) :
    find? key (update key rows row) k =
      if k = key row then (find? key rows k).map fun _ => row else find? key rows k := by
  induction rows with
  | nil => simp [find?, update]
  | cons a rows ih =>
    simp only [find?, update, List.map_cons, List.find?_cons] at ih ⊢
    by_cases ha : key a = key row <;> by_cases hk : k = key row <;> simp_all
    have : key row ≠ k := fun e => hk e.symm
    simp [this]

theorem find?_append (rows : List α) (row : α) (k : κ) :
    find? key (rows ++ [row]) k =
      (find? key rows k).or (if key row = k then some row else none) := by
  by_cases h : key row = k <;> simp [find?, List.find?_append, h]

theorem mem_update {rows : List α} {row r : α} (h : r ∈ update key rows row) :
    r = row ∨ r ∈ rows ∧ key r ≠ key row := by
  obtain ⟨a, ha, rfl⟩ := List.mem_map.1 h
  by_cases e : key a = key row
  · exact .inl (if_pos e)
  · exact .inr (by simpa [e] using ha)

theorem mem_update_self {rows : List α} {row old : α} (h : find? key rows (key row) = some old) :
    row ∈ update key rows row :=
  List.mem_map.2 ⟨old, mem_of_find? h, if_pos (key_of_find? h)⟩

/-- Of two rows with the same key the later one stays. -/
theorem update_update {rows : List α} {first second : α} (h : key first = key second) :
    update key (update key rows first) second = update key rows second := by
  rw [update, update, List.map_map, update]
  refine List.map_congr_left fun r _ => ?_
  simp only [Function.comp_apply, ← h]
  split <;> simp_all

/-- In a keyed table only one row is replaced. -/
theorem map_update {β : Type} {rows : List α} (hk : Keyed key rows) {row old : α}
    (h : find? key rows (key row) = some old) (f : α → β) (same : f row = f old) :
    (update key rows row).map f = rows.map f := by
  rw [update, List.map_map]
  refine List.map_congr_left fun r hr => ?_
  simp only [Function.comp_apply]
  split
  · rename_i e
    have found := find?_of_mem hk hr
    rw [e, h] at found
    rw [same, Option.some.inj found]
  · rfl

/-- Replacing a row by itself changes nothing. -/
theorem update_self {rows : List α} (hk : Keyed key rows) {row : α}
    (h : find? key rows (key row) = some row) : update key rows row = rows := by
  simpa using map_update hk h id rfl

/-! ## Well-formed tables -/

/-- Every row is as it should be, and the keys differ. -/
def Fits (P : α → Prop) (key : α → κ) (rows : List α) : Prop :=
  (∀ row ∈ rows, P row) ∧ Keyed key rows

variable {P : α → Prop}

/-- A table fits after an update if the new row does. -/
theorem fits_update {rows : List α} (h : Fits P key rows) {row old : α}
    (found : find? key rows (key row) = some old) : Fits P key (update key rows row) ↔ P row := by
  constructor
  · exact fun h' => h'.1 row (mem_update_self found)
  · intro hrow
    refine ⟨fun r hm => ?_, by rw [Keyed, map_key_update]; exact h.2⟩
    rcases mem_update hm with rfl | ⟨hm, -⟩
    · exact hrow
    · exact h.1 r hm

omit [DecidableEq κ] in
/-- A table fits with a row under a new key if the row does. -/
theorem fits_append {rows : List α} (h : Fits P key rows) {row : α} (new : key row ∉ rows.map key) :
    Fits P key (rows ++ [row]) ↔ P row := by
  constructor
  · exact fun h' => h'.1 row (by simp)
  · intro hrow
    constructor
    · intro r hm
      rcases List.mem_append.1 hm with hm | hm
      · exact h.1 r hm
      · rwa [List.mem_singleton.1 hm]
    · rw [Keyed, List.map_append, List.nodup_append]
      refine ⟨h.2, by simp, fun a ha b hb e => new ?_⟩
      obtain rfl := List.mem_singleton.1 hb
      exact e ▸ ha

/-! ## Numbered tables -/

/-- The keys of the rows are numbered from one, in the order of the rows. -/
def Numbered (name : ℕ → κ) (key : α → κ) (rows : List α) : Prop :=
  rows.map key = (List.range' 1 rows.length).map name

variable {name : ℕ → κ}

theorem Numbered.update {rows : List α} (h : Numbered name key rows) (row : α) :
    Numbered name key (update key rows row) := by
  rw [Numbered, map_key_update, length_update, h]

omit [DecidableEq κ] in
theorem Numbered.append {rows : List α} (h : Numbered name key rows) {row : α}
    (next : key row = name (rows.length + 1)) : Numbered name key (rows ++ [row]) := by
  rw [Numbered, List.map_append, h, List.length_append, List.range'_append_1.symm]
  simp [next, Nat.add_comm]

omit [DecidableEq κ] in
/-- The next number is not taken. -/
theorem Numbered.next {rows : List α} (h : Numbered name key rows)
    (inj : Function.Injective name) : name (rows.length + 1) ∉ rows.map key := by
  rw [h]
  intro hm
  obtain ⟨n, hn, e⟩ := List.mem_map.1 hm
  have := List.mem_range'_1.1 hn
  have := inj e
  omega

/-! ## Columns -/

theorem valueAt_update {rows : List α} {row old : α} (h : find? key rows (key row) = some old)
    (f : α → ℤ) (k : κ) :
    valueAt key f (update key rows row) k =
      if k = key row then f row else valueAt key f rows k := by
  rw [valueAt, find?_update]
  split
  · subst_vars; simp [h]
  · rfl

theorem valueAt_append {rows : List α} {row : α} (h : find? key rows (key row) = none)
    (f : α → ℤ) (k : κ) :
    valueAt key f (rows ++ [row]) k =
      if k = key row then f row else valueAt key f rows k := by
  rw [valueAt, find?_append]
  split
  · subst_vars; simp [h]
  · rename_i hk
    rw [if_neg fun e => hk e.symm, Option.or_none, valueAt]

theorem valueAt_of_find? {rows : List α} {k : κ} {r : α} (h : find? key rows k = some r)
    (f : α → ℤ) : valueAt key f rows k = f r := by
  simp [valueAt, h]

/-- Replacing a row changes the sum of a column by what it changes in that row. -/
theorem sum_update {rows : List α} {row old : α} (hk : Keyed key rows)
    (h : find? key rows (key row) = some old) (f : α → ℤ) :
    ((update key rows row).map f).sum = (rows.map f).sum - f old + f row := by
  induction rows with
  | nil => simp [find?] at h
  | cons a rows ih =>
    rw [Keyed, List.map_cons, List.nodup_cons] at hk
    by_cases ha : key a = key row
    · -- The key does not occur again, so that the other rows stay.
      have rest : update key rows row = rows := by
        refine (List.map_congr_left fun r hr => if_neg fun e => hk.1 ?_).trans (List.map_id _)
        rw [ha, ← e]
        exact List.mem_map_of_mem hr
      have : a = old := by simpa [find?, ha] using h
      subst this
      rw [update, List.map_cons, if_pos ha, ← update, rest]
      simp
      ring
    · have h' : find? key rows (key row) = some old := by simpa [find?, ha] using h
      rw [update, List.map_cons, if_neg ha, ← update]
      simp only [List.map_cons, List.sum_cons, ih hk.2 h']
      ring

theorem sum_append (rows : List α) (row : α) (f : α → ℤ) :
    ((rows ++ [row]).map f).sum = (rows.map f).sum + f row := by
  simp

end Table

end RuleArena
