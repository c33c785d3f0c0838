import RuleArena.Oracle.Evidence
import RuleArena.Foundation.PyValue

/-!
# Minimizing a trace

A trace that violates an invariant is made shorter: first by whole chunks, which
get smaller as long as none can be left out, then action by action, and at last
it is checked that no single action can be left out. What a trace shows is asked
of a predicate, of which nothing is assumed: to leave out one action may make
another one superfluous that was not so before.

The chunks are left with a trace of which no single action can be left out
(`reduceChunks_spec`), and the pass action by action finds nothing to do. So the
check at the end never fails (`minimizeTrace_spec`).
-/

namespace RuleArena

variable {α : Type}

structure MinimizationResult (α : Type) where
  invariantId : InvariantId
  originalLength : Nat
  minimizedActions : List α
  trials : Nat
  oneMinimal : Bool

/-- `current[:start] + current[start + size:]` -/
def without (current : List α) (start size : Nat) : List α :=
  current.take start ++ current.drop (start + size)

/-! ## The algorithm -/

section Algorithm

variable (confirms : List α → Bool)

/-- The first trace that is confirmed, of those without one of the chunks, and the number of
    trials. -/
def tryChunks (current : List α) (chunkSize : Nat) : List Nat → Nat × Option (List α)
  | [] => (0, none)
  | start :: starts =>
    if confirms (without current start chunkSize) then
      (1, some (without current start chunkSize))
    else
      let (trials, found) := tryChunks current chunkSize starts
      (trials + 1, found)

/-- `range(0, length, chunk_size)` -/
def chunkStarts (length chunkSize : Nat) : List Nat :=
  List.range' 0 ((length + chunkSize - 1) / chunkSize) chunkSize

/-- `max(1, (length + granularity - 1) // granularity)` -/
def chunkSize (length granularity : Nat) : Nat :=
  max 1 ((length + granularity - 1) / granularity)

theorem chunkSize_pos (length granularity : Nat) : 0 < chunkSize length granularity :=
  lt_max_of_lt_left one_pos

theorem length_without {current : List α} {start size : Nat} (inside : start < current.length)
    (pos : 0 < size) : (without current start size).length < current.length := by
  rw [without, List.length_append, List.length_take, List.length_drop]
  omega

theorem start_lt {length size start : Nat} (h : start ∈ chunkStarts length size)
    (pos : 0 < size) : start < length := by
  obtain ⟨i, hi, rfl⟩ := List.mem_range'.1 h
  have := Nat.div_mul_le_self (length + size - 1) size
  have := Nat.mul_le_mul_right size (Nat.succ_le_of_lt hi)
  rw [Nat.succ_mul] at this
  rw [zero_add, mul_comm]
  omega

/-- What is found is the trace without one of the chunks. -/
theorem tryChunks_eq_some {current candidate : List α} {size trials : Nat} {starts : List Nat}
    (h : tryChunks confirms current size starts = (trials, some candidate)) :
    confirms candidate ∧ ∃ start ∈ starts, candidate = without current start size := by
  induction starts generalizing trials with
  | nil => cases h
  | cons start starts ih =>
    rw [tryChunks] at h
    split_ifs at h with confirmed
    · cases h
      exact ⟨confirmed, start, List.mem_cons_self, rfl⟩
    · obtain ⟨-, found⟩ := Prod.mk.inj h
      obtain ⟨confirmed, other, mem, same⟩ := ih (Prod.ext rfl found)
      exact ⟨confirmed, other, List.mem_cons_of_mem _ mem, same⟩

theorem tryChunks_eq_none {current : List α} {size trials : Nat} {starts : List Nat}
    (h : tryChunks confirms current size starts = (trials, none)) :
    ∀ start ∈ starts, ¬ confirms (without current start size) := by
  induction starts generalizing trials with
  | nil => exact fun _ h => by cases h
  | cons start starts ih =>
    rw [tryChunks] at h
    split_ifs at h with confirmed
    · cases (Prod.mk.inj h).2
    · obtain ⟨-, found⟩ := Prod.mk.inj h
      rw [List.forall_mem_cons]
      exact ⟨confirmed, ih (Prod.ext rfl found)⟩

theorem length_candidate {current candidate : List α} {granularity trials : Nat}
    (h : tryChunks confirms current (chunkSize current.length granularity)
      (chunkStarts current.length (chunkSize current.length granularity)) =
        (trials, some candidate)) :
    candidate.length < current.length := by
  have pos := chunkSize_pos current.length granularity
  obtain ⟨-, start, mem, rfl⟩ := tryChunks_eq_some confirms h
  exact length_without (start_lt mem pos) pos

/-- Chunks are left out, as long as one can be. If none can, they are made smaller. -/
def reduceChunks (current : List α) (granularity : Nat) (fine : 2 ≤ granularity) (trials : Nat) :
    List α × Nat :=
  if short : current.length < 2 then (current, trials)
  else
    match h : tryChunks confirms current (chunkSize current.length granularity)
        (chunkStarts current.length (chunkSize current.length granularity)) with
    | (tried, some candidate) =>
      have := length_candidate confirms h
      reduceChunks candidate (max 2 (granularity - 1)) (Nat.le_max_left ..) (trials + tried)
    | (tried, none) =>
      if current.length ≤ granularity then (current, trials + tried)
      else reduceChunks current (min current.length (granularity * 2)) (by omega) (trials + tried)
termination_by (current.length, current.length - granularity)

/-- Single actions are left out, from the first one on. -/
def reduceActions (current : List α) (index trials : Nat) : List α × Nat :=
  if index < current.length then
    if confirms (without current index 1) then
      reduceActions (without current index 1) index (trials + 1)
    else reduceActions current (index + 1) (trials + 1)
  else (current, trials)
termination_by current.length - index
decreasing_by
  · have := length_without ‹_› one_pos
    omega
  · omega

/-- Whether no trace without one action is confirmed, and the number of trials. -/
def checkActions (current : List α) : List Nat → Nat × Bool
  | [] => (0, true)
  | index :: indices =>
    if confirms (without current index 1) then (1, false)
    else
      let (trials, oneMinimal) := checkActions current indices
      (trials + 1, oneMinimal)

end Algorithm

/-- `minimize_trace` -/
def minimizeTrace (actions : List α) (invariantId : InvariantId)
    (confirms : List α → InvariantId → Bool) : Except PyException (MinimizationResult α) := do
  let shows actions := confirms actions invariantId
  ensure (shows actions) .valueError
  let chunked := reduceChunks shows actions 2 le_rfl 1
  let reduced := reduceActions shows chunked.1 0 chunked.2
  let checked := checkActions shows reduced.1 (List.range reduced.1.length)
  return {
    invariantId, originalLength := actions.length, minimizedActions := reduced.1
    trials := reduced.2 + checked.1, oneMinimal := checked.2 }

/-! ## What is left -/

/-- No single action can be left out. -/
def OneMinimal (confirms : List α → Bool) (current : List α) : Prop :=
  ∀ index < current.length, ¬ confirms (current.eraseIdx index)

variable {confirms : List α → Bool}

theorem without_one (current : List α) (index : Nat) :
    without current index 1 = current.eraseIdx index :=
  (List.eraseIdx_eq_take_drop_succ ..).symm

theorem without_sublist (current : List α) (start size : Nat) :
    (without current start size).Sublist current := by
  conv_rhs => rw [← List.take_append_drop start current]
  refine List.Sublist.append_left ?_ _
  rw [← List.drop_drop]
  exact List.drop_sublist ..

/-- If no chunk of one action can be left out then no action can. -/
theorem oneMinimal_of_none {current : List α} {trials : Nat}
    (h : tryChunks confirms current 1 (chunkStarts current.length 1) = (trials, none)) :
    OneMinimal confirms current := by
  intro index inside
  rw [← without_one]
  refine tryChunks_eq_none confirms h index (List.mem_range'.2 ⟨index, ?_, by omega⟩)
  rwa [Nat.div_one, Nat.add_sub_cancel]

theorem reduceChunks_found {current candidate : List α} {granularity trials tried : Nat}
    {fine : 2 ≤ granularity} (short : ¬ current.length < 2)
    (h : tryChunks confirms current (chunkSize current.length granularity)
      (chunkStarts current.length (chunkSize current.length granularity)) =
        (tried, some candidate)) :
    reduceChunks confirms current granularity fine trials =
      reduceChunks confirms candidate (max 2 (granularity - 1)) (Nat.le_max_left ..)
        (trials + tried) := by
  rw [reduceChunks, dif_neg short]
  split
  · next h' =>
    cases h.symm.trans h'
    rfl
  · next h' => cases h.symm.trans h'

theorem reduceChunks_none {current : List α} {granularity trials tried : Nat}
    {fine : 2 ≤ granularity} (short : ¬ current.length < 2)
    (h : tryChunks confirms current (chunkSize current.length granularity)
      (chunkStarts current.length (chunkSize current.length granularity)) = (tried, none)) :
    reduceChunks confirms current granularity fine trials =
      if current.length ≤ granularity then (current, trials + tried)
      else reduceChunks confirms current (min current.length (granularity * 2)) (by omega)
        (trials + tried) := by
  rw [reduceChunks, dif_neg short]
  split
  · next h' => cases h.symm.trans h'
  · next h' =>
    cases h.symm.trans h'
    rfl

/-- What the chunks leave is confirmed like the trace that it is a part of. If it is not a single
    action then no action of it can be left out. -/
theorem reduceChunks_spec (confirms : List α → Bool) (current : List α) (granularity : Nat) (fine : 2 ≤ granularity)
    (trials : Nat) (confirmed : confirms current) :
    (reduceChunks confirms current granularity fine trials).1.Sublist current ∧
      confirms (reduceChunks confirms current granularity fine trials).1 ∧
      ((reduceChunks confirms current granularity fine trials).1.length < 2 ∨
        OneMinimal confirms (reduceChunks confirms current granularity fine trials).1) := by
  induction current, granularity, fine, trials using reduceChunks.induct confirms with
  | case1 current granularity fine trials short =>
    rw [reduceChunks, dif_pos short]
    exact ⟨.refl _, confirmed, .inl short⟩
  | case2 current granularity fine trials short tried candidate h shorter ih =>
    obtain ⟨confirmed, start, -, rfl⟩ := tryChunks_eq_some confirms h
    obtain ⟨part, rest⟩ := ih confirmed
    rw [reduceChunks_found short h]
    exact ⟨part.trans (without_sublist ..), rest⟩
  | case3 current granularity fine trials short tried h done =>
    -- The chunks are single actions now.
    have single : chunkSize current.length granularity = 1 := by
      rw [chunkSize, max_eq_left]
      exact Nat.lt_succ_iff.1 (Nat.div_lt_of_lt_mul (by omega))
    rw [reduceChunks_none short h, if_pos done]
    exact ⟨.refl _, confirmed, .inr (oneMinimal_of_none (single ▸ h))⟩
  | case4 current granularity fine trials short tried h done ih =>
    rw [reduceChunks_none short h, if_neg done]
    exact ih confirmed

/-- Where no single action can be left out, none is. -/
theorem reduceActions_oneMinimal {current : List α} (minimal : OneMinimal confirms current)
    (index trials : Nat) : (reduceActions confirms current index trials).1 = current := by
  by_cases inside : index < current.length
  · have kept : ¬ confirms (without current index 1) := by
      rw [without_one]
      exact minimal index inside
    rw [reduceActions, if_pos inside, if_neg kept]
    exact reduceActions_oneMinimal minimal (index + 1) (trials + 1)
  · rw [reduceActions, if_neg inside]
termination_by current.length - index

/-- A single action is left out if it can be. -/
theorem reduceActions_short {current : List α} (short : current.length < 2)
    (confirmed : confirms current) (trials : Nat) :
    (reduceActions confirms current 0 trials).1.Sublist current ∧
      confirms (reduceActions confirms current 0 trials).1 ∧
      OneMinimal confirms (reduceActions confirms current 0 trials).1 := by
  by_cases left : current.length = 1 ∧ confirms (without current 0 1)
  · obtain ⟨one, left⟩ := left
    have empty : without current 0 1 = [] := by
      rw [without_one, ← List.length_eq_zero_iff, List.length_eraseIdx_of_lt (by omega), one]
    have minimal : OneMinimal confirms (without current 0 1) := by
      rw [empty]
      exact fun index inside => absurd inside (Nat.not_lt_zero _)
    rw [reduceActions, if_pos (by omega), if_pos left, reduceActions_oneMinimal minimal]
    exact ⟨without_sublist .., left, minimal⟩
  · have minimal : OneMinimal confirms current := by
      intro index inside kept
      obtain rfl : index = 0 := by omega
      rw [← without_one] at kept
      exact left ⟨by omega, kept⟩
    rw [reduceActions_oneMinimal minimal]
    exact ⟨.refl _, confirmed, minimal⟩

theorem checkActions_oneMinimal {current : List α} (minimal : OneMinimal confirms current)
    {indices : List Nat} (inside : ∀ index ∈ indices, index < current.length) :
    (checkActions confirms current indices).2 = true := by
  induction indices with
  | nil => rfl
  | cons index indices ih =>
    rw [List.forall_mem_cons] at inside
    have kept : ¬ confirms (without current index 1) := by
      rw [without_one]
      exact minimal index inside.1
    rw [checkActions, if_neg kept]
    exact ih inside.2

/-- A trace that shows a violation is minimized to a part of it that shows it, of which no single
    action can be left out, and this is what is reported. Any other trace is refused. -/
theorem minimizeTrace_spec (actions : List α) (invariantId : InvariantId)
    (confirms : List α → InvariantId → Bool) :
    match minimizeTrace actions invariantId confirms with
    | .ok result => confirms actions invariantId ∧ result.minimizedActions.Sublist actions ∧
        confirms result.minimizedActions invariantId ∧
        OneMinimal (confirms · invariantId) result.minimizedActions ∧ result.oneMinimal = true
    | .error e => ¬ confirms actions invariantId ∧ e = .valueError := by
  by_cases confirmed : confirms actions invariantId
  · rw [minimizeTrace, Checked.ensure_of_pos confirmed]
    dsimp only [Checked.ok_bind]
    obtain ⟨part, kept, rest⟩ := reduceChunks_spec (confirms · invariantId) actions 2
      le_rfl 1 confirmed
    generalize reduceChunks (confirms · invariantId) actions 2 le_rfl 1 = chunked at *
    obtain ⟨part', kept', minimal⟩ :
        (reduceActions (confirms · invariantId) chunked.1 0 chunked.2).1.Sublist chunked.1 ∧
        confirms (reduceActions (confirms · invariantId) chunked.1 0 chunked.2).1 invariantId ∧
        OneMinimal (confirms · invariantId)
          (reduceActions (confirms · invariantId) chunked.1 0 chunked.2).1 := by
      rcases rest with short | minimal
      · exact reduceActions_short short kept chunked.2
      · rw [reduceActions_oneMinimal minimal]
        exact ⟨.refl _, kept, minimal⟩
    exact ⟨confirmed, part'.trans part, kept', minimal,
      checkActions_oneMinimal minimal fun index => List.mem_range.1⟩
  · rw [minimizeTrace, Checked.ensure_of_neg confirmed]
    exact ⟨confirmed, rfl⟩

end RuleArena
