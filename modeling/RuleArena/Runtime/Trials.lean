import RuleArena.Foundation.Interaction
import RuleArena.Runtime.Minimization
import RuleArena.Runtime.Replay
import RuleArena.Runtime.Worker

/-!
# Minimizing by replays

What a trace shows is found out by a replay in a run of its own, which may show one thing
now and another one the next time, and may fail. So here the predicate of the
minimization is a question for each trace (`Trials`).

Whatever is answered, only parts of the trace are replayed, what is left was confirmed by
one of the replays, the number of trials is that of the replays, and the check at the end
reports what its own replays have shown (`minimize_runs`). There are at most quadratically
many replays. If a trace is always answered alike then the result is that of the
minimization by a predicate (`minimize_agrees`).
-/

namespace RuleArena

open Interaction

/-- How `minimize_trace` ends without a result. -/
inductive MinimizationFailure (ε : Type)
  | valueError
  | replay (error : ε)

/-- A computation that replays traces. A replay has a result, or fails. -/
abbrev Trials (ε ρ α β : Type) :=
  Interaction (MinimizationFailure ε) (fun _ : List α => Except ε ρ) β

namespace Trials

variable {ε ρ α β γ : Type}

/-! ## The algorithm -/

section Algorithm

variable (confirming : ρ → Bool)

/-- `await confirms(candidate, invariant_id)` -/
def confirms (candidate : List α) : Trials ε ρ α Bool := do
  match ← query candidate with
  | .ok result => return confirming result
  | .error error => raise (.replay error)

/-- The first chunk without which the trace is confirmed, and the number of trials. -/
def tryChunks (current : List α) (size : Nat) :
    List (Fin current.length) → Trials ε ρ α (Nat × Option (Fin current.length))
  | [] => return (0, none)
  | start :: starts => do
    if ← confirms confirming (without current start size) then return (1, some start)
    else
      let (trials, found) ← tryChunks current size starts
      return (trials + 1, found)

/-- `range(0, len(current), chunk_size)` -/
def starts (current : List α) (granularity : Nat) : List (Fin current.length) :=
  (chunkStarts current.length (chunkSize current.length granularity)).pmap Fin.mk
    fun _ mem => start_lt mem (chunkSize_pos ..)

/-- Chunks are left out, as long as one can be. If none can, they are made smaller. -/
def reduceChunks (current : List α) (granularity : Nat) (fine : 2 ≤ granularity) (trials : Nat) :
    Trials ε ρ α (List α × Nat) :=
  if short : current.length < 2 then return (current, trials)
  else do
    let (tried, found) ← tryChunks confirming current (chunkSize current.length granularity)
      (starts current granularity)
    match found with
    | some start =>
      reduceChunks (without current start (chunkSize current.length granularity))
        (max 2 (granularity - 1)) (Nat.le_max_left ..) (trials + tried)
    | none =>
      if current.length ≤ granularity then return (current, trials + tried)
      else reduceChunks current (min current.length (granularity * 2)) (by omega) (trials + tried)
termination_by (current.length, current.length - granularity)
decreasing_by
  · exact .left _ _ (length_without start.isLt (chunkSize_pos ..))
  · exact .right _ (by omega)

/-- Single actions are left out, from the first one on. -/
def reduceActions (current : List α) (index trials : Nat) : Trials ε ρ α (List α × Nat) :=
  if inside : index < current.length then do
    if ← confirms confirming (without current index 1) then
      reduceActions (without current index 1) index (trials + 1)
    else reduceActions current (index + 1) (trials + 1)
  else return (current, trials)
termination_by current.length - index
decreasing_by
  · have := length_without inside one_pos
    omega
  · omega

/-- Whether no trace without one action is confirmed, and the number of trials. -/
def checkActions (current : List α) : List Nat → Trials ε ρ α (Nat × Bool)
  | [] => return (0, true)
  | index :: indices => do
    if ← confirms confirming (without current index 1) then return (1, false)
    else
      let (trials, oneMinimal) ← checkActions current indices
      return (trials + 1, oneMinimal)

/-- Two chunks to begin with. -/
theorem two_chunks : 2 ≤ 2 := le_rfl

/-- `minimize_trace` -/
def minimize (actions : List α) (invariantId : InvariantId) :
    Trials ε ρ α (MinimizationResult α) := do
  if ← confirms confirming actions then
    let chunked ← reduceChunks confirming actions 2 two_chunks 1
    let reduced ← reduceActions confirming chunked.1 0 chunked.2
    let checked ← checkActions confirming reduced.1 (List.range reduced.1.length)
    return {
      invariantId, originalLength := actions.length, minimizedActions := reduced.1
      trials := reduced.2 + checked.1, oneMinimal := checked.2 }
  else raise .valueError

end Algorithm

/-! ## What is asked -/

/-- Replays of traces with their answers. -/
abbrev Log (ε ρ α : Type) := List (Exchange fun _ : List α => Except ε ρ)

variable {confirming : ρ → Bool} {log first rest : Log ε ρ α} {whole current trace : List α}
  {most most' : Nat}

/-- A trace was replayed, and confirmed or not. -/
def Shows (confirming : ρ → Bool) (log : Log ε ρ α) (trace : List α) (confirmed : Bool) : Prop :=
  ∃ result, Sigma.mk trace (.ok result) ∈ log ∧ confirming result = confirmed

/-- A number of parts of a trace were replayed, a failure is that of one of the replays, and without
    one all of them have ended. -/
structure Tried (whole : List α) (most : Nat) (log : Log ε ρ α)
    (result : Except (MinimizationFailure ε) β) : Prop where
  parts : ∀ exchange ∈ log, exchange.1.Sublist whole
  most : log.length ≤ most
  failed : ∀ failure, result = .error failure →
    ∃ trace error, Sigma.mk trace (.error error) ∈ log ∧ failure = .replay error
  ended : (∀ error, result ≠ .error (.replay error)) →
    ∀ exchange ∈ log, exchange.2.toOption.isSome = true

theorem Shows.left {confirmed : Bool} (h : Shows confirming first trace confirmed)
    (rest : Log ε ρ α) : Shows confirming (first ++ rest) trace confirmed := by
  obtain ⟨result, mem, same⟩ := h
  exact ⟨result, List.mem_append_left _ mem, same⟩

theorem Shows.right {confirmed : Bool} (h : Shows confirming rest trace confirmed)
    (first : Log ε ρ α) : Shows confirming (first ++ rest) trace confirmed := by
  obtain ⟨result, mem, same⟩ := h
  exact ⟨result, List.mem_append_right _ mem, same⟩

theorem Tried.none {value : β} : Tried whole 0 ([] : Log ε ρ α) (.ok value) :=
  ⟨fun _ mem => absurd mem List.not_mem_nil, le_rfl, nofun,
    fun _ _ mem => absurd mem List.not_mem_nil⟩

theorem Tried.append {value : γ} {result : Except (MinimizationFailure ε) β}
    (h : Tried whole most first (.ok value)) (h' : Tried whole most' rest result) :
    Tried whole (most + most') (first ++ rest) result where
  parts exchange mem := (List.mem_append.1 mem).elim (h.parts exchange) (h'.parts exchange)
  most := by
    rw [List.length_append]
    exact Nat.add_le_add h.most h'.most
  failed failure raised := by
    obtain ⟨trace, error, mem, same⟩ := h'.failed failure raised
    exact ⟨trace, error, List.mem_append_right _ mem, same⟩
  ended none exchange mem :=
    (List.mem_append.1 mem).elim (h.ended nofun exchange) (h'.ended none exchange)

theorem Tried.mono {result : Except (MinimizationFailure ε) β} (h : Tried current most log result)
    (part : current.Sublist whole) (le : most ≤ most') : Tried whole most' log result :=
  ⟨fun exchange mem => (h.parts exchange mem).trans part, h.most.trans le, h.failed, h.ended⟩

/-- A failure ends the rest as well. -/
theorem Tried.raised {failure : MinimizationFailure ε}
    (h : Tried whole most log (.error failure : Except _ β)) :
    Tried whole most log (.error failure : Except _ γ) :=
  ⟨h.parts, h.most, fun _ same => h.failed _ (congrArg Except.error (Except.error.inj same)),
    fun none => h.ended fun error same =>
      none error (congrArg Except.error (Except.error.inj same))⟩

theorem Tried.value {value : β} (h : Tried whole most log (.ok value)) (value' : γ) :
    Tried whole most log (.ok value') := ⟨h.parts, h.most, nofun, fun _ => h.ended nofun⟩

/-- A sequence is tried in its parts. -/
theorem runs_seq {x : Trials ε ρ α β} {f : β → Trials ε ρ α γ}
    {result : Except (MinimizationFailure ε) γ} (runs : Runs (x >>= f) log result) :
    (∃ value first rest, log = first ++ rest ∧ Runs x first (.ok value) ∧
      Runs (f value) rest result) ∨
    ∃ failure, Runs x log (.error failure) ∧ result = .error failure :=
  runs_bind.1 runs

theorem runs_confirms {candidate : List α} {result : Except (MinimizationFailure ε) Bool}
    (part : candidate.Sublist whole) (runs : Runs (confirms confirming candidate) log result) :
    Tried whole 1 log result ∧ ∀ confirmed, result = .ok confirmed →
      log.length = 1 ∧ Shows confirming log candidate confirmed := by
  obtain ⟨answer, rest, rfl, answered⟩ := runs_query.1 runs
  cases answer with
  | ok value =>
    obtain ⟨rfl, rfl⟩ := runs_pure.1 answered
    refine ⟨⟨?_, le_rfl, nofun, fun _ => ?_⟩, ?_⟩
    · rintro exchange mem
      obtain rfl := List.mem_singleton.1 mem
      exact part
    · rintro exchange mem
      obtain rfl := List.mem_singleton.1 mem
      rfl
    · rintro confirmed ⟨⟩
      exact ⟨rfl, value, List.mem_singleton.2 rfl, rfl⟩
  | error error =>
    obtain ⟨rfl, rfl⟩ := runs_raise.1 answered
    refine ⟨⟨?_, le_rfl, ?_, fun none => absurd rfl (none error)⟩, nofun⟩
    · rintro exchange mem
      obtain rfl := List.mem_singleton.1 mem
      exact part
    · rintro failure ⟨⟩
      exact ⟨candidate, error, List.mem_singleton.2 rfl, rfl⟩

theorem runs_tryChunks {size : Nat} {starts : List (Fin current.length)}
    {result : Except (MinimizationFailure ε) (Nat × Option (Fin current.length))}
    (runs : Runs (tryChunks confirming current size starts) log result) :
    Tried current starts.length log result ∧ ∀ tried found, result = .ok (tried, found) →
      log.length = tried ∧
      (∀ start, found = some start →
        Shows confirming log (without current start size) true) ∧
      (found = none → ∀ start ∈ starts,
        Shows confirming log (without current start size) false) := by
  induction starts generalizing log result with
  | nil =>
    obtain ⟨rfl, rfl⟩ := runs_pure.1 runs
    refine ⟨.none, ?_⟩
    rintro _ _ ⟨⟩
    exact ⟨rfl, nofun, fun _ _ mem => absurd mem List.not_mem_nil⟩
  | cons start starts ih =>
    rcases runs_seq runs with ⟨confirmed, first, rest, rfl, asked, runs⟩ | ⟨failure, asked, rfl⟩
    · obtain ⟨tried, told⟩ := runs_confirms (without_sublist current start size) asked
      obtain ⟨one, shows⟩ := told confirmed rfl
      cases confirmed with
      | true =>
        obtain ⟨rfl, rfl⟩ := runs_pure.1 runs
        rw [List.append_nil]
        refine ⟨(tried.value _).mono (.refl _) (Nat.le_add_left ..), ?_⟩
        rintro _ _ ⟨⟩
        refine ⟨one, ?_, nofun⟩
        rintro _ ⟨⟩
        exact shows
      | false =>
        rcases runs_seq runs with ⟨⟨trials, found⟩, second, last, rfl, others, runs⟩ |
          ⟨failure, others, rfl⟩
        · obtain ⟨rfl, rfl⟩ := runs_pure.1 runs
          obtain ⟨tried', told'⟩ := ih others
          obtain ⟨rfl, some_shows, none_shows⟩ := told' _ _ rfl
          rw [List.append_nil]
          refine ⟨((tried.append tried').value _).mono (.refl _) (Nat.add_comm 1 _).le, ?_⟩
          rintro _ _ ⟨⟩
          refine ⟨?_, fun start same => (some_shows start same).right _, fun none => ?_⟩
          · rw [List.length_append, one, Nat.add_comm]
          · rw [List.forall_mem_cons]
            exact ⟨shows.left _, fun start mem => (none_shows none start mem).right _⟩
        · obtain ⟨tried', -⟩ := ih others
          exact ⟨(tried.append tried'.raised).mono (.refl _) (Nat.add_comm 1 _).le, nofun⟩
    · obtain ⟨tried, -⟩ := runs_confirms (without_sublist current start size) asked
      exact ⟨tried.raised.mono (.refl _) (Nat.le_add_left ..), nofun⟩

/-! ## How many chunks there are -/

theorem length_starts_le_length (current : List α) (granularity : Nat) :
    (starts current granularity).length ≤ current.length := by
  rw [starts, List.length_pmap, chunkStarts, List.length_range']
  have pos := chunkSize_pos current.length granularity
  generalize chunkSize current.length granularity = size at pos
  refine Nat.lt_succ_iff.1 (Nat.div_lt_of_lt_mul ?_)
  have := Nat.le_mul_of_pos_left current.length pos
  rw [Nat.mul_succ]
  omega

theorem length_starts_le {granularity : Nat} (current : List α) (pos : 0 < granularity) :
    (starts current granularity).length ≤ granularity := by
  rw [starts, List.length_pmap, chunkStarts, List.length_range']
  have covers : current.length ≤ chunkSize current.length granularity * granularity := by
    have := Nat.div_add_mod (current.length + granularity - 1) granularity
    have := Nat.mod_lt (current.length + granularity - 1) pos
    have := Nat.mul_le_mul_right granularity
      (Nat.le_max_right 1 ((current.length + granularity - 1) / granularity))
    rw [chunkSize]
    rw [Nat.mul_comm granularity] at *
    omega
  have size_pos := chunkSize_pos current.length granularity
  generalize chunkSize current.length granularity = size at covers size_pos
  refine Nat.lt_succ_iff.1 (Nat.div_lt_of_lt_mul ?_)
  rw [Nat.mul_succ]
  omega

/-- How many replays are made at most for the chunks of a trace: in every round one for a chunk,
    and the chunks get smaller by half until they are single actions. -/
def mostReplays (length granularity : Nat) : Nat :=
  length * length + length + 2 * (length - granularity) +
    if granularity < length then length else 0

/-- A round that leaves out a chunk. -/
theorem mostReplays_found {length length' granularity : Nat} (shorter : length' < length)
    (fine : 2 ≤ granularity) :
    length + mostReplays length' (max 2 (granularity - 1)) ≤ mostReplays length granularity := by
  unfold mostReplays
  obtain ⟨less, rfl⟩ := Nat.exists_eq_add_of_lt shorter
  have : (length' + less + 1) * (length' + less + 1) =
      length' * length' + 2 * (length' * less) + less * less + 2 * length' + 2 * less + 1 := by
    ring
  split_ifs <;> omega

/-- A round that leaves out none, after which the chunks are smaller. -/
theorem mostReplays_none {length granularity : Nat} (coarse : granularity < length) :
    granularity + mostReplays length (min length (granularity * 2)) ≤
      mostReplays length granularity := by
  unfold mostReplays
  split_ifs <;> omega

/-! ## What is left -/

/-- What a part of the minimization leaves is a part of the trace, and was confirmed by a replay
    unless it is the trace itself; and the trials are counted. -/
structure Leaves (confirming : ρ → Bool) (current : List α) (trials : Nat) (log : Log ε ρ α)
    (left : List α) (counted : Nat) : Prop where
  part : left.Sublist current
  counted : counted = trials + log.length
  shown : left = current ∨ Shows confirming log left true

theorem Leaves.append {left left' : List α} {trials counted counted' : Nat}
    (h : Leaves confirming current trials first left counted)
    (h' : Leaves confirming left counted rest left' counted') :
    Leaves confirming current trials (first ++ rest) left' counted' where
  part := h'.part.trans h.part
  counted := by rw [h'.counted, h.counted, List.length_append, Nat.add_assoc]
  shown := by
    rcases h'.shown with rfl | shows
    · exact h.shown.imp id (·.left rest)
    · exact .inr (shows.right first)

theorem runs_reduceChunks {current : List α} {log : Log ε ρ α} {granularity : Nat}
    {fine : 2 ≤ granularity} {trials : Nat}
    {result : Except (MinimizationFailure ε) (List α × Nat)}
    (runs : Runs (reduceChunks confirming current granularity fine trials) log result) :
    Tried current (mostReplays current.length granularity) log result ∧
      ∀ left counted, result = .ok (left, counted) →
        Leaves confirming current trials log left counted := by
  rw [reduceChunks] at runs
  by_cases short : current.length < 2
  · rw [dif_pos short] at runs
    obtain ⟨rfl, rfl⟩ := runs_pure.1 runs
    refine ⟨Tried.none.mono (.refl _) (Nat.zero_le _), ?_⟩
    rintro _ _ ⟨⟩
    exact ⟨.refl _, rfl, .inl rfl⟩
  rw [dif_neg short] at runs
  rcases runs_seq runs with ⟨⟨tried, found⟩, first, rest, rfl, chunks, runs⟩ |
    ⟨failure, chunks, rfl⟩
  · obtain ⟨all_tried, told⟩ := runs_tryChunks chunks
    obtain ⟨rfl, some_shows, -⟩ := told tried found rfl
    cases found with
    | some start =>
      have shorter : (without current start
          (chunkSize current.length granularity)).length < current.length :=
        length_without start.isLt (chunkSize_pos ..)
      obtain ⟨tried', leaves⟩ := runs_reduceChunks runs
      refine ⟨(all_tried.append (tried'.mono (without_sublist ..) le_rfl)).mono (.refl _) ?_,
        fun left counted same => ?_⟩
      · exact (Nat.add_le_add_right (length_starts_le_length ..) _).trans
          (mostReplays_found shorter fine)
      · exact Leaves.append ⟨without_sublist .., rfl, .inr (some_shows start rfl)⟩
          (leaves left counted same)
    | none =>
      dsimp only at runs
      split_ifs at runs with done
      · obtain ⟨rfl, rfl⟩ := runs_pure.1 runs
        rw [List.append_nil]
        refine ⟨(all_tried.value _).mono (.refl _) ?_, ?_⟩
        · refine (length_starts_le_length current granularity).trans ?_
          unfold mostReplays
          omega
        · rintro _ _ ⟨⟩
          exact ⟨.refl _, rfl, .inl rfl⟩
      · obtain ⟨tried', leaves⟩ := runs_reduceChunks runs
        refine ⟨(all_tried.append tried').mono (.refl _) ?_, fun left counted same => ?_⟩
        · exact (Nat.add_le_add_right (length_starts_le current (by omega)) _).trans
            (mostReplays_none (by omega))
        · exact Leaves.append ⟨.refl _, rfl, .inl rfl⟩ (leaves left counted same)
  · obtain ⟨tried, -⟩ := runs_tryChunks chunks
    refine ⟨tried.raised.mono (.refl _) ?_, nofun⟩
    refine (length_starts_le_length current granularity).trans ?_
    unfold mostReplays
    omega
termination_by (current.length, current.length - granularity)
decreasing_by
  · exact .right _ (by omega)
  · exact .left _ _ shorter

theorem runs_reduceActions {current : List α} {log : Log ε ρ α} {index trials : Nat}
    {result : Except (MinimizationFailure ε) (List α × Nat)}
    (runs : Runs (reduceActions confirming current index trials) log result) :
    Tried current (current.length - index) log result ∧
      ∀ left counted, result = .ok (left, counted) →
        Leaves confirming current trials log left counted := by
  rw [reduceActions] at runs
  split_ifs at runs with inside
  · rcases runs_seq runs with ⟨confirmed, first, rest, rfl, asked, runs⟩ | ⟨failure, asked, rfl⟩
    · obtain ⟨tried, told⟩ := runs_confirms (without_sublist current index 1) asked
      obtain ⟨one, shows⟩ := told confirmed rfl
      cases confirmed with
      | true =>
        have shorter := length_without inside one_pos
        obtain ⟨tried', leaves⟩ := runs_reduceActions runs
        refine ⟨(tried.append (tried'.mono (without_sublist ..) le_rfl)).mono (.refl _)
          (by omega), fun left counted same => ?_⟩
        exact Leaves.append ⟨without_sublist .., by rw [one], .inr shows⟩
          (leaves left counted same)
      | false =>
        obtain ⟨tried', leaves⟩ := runs_reduceActions runs
        refine ⟨(tried.append tried').mono (.refl _) (by omega), fun left counted same => ?_⟩
        exact Leaves.append ⟨.refl _, by rw [one], .inl rfl⟩ (leaves left counted same)
    · obtain ⟨tried, -⟩ := runs_confirms (without_sublist current index 1) asked
      exact ⟨tried.raised.mono (.refl _) (by omega), nofun⟩
  · obtain ⟨rfl, rfl⟩ := runs_pure.1 runs
    refine ⟨Tried.none.mono (.refl _) (Nat.zero_le _), ?_⟩
    rintro _ _ ⟨⟩
    exact ⟨.refl _, rfl, .inl rfl⟩
termination_by current.length - index
decreasing_by
  · omega
  · omega

theorem runs_checkActions {indices : List Nat}
    {result : Except (MinimizationFailure ε) (Nat × Bool)}
    (runs : Runs (checkActions confirming current indices) log result) :
    Tried current indices.length log result ∧ ∀ trials oneMinimal,
      result = .ok (trials, oneMinimal) → trials = log.length ∧
        (oneMinimal = true → ∀ index ∈ indices,
          Shows confirming log (without current index 1) false) ∧
        (oneMinimal = false → ∃ index ∈ indices,
          Shows confirming log (without current index 1) true) := by
  induction indices generalizing log result with
  | nil =>
    obtain ⟨rfl, rfl⟩ := runs_pure.1 runs
    refine ⟨.none, ?_⟩
    rintro _ _ ⟨⟩
    exact ⟨rfl, fun _ _ mem => absurd mem List.not_mem_nil, nofun⟩
  | cons index indices ih =>
    rcases runs_seq runs with ⟨confirmed, first, rest, rfl, asked, runs⟩ | ⟨failure, asked, rfl⟩
    · obtain ⟨tried, told⟩ := runs_confirms (without_sublist current index 1) asked
      obtain ⟨one, shows⟩ := told confirmed rfl
      cases confirmed with
      | true =>
        obtain ⟨rfl, rfl⟩ := runs_pure.1 runs
        rw [List.append_nil]
        refine ⟨(tried.value _).mono (.refl _) (Nat.le_add_left ..), ?_⟩
        rintro _ _ ⟨⟩
        exact ⟨one.symm, nofun, fun _ => ⟨index, List.mem_cons_self, shows⟩⟩
      | false =>
        rcases runs_seq runs with ⟨⟨trials, oneMinimal⟩, second, last, rfl, others, runs⟩ |
          ⟨failure, others, rfl⟩
        · obtain ⟨rfl, rfl⟩ := runs_pure.1 runs
          obtain ⟨tried', told'⟩ := ih others
          obtain ⟨rfl, all_shown, some_shown⟩ := told' _ _ rfl
          rw [List.append_nil]
          refine ⟨((tried.append tried').value _).mono (.refl _) (Nat.add_comm 1 _).le, ?_⟩
          rintro _ _ ⟨⟩
          refine ⟨?_, fun minimal => ?_, fun minimal => ?_⟩
          · rw [List.length_append, one, Nat.add_comm]
          · rw [List.forall_mem_cons]
            exact ⟨shows.left _, fun index mem => (all_shown minimal index mem).right _⟩
          · obtain ⟨index', mem, shown⟩ := some_shown minimal
            exact ⟨index', List.mem_cons_of_mem _ mem, shown.right _⟩
        · obtain ⟨tried', -⟩ := ih others
          exact ⟨(tried.append tried'.raised).mono (.refl _) (Nat.add_comm 1 _).le, nofun⟩
    · obtain ⟨tried, -⟩ := runs_confirms (without_sublist current index 1) asked
      exact ⟨tried.raised.mono (.refl _) (Nat.le_add_left ..), nofun⟩

/-- What a minimization comes to. -/
structure Minimized (confirming : ρ → Bool) (actions : List α) (invariantId : InvariantId)
    (log : Log ε ρ α) (minimized : MinimizationResult α) : Prop where
  invariantId : minimized.invariantId = invariantId
  originalLength : minimized.originalLength = actions.length
  part : minimized.minimizedActions.Sublist actions
  shown : Shows confirming log minimized.minimizedActions true
  trials : minimized.trials = log.length
  oneMinimal : minimized.oneMinimal = true → ∀ index < minimized.minimizedActions.length,
    Shows confirming log (minimized.minimizedActions.eraseIdx index) false
  not_oneMinimal : minimized.oneMinimal = false → ∃ index < minimized.minimizedActions.length,
    Shows confirming log (minimized.minimizedActions.eraseIdx index) true

theorem mostReplays_two (length : Nat) :
    mostReplays length 2 ≤ length * length + 4 * length := by
  unfold mostReplays
  split_ifs <;> omega

/-- After the first replay has confirmed the trace. -/
theorem runs_minimize_confirmed {actions : List α} {invariantId : InvariantId}
    {result : Except (MinimizationFailure ε) (MinimizationResult α)}
    (runs : Runs (do
      let chunked ← reduceChunks confirming actions 2 two_chunks 1
      let reduced ← reduceActions confirming chunked.1 0 chunked.2
      let checked ← checkActions confirming reduced.1 (List.range reduced.1.length)
      return {
        invariantId, originalLength := actions.length, minimizedActions := reduced.1
        trials := reduced.2 + checked.1, oneMinimal := checked.2 } :
          Trials ε ρ α (MinimizationResult α))
      log result)
    (one : first.length = 1) (shows : Shows confirming first actions true) :
    Tried actions (actions.length * actions.length + 6 * actions.length) log result ∧
      ∀ minimized, result = .ok minimized →
        Minimized confirming actions invariantId (first ++ log) minimized := by
  rcases runs_seq runs with ⟨⟨chunked, counted⟩, log₁, rest, rfl, chunks, runs⟩ |
    ⟨failure, chunks, rfl⟩
  swap
  · exact ⟨(runs_reduceChunks chunks).1.raised.mono (.refl _)
      ((mostReplays_two _).trans (by omega)), nofun⟩
  obtain ⟨tried₁, leaves₁⟩ := runs_reduceChunks chunks
  dsimp only at runs
  have leaves₁ := leaves₁ chunked counted rfl
  have shorter₁ := leaves₁.part.length_le
  rcases runs_seq runs with ⟨⟨reduced, counted'⟩, log₂, rest, rfl, singles, runs⟩ |
    ⟨failure, singles, rfl⟩
  swap
  · refine ⟨(tried₁.append ((runs_reduceActions singles).1.raised.mono leaves₁.part le_rfl)).mono
      (.refl _) ((Nat.add_le_add_right (mostReplays_two _) _).trans (by omega)), nofun⟩
  obtain ⟨tried₂, leaves₂⟩ := runs_reduceActions singles
  dsimp only at runs
  have leaves := leaves₁.append (leaves₂ reduced counted' rfl)
  have shorter := leaves.part.length_le
  rcases runs_seq runs with ⟨⟨checked, oneMinimal⟩, log₃, rest, rfl, checks, runs⟩ |
    ⟨failure, checks, rfl⟩
  swap
  · refine ⟨(tried₁.append ((tried₂.mono leaves₁.part le_rfl).append
      ((runs_checkActions checks).1.raised.mono leaves.part le_rfl))).mono (.refl _) ?_, nofun⟩
    rw [List.length_range]
    exact (Nat.add_le_add_right (mostReplays_two _) _).trans (by omega)
  obtain ⟨tried₃, told⟩ := runs_checkActions checks
  obtain ⟨rfl, all_shown, some_shown⟩ := told checked oneMinimal rfl
  obtain ⟨rfl, rfl⟩ := runs_pure.1 runs
  rw [List.append_nil]
  refine ⟨((tried₁.append ((tried₂.mono leaves₁.part le_rfl).append
    (tried₃.mono leaves.part le_rfl))).value _).mono (.refl _) ?_, ?_⟩
  · rw [List.length_range]
    exact (Nat.add_le_add_right (mostReplays_two _) _).trans (by omega)
  rintro _ ⟨⟩
  refine ⟨rfl, rfl, leaves.part, ?_, ?_, fun minimal index inside => ?_, fun minimal => ?_⟩
  · rcases leaves.shown with rfl | shown
    · exact shows.left _
    · rw [← List.append_assoc log₁]
      exact (shown.left log₃).right first
  · change counted' + log₃.length = _
    rw [leaves.counted]
    simp only [List.length_append, one]
    omega
  · rw [← without_one]
    exact (((all_shown minimal index (List.mem_range.2 inside)).right _).right _).right _
  · obtain ⟨index, mem, shown⟩ := some_shown minimal
    rw [without_one] at shown
    exact ⟨index, List.mem_range.1 mem, ((shown.right _).right _).right _⟩

/-- However the replays end, only parts of the trace are replayed, and at most quadratically many.
    What is left was confirmed by one of them; if a single action of it could not be left out then
    each was tried, and else one was confirmed. A trace that is not confirmed at first is refused,
    and a replay that fails ends the minimization, so that without a failure all have ended. -/
theorem runs_minimize {actions : List α} {invariantId : InvariantId}
    {result : Except (MinimizationFailure ε) (MinimizationResult α)}
    (runs : Runs (minimize confirming actions invariantId) log result) :
    (∀ exchange ∈ log, exchange.1.Sublist actions) ∧
      log.length ≤ actions.length * actions.length + 6 * actions.length + 1 ∧
      (∀ minimized, result = .ok minimized →
        Minimized confirming actions invariantId log minimized) ∧
      (result = .error .valueError → log.length = 1 ∧ Shows confirming log actions false) ∧
      (∀ error, result = .error (.replay error) →
        ∃ trace, Sigma.mk trace (.error error) ∈ log) ∧
      ((∀ error, result ≠ .error (.replay error)) →
        ∀ exchange ∈ log, exchange.2.toOption.isSome = true) := by
  rcases runs_seq runs with ⟨confirmed, first, rest, rfl, asked, runs⟩ | ⟨failure, asked, rfl⟩
  · obtain ⟨tried, told⟩ := runs_confirms (.refl actions) asked
    obtain ⟨one, shows⟩ := told confirmed rfl
    cases confirmed with
    | true =>
      obtain ⟨tried', minimized⟩ :=
        @runs_minimize_confirmed _ _ _ _ _ _ actions invariantId _ runs one shows
      have all := tried.append tried'
      refine ⟨all.parts, all.most.trans (Nat.add_comm 1 _).le, minimized, fun refused => ?_,
        fun error same => ?_, all.ended⟩
      · obtain ⟨_, _, -, same⟩ := tried'.failed _ refused
        cases same
      · obtain ⟨trace, error', mem, ⟨⟩⟩ := all.failed _ same
        exact ⟨trace, mem⟩
    | false =>
      obtain ⟨rfl, rfl⟩ := runs_raise.1 runs
      rw [List.append_nil]
      exact ⟨tried.parts, tried.most.trans (Nat.le_add_left ..), nofun, fun _ => ⟨one, shows⟩,
        nofun, fun _ => tried.ended nofun⟩
  · obtain ⟨tried, -⟩ := runs_confirms (.refl actions) asked
    refine ⟨tried.parts, tried.most.trans (Nat.le_add_left ..), nofun, fun refused => ?_,
      fun error same => ?_, tried.raised.ended⟩
    · obtain ⟨_, _, -, same⟩ := tried.failed _ rfl
      cases same.symm.trans (Except.error.inj refused)
    · obtain ⟨trace, error', mem, same'⟩ := tried.failed _ rfl
      cases same'.symm.trans (Except.error.inj same)
      exact ⟨trace, mem⟩

/-! ## Replays that agree with a predicate -/

section Truthful

variable {predicate : List α → Bool}

/-- Every replay has ended, and has confirmed what a predicate says of its trace. -/
def Truthful (confirming : ρ → Bool) (predicate : List α → Bool) (log : Log ε ρ α) : Prop :=
  ∀ exchange ∈ log, ∃ result, exchange.2 = .ok result ∧ confirming result = predicate exchange.1

theorem Truthful.parts (h : Truthful confirming predicate (first ++ rest)) :
    Truthful confirming predicate first ∧ Truthful confirming predicate rest :=
  ⟨fun exchange mem => h exchange (List.mem_append_left _ mem),
    fun exchange mem => h exchange (List.mem_append_right _ mem)⟩

theorem Truthful.confirms {candidate : List α} {result : Except (MinimizationFailure ε) Bool}
    (h : Truthful confirming predicate log)
    (runs : Runs (confirms confirming candidate) log result) :
    result = .ok (predicate candidate) := by
  obtain ⟨answer, rest, rfl, answered⟩ := runs_query.1 runs
  obtain ⟨value, rfl, same⟩ := h _ List.mem_cons_self
  obtain ⟨-, rfl⟩ := runs_pure.1 answered
  exact congrArg Except.ok same

theorem Truthful.tryChunks {size : Nat} {starts : List (Fin current.length)}
    {result : Except (MinimizationFailure ε) (Nat × Option (Fin current.length))}
    (h : Truthful confirming predicate log)
    (runs : Runs (tryChunks confirming current size starts) log result) :
    ∃ tried found, result = .ok (tried, found) ∧
      RuleArena.tryChunks predicate current size (starts.map Fin.val) =
        (tried, found.map fun start => without current start size) := by
  induction starts generalizing log result with
  | nil =>
    obtain ⟨-, rfl⟩ := runs_pure.1 runs
    exact ⟨0, none, rfl, rfl⟩
  | cons start starts ih =>
    rw [List.map_cons, RuleArena.tryChunks]
    rcases runs_seq runs with ⟨confirmed, first, rest, rfl, asked, runs⟩ | ⟨failure, asked, -⟩
    · have same := Except.ok.inj (h.parts.1.confirms asked)
      subst same
      split_ifs at runs ⊢ with confirmed
      · obtain ⟨-, rfl⟩ := runs_pure.1 runs
        exact ⟨1, some start, rfl, rfl⟩
      · rcases runs_seq runs with ⟨⟨trials, found⟩, second, last, rfl, others, runs⟩ |
          ⟨failure, others, -⟩
        · obtain ⟨_, _, ⟨⟩, same⟩ := ih h.parts.2.parts.1 others
          obtain ⟨-, rfl⟩ := runs_pure.1 runs
          rw [same]
          exact ⟨trials + 1, found, rfl, rfl⟩
        · obtain ⟨_, _, ⟨⟩, -⟩ := ih h.parts.2 others
    · cases h.confirms asked

theorem map_starts (current : List α) (granularity : Nat) :
    (starts current granularity).map Fin.val =
      chunkStarts current.length (chunkSize current.length granularity) := by
  rw [starts, List.map_pmap, List.pmap_eq_map, List.map_id']

theorem Truthful.reduceChunks {current : List α} {log : Log ε ρ α} {granularity : Nat}
    {fine : 2 ≤ granularity} {trials : Nat}
    {result : Except (MinimizationFailure ε) (List α × Nat)}
    (h : Truthful confirming predicate log)
    (runs : Runs (reduceChunks confirming current granularity fine trials) log result) :
    result = .ok (RuleArena.reduceChunks predicate current granularity fine trials) := by
  rw [Trials.reduceChunks] at runs
  by_cases short : current.length < 2
  · rw [dif_pos short] at runs
    obtain ⟨-, rfl⟩ := runs_pure.1 runs
    rw [RuleArena.reduceChunks, dif_pos short]
  rw [dif_neg short] at runs
  rcases runs_seq runs with ⟨⟨tried, found⟩, first, rest, rfl, chunks, runs⟩ |
    ⟨failure, chunks, rfl⟩
  · obtain ⟨_, _, ⟨⟩, same⟩ := h.parts.1.tryChunks chunks
    rw [map_starts] at same
    cases found with
    | some start =>
      have shorter : (without current start
          (chunkSize current.length granularity)).length < current.length :=
        length_without start.isLt (chunkSize_pos ..)
      rw [reduceChunks_found short same]
      exact h.parts.2.reduceChunks runs
    | none =>
      rw [reduceChunks_none short same]
      dsimp only at runs
      split_ifs at runs ⊢ with done
      · exact (runs_pure.1 runs).2
      · exact h.parts.2.reduceChunks runs
  · obtain ⟨_, _, ⟨⟩, -⟩ := h.tryChunks chunks
termination_by (current.length, current.length - granularity)
decreasing_by
  · exact .right _ (by omega)
  · exact .left _ _ shorter

theorem Truthful.reduceActions {current : List α} {log : Log ε ρ α} {index trials : Nat}
    {result : Except (MinimizationFailure ε) (List α × Nat)}
    (h : Truthful confirming predicate log)
    (runs : Runs (reduceActions confirming current index trials) log result) :
    result = .ok (RuleArena.reduceActions predicate current index trials) := by
  rw [Trials.reduceActions] at runs
  rw [RuleArena.reduceActions]
  by_cases inside : index < current.length
  · have shorter := length_without inside one_pos
    rw [dif_pos inside] at runs
    rw [if_pos inside]
    rcases runs_seq runs with ⟨confirmed, first, rest, rfl, asked, runs⟩ | ⟨failure, asked, -⟩
    · have same := Except.ok.inj (h.parts.1.confirms asked)
      subst same
      split_ifs at runs ⊢ with confirmed
      · exact h.parts.2.reduceActions runs
      · exact h.parts.2.reduceActions runs
    · cases h.confirms asked
  · rw [dif_neg inside] at runs
    rw [if_neg inside]
    exact (runs_pure.1 runs).2
termination_by current.length - index
decreasing_by
  · omega
  · omega

theorem Truthful.checkActions {indices : List Nat}
    {result : Except (MinimizationFailure ε) (Nat × Bool)}
    (h : Truthful confirming predicate log)
    (runs : Runs (checkActions confirming current indices) log result) :
    result = .ok (RuleArena.checkActions predicate current indices) := by
  induction indices generalizing log result with
  | nil => exact (runs_pure.1 runs).2
  | cons index indices ih =>
    rw [RuleArena.checkActions]
    rcases runs_seq runs with ⟨confirmed, first, rest, rfl, asked, runs⟩ | ⟨failure, asked, -⟩
    · have same := Except.ok.inj (h.parts.1.confirms asked)
      subst same
      split_ifs at runs ⊢ with confirmed
      · exact (runs_pure.1 runs).2
      · rcases runs_seq runs with ⟨checked, second, last, rfl, others, runs⟩ |
          ⟨failure, others, -⟩
        · have same := Except.ok.inj (ih h.parts.2.parts.1 others)
          subst same
          exact (runs_pure.1 runs).2
        · cases ih h.parts.2 others
    · cases h.confirms asked

/-- If a predicate says what the replays show then the result is that of the minimization by the
    predicate. -/
theorem minimize_agrees {actions : List α} {invariantId : InvariantId}
    {result : Except (MinimizationFailure ε) (MinimizationResult α)}
    (runs : Runs (minimize confirming actions invariantId) log result)
    (truthful : Truthful confirming predicate log) :
    result = (minimizeTrace actions invariantId fun trace _ => predicate trace).mapError
      fun _ => .valueError := by
  unfold minimizeTrace
  dsimp only
  rcases runs_seq runs with ⟨confirmed, first, rest, rfl, asked, runs⟩ | ⟨failure, asked, -⟩
  · have same := Except.ok.inj (truthful.parts.1.confirms asked)
    subst same
    split_ifs at runs with confirmed
    · rw [Checked.ensure_of_pos confirmed]
      rcases runs_seq runs with ⟨chunked, log₁, rest, rfl, chunks, runs⟩ | ⟨failure, chunks, -⟩
      · have same := Except.ok.inj (truthful.parts.2.parts.1.reduceChunks chunks)
        subst same
        rcases runs_seq runs with ⟨reduced, log₂, rest, rfl, singles, runs⟩ |
          ⟨failure, singles, -⟩
        · have same := Except.ok.inj (truthful.parts.2.parts.2.parts.1.reduceActions singles)
          subst same
          rcases runs_seq runs with ⟨checked, log₃, rest, rfl, checks, runs⟩ |
            ⟨failure, checks, -⟩
          · have same := Except.ok.inj
              (truthful.parts.2.parts.2.parts.2.parts.1.checkActions checks)
            subst same
            exact (runs_pure.1 runs).2
          · cases truthful.parts.2.parts.2.parts.2.checkActions checks
        · cases truthful.parts.2.parts.2.reduceActions singles
      · cases truthful.parts.2.reduceChunks chunks
    · rw [Checked.ensure_of_neg confirmed]
      exact (runs_raise.1 runs).2
  · cases truthful.confirms asked

end Truthful

end Trials

/-! ## Replays in the sandbox -/

namespace SandboxReplayRunner

variable [Python]

/-- `minimize`, with the replays in runs of their own. -/
def minimize (actions : List SimAction) (targetInvariant : InvariantId) :
    Trials ReplayFailure ReplayResult SimAction (MinimizationResult SimAction) :=
  Trials.minimize (fun result => result.classification = .confirmedViolation) actions
    targetInvariant

/-- Each trace has been replayed in a new run, at some time and with some delays. -/
def Replayed (spec : RuleSpec) (targetInvariant : InvariantId) (request : CreateRunRequest)
    (log : Trials.Log ReplayFailure ReplayResult SimAction) : Prop :=
  ∀ exchange ∈ log, ∃ runId capturedAt moments,
    exchange.2 = replay spec exchange.1 targetInvariant request runId capturedAt moments

/-- What a replay reports: the actions that were posted, and a violation if it is confirmed. -/
theorem replay_eq_ok {spec : RuleSpec} {trace : List SimAction} {targetInvariant : InvariantId}
    {request : CreateRunRequest} {runId : String} {capturedAt : Nat} {moments : Nat → Moment}
    {report : ReplayResult}
    (h : replay spec trace targetInvariant request runId capturedAt moments = .ok report) :
    report.actions = trace ∧ (report.classification = .confirmedViolation →
      targetInvariant ∈ report.violated) := by
  unfold replay at h
  split at h
  · cases h
  dsimp only at h
  split at h
  · cases h
  split at h
  · cases h
  next finding found =>
    cases h
    refine ⟨rfl, fun confirmed => List.mem_map.2 ⟨finding, ?_, ?_⟩⟩
    · refine List.mem_filter.2 ⟨List.mem_of_find?_eq_some found, decide_eq_true ?_⟩
      dsimp only at confirmed
      cases hs : finding.status with
      | violated => rfl
      | insufficientEvidence => rw [hs] at confirmed; cases confirmed
      | _ => rw [hs] at confirmed; cases confirmed
    · have own := List.find?_some found
      exact of_decide_eq_true own

/-- Whatever the replays of the sandbox come to, what a minimization is left with is a part of the
    trace that a replay of exactly these actions has found to violate the invariant. -/
theorem minimize_violates {spec : RuleSpec} {actions : List SimAction}
    {targetInvariant : InvariantId} {request : CreateRunRequest}
    {log : Trials.Log ReplayFailure ReplayResult SimAction}
    {result : Except (MinimizationFailure ReplayFailure) (MinimizationResult SimAction)}
    (runs : Runs (minimize actions targetInvariant) log result)
    (replayed : Replayed spec targetInvariant request log) :
    (∀ exchange ∈ log, exchange.1.Sublist actions) ∧
      log.length ≤ actions.length * actions.length + 6 * actions.length + 1 ∧
      (∀ minimized, result = .ok minimized →
        minimized.minimizedActions.Sublist actions ∧ minimized.trials = log.length ∧
        (∃ report, Sigma.mk minimized.minimizedActions (.ok report) ∈ log ∧
          report.actions = minimized.minimizedActions ∧ targetInvariant ∈ report.violated) ∧
        (minimized.oneMinimal = true → ∀ index < minimized.minimizedActions.length, ∃ report,
          Sigma.mk (minimized.minimizedActions.eraseIdx index) (.ok report) ∈ log ∧
          report.classification ≠ .confirmedViolation)) ∧
      (result = .error .valueError → ∃ report, Sigma.mk actions (.ok report) ∈ log ∧
        log.length = 1 ∧ report.classification ≠ .confirmedViolation) ∧
      ∀ error, result = .error (.replay error) →
        ∃ trace, Sigma.mk trace (.error error) ∈ log := by
  obtain ⟨parts, most, minimized, refused, failed, -⟩ := Trials.runs_minimize runs
  refine ⟨parts, most, fun found ended => ?_, fun ended => ?_, failed⟩
  · have minimized := minimized found ended
    refine ⟨minimized.part, minimized.trials, ?_, fun minimal index inside => ?_⟩
    · obtain ⟨report, mem, confirmed⟩ := minimized.shown
      obtain ⟨runId, capturedAt, moments, answer⟩ := replayed _ mem
      obtain ⟨own, violated⟩ := replay_eq_ok answer.symm
      exact ⟨report, mem, own, violated (of_decide_eq_true confirmed)⟩
    · obtain ⟨report, mem, other⟩ := minimized.oneMinimal minimal index inside
      exact ⟨report, mem, of_decide_eq_false other⟩
  · obtain ⟨one, report, mem, other⟩ := refused ended
    exact ⟨report, mem, one, of_decide_eq_false other⟩

/-- Points are redeemed that the user has not got. The order is superfluous. -/
def overredeeming : List SimAction := [
  { actionType := .createUser, arguments := [("initial_balance", .str "100.00")] },
  { actionType := .createOrder, arguments := [("amount", .str "10.00")] },
  { actionType := .redeemPoints, arguments := [("amount", .int 5)] }]

def overredemption : CreateRunRequest where
  scenarioType := .refundPoints
  defectAxes := some [.pointsOverredemption]

/-- A sandbox in which nothing is late. -/
def promptly : Environment fun _ : List SimAction => Except ReplayFailure ReplayResult :=
  fun _ trace => replay pointsPolicy.toRuleSpec trace .pointsValueConservation overredemption
    "run" 0 fun _ => {}

/-- A minimization in it. -/
theorem runs_promptly : ∃ log result,
    Runs (minimize overredeeming .pointsValueConservation) log result ∧
      ∀ exchange ∈ log, exchange.2 = promptly [] exchange.1 :=
  ⟨_, _, runs_environment promptly _ [],
    fun _ mem => (mem_exchanges mem).elim fun _ answer => answer⟩

omit [Python] in
/-- No replay of a part of the trace fails in it. -/
theorem promptly_ends :
    let _ := Python.transparent
    ∀ trace ∈ overredeeming.sublists, (promptly [] trace).toOption.isSome = true := by
  decide +kernel

omit [Python] in
theorem minimize_violates_overredeeming :
    let _ := Python.transparent
    ∃ log minimized, Runs (minimize overredeeming .pointsValueConservation) log (.ok minimized) ∧
      minimized.trials = log.length ∧ minimized.minimizedActions.Sublist overredeeming ∧
      ∃ report, Sigma.mk minimized.minimizedActions (.ok report) ∈ log ∧
        .pointsValueConservation ∈ report.violated := by
  intro _
  obtain ⟨log, result, runs, answered⟩ := runs_promptly
  have replayed : Replayed pointsPolicy.toRuleSpec .pointsValueConservation overredemption log :=
    fun exchange mem => ⟨"run", 0, fun _ => {}, answered exchange mem⟩
  obtain ⟨parts, -, found, refused, failed⟩ := minimize_violates runs replayed
  have confirmed : (promptly [] overredeeming).toOption.any
      (·.classification = .confirmedViolation) = true := by decide +kernel
  match result with
  | .ok minimized =>
    obtain ⟨part, trials, ⟨report, mem, -, violated⟩, -⟩ := found minimized rfl
    exact ⟨log, minimized, runs, trials, part, report, mem, violated⟩
  | .error .valueError =>
    obtain ⟨report, mem, -, other⟩ := refused rfl
    rw [← answered _ mem] at confirmed
    exact absurd (of_decide_eq_true confirmed) other
  | .error (.replay error) =>
    obtain ⟨trace, mem⟩ := failed error rfl
    have ended := promptly_ends trace (List.mem_sublists.2 (parts _ mem))
    rw [← answered _ mem] at ended
    cases ended

end SandboxReplayRunner

end RuleArena
