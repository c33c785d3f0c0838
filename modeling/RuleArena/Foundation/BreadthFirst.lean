import Mathlib.Data.Finset.Insert
import Mathlib.Data.List.Basic

/-!
# Breadth-first search

A search takes nodes from a queue, and puts the successors that it has not seen
at its end. A node is a state and the actions that led to it; states are told
apart by a hash. A search keeps its queue a frontier (`SearchSpace.Frontier`):
the nodes taken so far and those in the queue are in the order of their depths,
and what can follow a node that was expanded has a node that is no deeper than
that. So the first goal found is at a least depth (`Frontier.shortest`), and with
an empty queue there is none (`Frontier.exhausted`).
-/

namespace RuleArena

/-- States with actions: those offered in a state, and the state that an action leads to
    where it applies. -/
structure SearchSpace (σ α κ : Type) where
  initial : σ
  offered : σ → List α
  successor : σ → α → Option σ
  hash : σ → κ

namespace SearchSpace

variable {σ α κ : Type} (space : SearchSpace σ α κ)

/-- The actions, each offered and applied, that lead to a state. -/
inductive Path : List α → σ → Prop
  | nil : Path [] space.initial
  | concat {trace : List α} {state state' : σ} {action : α} (path : Path trace state)
      (offered : action ∈ space.offered state)
      (applies : space.successor state action = some state') : Path (trace ++ [action]) state'

/-- The hash tells the states that are reached. -/
def Told : Prop :=
  ∀ trace state trace' state', space.Path trace state → space.Path trace' state' →
    space.hash state = space.hash state' → state = state'

/-! ## What follows a node -/

section Grown

variable [DecidableEq κ]

/-- The new nodes that some actions lead to from a node, one after the other, and the hashes
    that are seen in the end. -/
inductive Grown (state : σ) (trace : List α) :
    List α → Finset κ → List (σ × List α) → Finset κ → Prop
  | nil {seen : Finset κ} : Grown state trace [] seen [] seen
  | idle {action : α} {actions : List α} {seen seen' : Finset κ} {new : List (σ × List α)}
      (idle : space.successor state action = none)
      (rest : Grown state trace actions seen new seen') :
      Grown state trace (action :: actions) seen new seen'
  | known {action : α} {actions : List α} {seen seen' : Finset κ} {new : List (σ × List α)}
      {state' : σ} (applies : space.successor state action = some state')
      (known : space.hash state' ∈ seen) (rest : Grown state trace actions seen new seen') :
      Grown state trace (action :: actions) seen new seen'
  | fresh {action : α} {actions : List α} {seen seen' : Finset κ} {new : List (σ × List α)}
      {state' : σ} (applies : space.successor state action = some state')
      (rest : Grown state trace actions (insert (space.hash state') seen) new seen') :
      Grown state trace (action :: actions) seen ((state', trace ++ [action]) :: new) seen'

variable {space} {state : σ} {trace actions : List α} {seen seen' : Finset κ}
  {new : List (σ × List α)}

theorem Grown.steps (grown : space.Grown state trace actions seen new seen') :
    ∀ node ∈ new, ∃ action ∈ actions, space.successor state action = some node.1 ∧
      node.2 = trace ++ [action] := by
  induction grown with
  | nil => exact fun _ mem => absurd mem List.not_mem_nil
  | idle _ _ ih | known _ _ _ ih =>
    intro node mem
    obtain ⟨action, offered, step⟩ := ih node mem
    exact ⟨action, List.mem_cons_of_mem _ offered, step⟩
  | @fresh action _ _ _ _ _ applies _ ih =>
    intro node mem
    rcases List.mem_cons.1 mem with rfl | mem
    · exact ⟨action, List.mem_cons_self, applies, rfl⟩
    · obtain ⟨action, offered, step⟩ := ih node mem
      exact ⟨action, List.mem_cons_of_mem _ offered, step⟩

theorem Grown.seen_iff (grown : space.Grown state trace actions seen new seen') (k : κ) :
    k ∈ seen' ↔ k ∈ seen ∨ ∃ node ∈ new, space.hash node.1 = k := by
  induction grown with
  | nil => simp
  | idle _ _ ih | known _ _ _ ih => exact ih
  | fresh _ _ ih =>
    rw [ih, Finset.mem_insert, or_comm (a := k = _), or_assoc]
    simp [eq_comm]

/-- Every state that follows is seen in the end. -/
theorem Grown.covers (grown : space.Grown state trace actions seen new seen') :
    ∀ action ∈ actions, ∀ state', space.successor state action = some state' →
      space.hash state' ∈ seen' := by
  induction grown with
  | nil => exact fun _ mem => absurd mem List.not_mem_nil
  | idle idle _ ih =>
    intro action mem state' step
    rcases List.mem_cons.1 mem with rfl | mem
    · exact absurd (idle.symm.trans step) (by simp)
    · exact ih action mem state' step
  | known applies known rest ih =>
    intro action mem state' step
    rcases List.mem_cons.1 mem with rfl | mem
    · obtain rfl := Option.some.inj (applies.symm.trans step)
      exact (rest.seen_iff _).2 (.inl known)
    · exact ih action mem state' step
  | fresh applies rest ih =>
    intro action mem state' step
    rcases List.mem_cons.1 mem with rfl | mem
    · obtain rfl := Option.some.inj (applies.symm.trans step)
      exact (rest.seen_iff _).2 (.inl (Finset.mem_insert_self _ _))
    · exact ih action mem state' step

end Grown

/-! ## The frontier -/

/-- The queue of a search with a depth it does not pass, after the visited nodes were taken
    from it. -/
structure Frontier (goal : σ → Prop) (depth : Nat) (visited queue : List (σ × List α))
    (seen : Finset κ) : Prop where
  paths : ∀ node ∈ visited ++ queue, space.Path node.2 node.1
  start : (space.initial, []) ∈ visited ++ queue
  seen_iff : ∀ k, k ∈ seen ↔ ∃ node ∈ visited ++ queue, space.hash node.1 = k
  shallow : ∀ node ∈ visited ++ queue, node.2.length ≤ depth
  sorted : (visited ++ queue).Pairwise fun a b => a.2.length ≤ b.2.length
  narrow : ∀ a ∈ queue, ∀ b ∈ queue, b.2.length ≤ a.2.length + 1
  missed : ∀ node ∈ visited, ¬ goal node.1
  expanded : ∀ node ∈ visited, node.2.length < depth → ∀ action ∈ space.offered node.1,
    ∀ state', space.successor node.1 action = some state' →
      ∃ next ∈ visited ++ queue, space.hash next.1 = space.hash state' ∧
        next.2.length ≤ node.2.length + 1

variable {space} {goal : σ → Prop} {depth : Nat} {visited queue : List (σ × List α)}
  {state : σ} {trace : List α} {seen : Finset κ}

theorem Frontier.init : space.Frontier goal depth [] [(space.initial, [])]
    {space.hash space.initial} where
  paths := by simpa using Path.nil
  start := by simp
  seen_iff := by simp [eq_comm]
  shallow := by simp
  sorted := by simp
  narrow := by simp
  missed := by simp
  expanded := by simp

/-- A node that is not expanded, since it is as deep as it may be. -/
theorem Frontier.skip (frontier : space.Frontier goal depth visited ((state, trace) :: queue) seen)
    (miss : ¬ goal state) (deep : depth ≤ trace.length) :
    space.Frontier goal depth (visited ++ [(state, trace)]) queue seen := by
  have all : visited ++ [(state, trace)] ++ queue = visited ++ (state, trace) :: queue := by simp
  refine ⟨all ▸ frontier.paths, all ▸ frontier.start, all ▸ frontier.seen_iff,
    all ▸ frontier.shallow, all ▸ frontier.sorted, ?_, ?_, ?_⟩
  · exact fun a ha b hb =>
      frontier.narrow a (List.mem_cons_of_mem _ ha) b (List.mem_cons_of_mem _ hb)
  · exact List.forall_mem_append.2 ⟨frontier.missed, List.forall_mem_singleton.2 miss⟩
  · rw [all]
    refine List.forall_mem_append.2 ⟨frontier.expanded, List.forall_mem_singleton.2 ?_⟩
    exact fun less => absurd less (by simpa using deep)

/-- The depths of the nodes of a frontier lie next to that of its first node. -/
theorem Frontier.depths
    (frontier : space.Frontier goal depth visited ((state, trace) :: queue) seen) :
    (∀ node ∈ visited, node.2.length ≤ trace.length) ∧
      ∀ node ∈ queue, trace.length ≤ node.2.length ∧ node.2.length ≤ trace.length + 1 := by
  obtain ⟨-, ordered, before⟩ := List.pairwise_append.1 frontier.sorted
  refine ⟨fun node mem => before node mem _ List.mem_cons_self, fun node mem => ?_⟩
  exact ⟨(List.pairwise_cons.1 ordered).1 node mem,
    frontier.narrow _ List.mem_cons_self node (List.mem_cons_of_mem _ mem)⟩

/-- A node that is expanded. -/
theorem Frontier.expand [DecidableEq κ] {seen' : Finset κ} {new : List (σ × List α)}
    (frontier : space.Frontier goal depth visited ((state, trace) :: queue) seen)
    (miss : ¬ goal state) (room : trace.length < depth)
    (grown : space.Grown state trace (space.offered state) seen new seen') :
    space.Frontier goal depth (visited ++ [(state, trace)]) (queue ++ new) seen' := by
  have all : visited ++ [(state, trace)] ++ (queue ++ new) =
      (visited ++ (state, trace) :: queue) ++ new := by simp
  obtain ⟨before, after⟩ := frontier.depths
  have path := frontier.paths (state, trace) (by simp)
  -- The new nodes are one deeper than the node.
  have deeper : ∀ node ∈ new, node.2.length = trace.length + 1 := by
    intro node mem
    obtain ⟨action, -, -, trace'⟩ := grown.steps node mem
    simp [trace']
  have bounded : ∀ node ∈ (visited ++ (state, trace) :: queue) ++ new,
      node.2.length ≤ trace.length + 1 := by
    intro node mem
    simp only [List.mem_append, List.mem_cons] at mem
    rcases mem with (mem | rfl | mem) | mem
    · exact (before node mem).trans (Nat.le_succ _)
    · exact Nat.le_succ _
    · exact (after node mem).2
    · exact (deeper node mem).le
  have seen_iff : ∀ k, k ∈ seen' ↔
      ∃ node ∈ (visited ++ (state, trace) :: queue) ++ new, space.hash node.1 = k := by
    intro k
    rw [grown.seen_iff, frontier.seen_iff]
    simp only [List.mem_append (t := new), or_and_right, exists_or]
  refine ⟨?_, ?_, all ▸ seen_iff, ?_, ?_, ?_, ?_, ?_⟩
  · rw [all]
    refine List.forall_mem_append.2 ⟨frontier.paths, fun node mem => ?_⟩
    obtain ⟨action, offered, step, trace'⟩ := grown.steps node mem
    rw [trace']
    exact path.concat offered step
  · rw [all]
    exact List.mem_append_left _ frontier.start
  · rw [all]
    exact List.forall_mem_append.2
      ⟨frontier.shallow, fun node mem => (deeper node mem).trans_le room⟩
  · rw [all, List.pairwise_append]
    refine ⟨frontier.sorted, ?_, fun a ha b hb => ?_⟩
    · exact List.pairwise_of_forall_mem_list fun a ha b hb =>
        ((deeper a ha).trans (deeper b hb).symm).le
    · exact (bounded a (List.mem_append_left _ ha)).trans (deeper b hb).ge
  · intro a ha b hb
    have low : trace.length ≤ a.2.length := by
      rcases List.mem_append.1 ha with ha | ha
      · exact (after a ha).1
      · exact (Nat.le_succ _).trans (deeper a ha).ge
    have high : b.2.length ≤ trace.length + 1 := by
      rcases List.mem_append.1 hb with hb | hb
      · exact (after b hb).2
      · exact (deeper b hb).le
    omega
  · exact List.forall_mem_append.2 ⟨frontier.missed, List.forall_mem_singleton.2 miss⟩
  · rw [all]
    refine List.forall_mem_append.2
      ⟨fun node mem less action offered state' step => ?_, List.forall_mem_singleton.2 ?_⟩
    · obtain ⟨next, mem', same, low⟩ := frontier.expanded node mem less action offered state' step
      exact ⟨next, List.mem_append_left _ mem', same, low⟩
    · intro _ action offered state' step
      obtain ⟨next, mem, same⟩ := (seen_iff _).1 (grown.covers action offered state' step)
      exact ⟨next, mem, same, bounded next mem⟩

/-- What a path no longer than the depth leads to was visited, or the queue holds a node that
    is no deeper. -/
theorem Frontier.reached (told : space.Told)
    (frontier : space.Frontier goal depth visited queue seen) (path : space.Path trace state)
    (short : trace.length ≤ depth) :
    (∃ node ∈ visited, node.1 = state ∧ node.2.length ≤ trace.length) ∨
      ∃ node ∈ queue, node.2.length ≤ trace.length := by
  induction path with
  | nil =>
    rcases List.mem_append.1 frontier.start with mem | mem
    · exact .inl ⟨_, mem, rfl, le_rfl⟩
    · exact .inr ⟨_, mem, le_rfl⟩
  | @concat trace state state' action path offered applies ih =>
    rw [List.length_append, List.length_singleton] at short ⊢
    rcases ih (by omega) with ⟨node, mem, rfl, low⟩ | ⟨node, mem, low⟩
    · obtain ⟨next, mem', same, low'⟩ :=
        frontier.expanded node mem (by omega) action offered state' applies
      have same := told _ _ _ _ (frontier.paths next mem') (path.concat offered applies) same
      rcases List.mem_append.1 mem' with mem' | mem'
      · exact .inl ⟨next, mem', same, by omega⟩
      · exact .inr ⟨next, mem', by omega⟩
    · exact .inr ⟨node, mem, by omega⟩

/-- No path to a goal is shorter than the trace of the first node. -/
theorem Frontier.shortest (told : space.Told)
    (frontier : space.Frontier goal depth visited ((state, trace) :: queue) seen)
    {trace' : List α} {state' : σ} (path : space.Path trace' state') (reached : goal state') :
    trace.length ≤ trace'.length := by
  by_contra shorter
  have deep := frontier.shallow (state, trace) (by simp)
  have deep : trace.length ≤ depth := deep
  rcases frontier.reached told path (by omega) with ⟨node, mem, rfl, -⟩ | ⟨node, mem, low⟩
  · exact frontier.missed node mem reached
  · rcases List.mem_cons.1 mem with rfl | mem
    · exact shorter low
    · exact shorter ((frontier.depths.2 node mem).1.trans low)

/-- With an empty queue there is no goal within the depth. -/
theorem Frontier.exhausted (told : space.Told)
    (frontier : space.Frontier goal depth visited [] seen) (path : space.Path trace state)
    (short : trace.length ≤ depth) : ¬ goal state := by
  rcases frontier.reached told path short with ⟨node, mem, rfl, -⟩ | ⟨node, mem, -⟩
  · exact frontier.missed node mem
  · exact absurd mem List.not_mem_nil

end SearchSpace

end RuleArena
