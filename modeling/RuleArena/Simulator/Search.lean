import RuleArena.Foundation.BreadthFirst
import RuleArena.Simulator.Futures
import RuleArena.Simulator.Totality

/-!
# Searching the simulator

The two searches that need no agent, from the initial state over the actions that
the simulator offers. The breadth-first search takes the states in the order of
their depths, and expands so many of them and none at the depth of its budget.
The random search walks: it takes one of the offered actions at a time, and
starts again where it comes too deep.

* `breadth_first_exact`: the first search finds the nearest goal, or there is none
  within its depth, or it expanded as many states as it may.
* `random_search_exact_iff`: the second tests every state of its walk but the
  last one.
-/

namespace RuleArena

inductive SearchStatus
  | found
  | exhausted
  | budgetExhausted
  deriving DecidableEq, Repr

/-- The bounds of a search, which are not negative. -/
structure SearchBudget where
  maxDepth : Nat := 8
  maxNodes : Nat := 1000
  deriving DecidableEq, Repr

structure SearchResult where
  status : SearchStatus
  trace : List SimAction
  state : SimulationState
  nodesExpanded : Nat
  uniqueStates : Nat
  budget : SearchBudget
  seed : Option Int := none
  deriving DecidableEq, Repr

/-- A state and the actions that led to it. -/
abbrev SearchNode := SimulationState × List SimAction

abbrev Goal := SimulationState → List SimAction → Bool

/-- The library `random`: a generator made of a seed, and its next number up to a bound,
    `randrange(bound + 1)`. -/
class PyRandom (γ : Type) where
  seeded : Int → γ
  randrange : γ → (bound : Nat) → Fin (bound + 1) × γ

namespace ReferenceSimulator

/-! ## Breadth-first search -/

section BreadthFirst

variable [Python] (simulator : ReferenceSimulator)

/-- The inner loop of `breadth_first_search`: the applied actions that lead to a new state are
    put in the queue. -/
def discover (state : SimulationState) (trace : List SimAction) :
    List SimAction → List SearchNode → Finset String →
      Except SimException (List SearchNode × Finset String)
  | [], queue, seen => return (queue, seen)
  | action :: actions, queue, seen => do
    let result ← simulator.transition state action
    if result.status ≠ .applied then discover state trace actions queue seen
    else if result.state.stateHash ∉ seen then
      discover state trace actions (queue ++ [(result.state, trace ++ [action])])
        (insert result.state.stateHash seen)
    else discover state trace actions queue seen

variable (goal : Goal) (budget : SearchBudget)

/-- The loop of `breadth_first_search`. -/
def breadthFirstLoop (queue : List SearchNode) (seen : Finset String) (expanded : Nat)
    (last : SimulationState) : Except SimException SearchResult :=
  match queue with
  | [] => return {
      status := .exhausted, trace := [], state := last, nodesExpanded := expanded,
      uniqueStates := seen.card, budget }
  | (state, trace) :: queue =>
    if goal state trace then return {
      status := .found, trace, state, nodesExpanded := expanded, uniqueStates := seen.card, budget }
    else if budget.maxDepth ≤ trace.length then breadthFirstLoop queue seen expanded state
    else if budget.maxNodes ≤ expanded then return {
      status := .budgetExhausted, trace, state, nodesExpanded := expanded,
      uniqueStates := seen.card, budget }
    else do
      let grown ← simulator.discover state trace (simulator.legalActions state) queue seen
      breadthFirstLoop grown.1 grown.2 (expanded + 1) state
termination_by (budget.maxNodes - expanded, queue.length)

/-- `breadth_first_search` -/
def breadthFirstSearch : Except SimException SearchResult :=
  simulator.breadthFirstLoop goal budget [(simulator.initialState, [])]
    {simulator.initialState.stateHash} 0 simulator.initialState

end BreadthFirst

/-! ## Random search -/

section Random

variable [Python] {γ : Type} [PyRandom γ] (simulator : ReferenceSimulator) (goal : Goal)
  (budget : SearchBudget)

/-- An iteration of `seeded_random_search` after the goal is tested: an offered action is drawn
    and taken. If nothing is offered, or the trace is as long as it may be, the walk starts again
    first. There is no next node if nothing is offered then. -/
def stride (rng : γ) (node : SearchNode) : Except SimException (Option (γ × SearchNode)) :=
  let restarts := simulator.legalActions node.1 = [] ∨ budget.maxDepth ≤ node.2.length
  let node := if restarts then (simulator.initialState, []) else node
  match simulator.legalActions node.1 with
  | [] => return none
  | first :: legal => do
    let (i, rng) := PyRandom.randrange rng legal.length
    let action := (first :: legal).get i
    let result ← simulator.transition node.1 action
    if result.status = .applied then return some (rng, result.state, node.2 ++ [action])
    else return some (rng, node)

/-- The loop of `seeded_random_search`, with the iterations that are left. Only an applied
    action leads to a state that is not seen yet. -/
def randomLoop (seed : Int) :
    Nat → γ → SearchNode → Finset String → Except SimException SearchResult
  | 0, _, (state, trace), seen => return {
      status := .budgetExhausted, trace, state, nodesExpanded := budget.maxNodes,
      uniqueStates := seen.card, budget, seed }
  | left + 1, rng, (state, trace), seen =>
    let expanded := budget.maxNodes - (left + 1)
    if goal state trace then return {
      status := .found, trace, state, nodesExpanded := expanded, uniqueStates := seen.card, budget,
      seed }
    else do
      match ← simulator.stride budget rng (state, trace) with
      | none => return {
          status := .exhausted, trace := [], state := simulator.initialState,
          nodesExpanded := expanded, uniqueStates := seen.card, budget, seed }
      | some (rng, node) => randomLoop seed left rng node (insert node.1.stateHash seen)

/-- `seeded_random_search` -/
def seededRandomSearch (γ : Type) [PyRandom γ] (seed : Int) : Except SimException SearchResult :=
  let state := simulator.initialState
  let seen : Finset String := {state.stateHash}
  if goal state [] then return {
    status := .found, trace := [], state, nodesExpanded := 0, uniqueStates := 1, budget, seed }
  else simulator.randomLoop goal budget seed budget.maxNodes (PyRandom.seeded seed : γ) (state, [])
    seen

end Random

/-! ## The first search is exact -/

section BreadthFirst

variable [Python] (simulator : ReferenceSimulator)

/-- The state an action leads to, if it is applied. -/
def applied? (state : SimulationState) (action : SimAction) : Option SimulationState :=
  match simulator.transition state action with
  | .ok result => if result.status = .applied then some result.state else none
  | .error _ => none

/-- The states of the simulator, to search. -/
def space : SearchSpace SimulationState SimAction String where
  initial := simulator.initialState
  offered := simulator.legalActions
  successor := simulator.applied?
  hash := SimulationState.stateHash

/-- What the first search tells with its result. -/
structure Exact (goal : SimulationState → Bool) (budget : SearchBudget) (result : SearchResult) :
    Prop where
  found : result.status = .found → simulator.space.Path result.trace result.state ∧
    goal result.state = true ∧ ∀ trace state, simulator.space.Path trace state →
      goal state = true → result.trace.length ≤ trace.length
  exhausted : result.status = .exhausted → ∀ trace state, simulator.space.Path trace state →
    trace.length ≤ budget.maxDepth → goal state = false
  bounded : result.nodesExpanded ≤ budget.maxNodes

variable {simulator} {state : SimulationState} {trace : List SimAction}

theorem applied_eq {action : SimAction} {result : TransitionResult}
    (h : simulator.transition state action = .ok result) :
    simulator.space.successor state action =
      if result.status = .applied then some result.state else none := by
  simp only [space, applied?, h]

/-- The inner loop puts what follows a state in the queue. -/
theorem discover_grown {actions : List SimAction}
    (returns : ∀ action ∈ actions, ∃ result, simulator.transition state action = .ok result)
    (queue : List SearchNode) (seen : Finset String) :
    ∃ new seen', simulator.discover state trace actions queue seen = .ok (queue ++ new, seen') ∧
      simulator.space.Grown state trace actions seen new seen' := by
  induction actions generalizing queue seen with
  | nil => exact ⟨[], seen, by simp [discover], .nil⟩
  | cons action actions ih =>
    obtain ⟨first, rest⟩ := List.forall_mem_cons.1 returns
    obtain ⟨result, h⟩ := first
    have step := applied_eq h
    rw [discover, h, Checked.ok_bind]
    by_cases applied : result.status = .applied
    · rw [if_pos applied] at step
      rw [if_neg (not_not.2 applied)]
      by_cases known : result.state.stateHash ∈ seen
      · rw [if_neg (not_not.2 known)]
        obtain ⟨new, seen', e, grown⟩ := ih rest queue seen
        exact ⟨new, seen', e, .known step known grown⟩
      · rw [if_pos known]
        obtain ⟨new, seen', e, grown⟩ := ih rest (queue ++ [(result.state, trace ++ [action])])
          (insert result.state.stateHash seen)
        exact ⟨_, seen', by rw [e, List.append_assoc, List.singleton_append], .fresh step grown⟩
    · rw [if_neg applied] at step
      rw [if_pos applied]
      obtain ⟨new, seen', e, grown⟩ := ih rest queue seen
      exact ⟨new, seen', e, .idle step grown⟩

/-- The offered actions can be tried in every state that is reached. -/
def Tried (simulator : ReferenceSimulator) : Prop :=
  ∀ trace state, simulator.space.Path trace state → ∀ action ∈ simulator.legalActions state,
    ∃ result, simulator.transition state action = .ok result

/-- A run of the loop from a frontier is exact. -/
theorem breadthFirstLoop_exact (tried : simulator.Tried) (told : simulator.space.Told)
    {goal : SimulationState → Bool} {budget : SearchBudget} (queue : List SearchNode)
    (seen : Finset String) (expanded : Nat) (last : SimulationState) (visited : List SearchNode)
    (frontier : simulator.space.Frontier (fun state => goal state = true) budget.maxDepth visited
      queue seen) (few : expanded ≤ budget.maxNodes) :
    ∃ result, simulator.breadthFirstLoop (fun state _ => goal state) budget queue seen expanded
        last = .ok result ∧ simulator.Exact goal budget result := by
  induction queue, seen, expanded, last using breadthFirstLoop.induct
    (fun state _ => goal state) budget generalizing visited with
  | case1 seen expanded last =>
    rw [breadthFirstLoop]
    refine ⟨_, rfl, nofun, fun _ trace state path short => ?_, few⟩
    have miss := frontier.exhausted told path short
    exact Bool.eq_false_iff.2 miss
  | case2 seen expanded last state trace queue hit =>
    rw [breadthFirstLoop, if_pos hit]
    refine ⟨_, rfl, fun _ => ⟨frontier.paths (state, trace) (by simp), hit, ?_⟩, nofun, few⟩
    exact fun trace' state' path reached => frontier.shortest told path reached
  | case3 seen expanded last state trace queue miss deep ih =>
    rw [breadthFirstLoop, if_neg miss, if_pos deep]
    exact ih _ (frontier.skip miss deep) few
  | case4 seen expanded last state trace queue miss shallow spent =>
    rw [breadthFirstLoop, if_neg miss, if_neg shallow, if_pos spent]
    exact ⟨_, rfl, nofun, nofun, few⟩
  | case5 seen expanded last state trace queue miss shallow room ih =>
    rw [breadthFirstLoop, if_neg miss, if_neg shallow, if_neg room]
    have path := frontier.paths (state, trace) (by simp)
    obtain ⟨new, seen', e, grown⟩ :=
      @discover_grown _ simulator state trace _ (tried trace state path) queue seen
    rw [e, Checked.ok_bind]
    exact ih (queue ++ new, seen') _ (frontier.expand miss (not_le.1 shallow) grown) (by omega)

end BreadthFirst

/-! ## The second search tests all but the last state -/

section Walk

variable {γ : Type} [PyRandom γ] (simulator : ReferenceSimulator) (budget : SearchBudget)
  (seed : Int)

/-- The walk of the second search without its tests: where it stands after so many iterations. -/
inductive Walk : Nat → γ → SearchNode → Prop
  | start : Walk 0 (PyRandom.seeded seed) (simulator.initialState, [])
  | stride {steps : Nat} {rng rng' : γ} {node node' : SearchNode} (walk : Walk steps rng node)
      (next : simulator.stride budget rng node = .ok (some (rng', node'))) :
      Walk (steps + 1) rng' node'

/-- The walk passes no goal in its first iterations. -/
def Misses (γ : Type) [PyRandom γ] (goal : Goal) (bound : Nat) : Prop :=
  ∀ steps < bound, ∀ (rng : γ) (node : SearchNode), simulator.Walk budget seed steps rng node →
    goal node.1 node.2 = false

/-- The last iteration leads to a goal only if the walk passed one before. -/
def LastIdle (γ : Type) [PyRandom γ] (goal : Goal) : Prop :=
  ∀ (steps : Nat) (rng rng' : γ) (node node' : SearchNode), budget.maxNodes = steps + 1 →
    simulator.Walk budget seed steps rng node →
    simulator.stride budget rng node = .ok (some (rng', node')) →
    simulator.Misses budget seed γ goal budget.maxNodes → goal node'.1 node'.2 = false

/-- What the second search should tell with its result. -/
structure Searched [Python] (γ : Type) [PyRandom γ] (goal : Goal) (result : SearchResult) :
    Prop where
  missed : result.status = .budgetExhausted →
    (∃ rng : γ, simulator.Walk budget seed budget.maxNodes rng (result.state, result.trace)) ∧
      simulator.Misses budget seed γ goal (budget.maxNodes + 1)
  found : result.status = .found → simulator.space.Path result.trace result.state ∧
    goal result.state result.trace = true

variable {simulator} {budget} {seed} {steps : Nat} {rng rng' : γ} {node node' : SearchNode}

/-- A walk is determined by its seed. -/
theorem Walk.unique (walk : simulator.Walk budget seed steps rng node)
    (walk' : simulator.Walk budget seed steps rng' node') : rng = rng' ∧ node = node' := by
  induction walk generalizing rng' node' with
  | start =>
    cases walk'
    exact ⟨rfl, rfl⟩
  | stride _ next ih =>
    cases walk' with
    | stride walk' next' =>
      obtain ⟨rfl, rfl⟩ := ih walk'
      exact Prod.mk.inj (Option.some.inj (Except.ok.inj (next.symm.trans next')))

theorem Walk.earlier {bound : Nat} (walk : simulator.Walk budget seed bound rng node)
    (early : steps ≤ bound) : ∃ (rng' : γ) (node' : SearchNode),
      simulator.Walk budget seed steps rng' node' := by
  induction walk with
  | start =>
    obtain rfl := Nat.le_zero.1 early
    exact ⟨_, _, .start⟩
  | stride walk next ih =>
    rcases Nat.le_succ_iff.1 early with early | rfl
    · exact ih early
    · exact ⟨_, _, walk.stride next⟩

/-- An iteration that starts again stands at the initial state, and one whose action is not
    applied stays where it is. -/
theorem stride_path [Python] (path : simulator.space.Path node.2 node.1)
    (next : simulator.stride budget rng node = .ok (some (rng', node'))) :
    simulator.space.Path node'.2 node'.1 := by
  unfold stride at next
  dsimp only at next
  generalize restarted : (if simulator.legalActions node.1 = [] ∨
    budget.maxDepth ≤ node.2.length then (simulator.initialState, []) else node) = from' at next
  have path : simulator.space.Path from'.2 from'.1 := by
    subst restarted
    split_ifs
    · exact .nil
    · exact path
  split at next
  · cases next
  · rename_i first legal offered
    obtain ⟨result, h, next⟩ := Checked.bind_eq_ok.1 next
    split_ifs at next with applied
    · cases next
      have mem : (first :: legal).get (PyRandom.randrange rng legal.length).1 ∈
          simulator.legalActions from'.1 := offered.symm ▸ List.get_mem _ _
      refine path.concat mem ?_
      rw [applied_eq h, if_pos applied]
    · cases next
      exact path

theorem Walk.path [Python] (walk : simulator.Walk budget seed steps rng node) :
    simulator.space.Path node.2 node.1 := by
  induction walk with
  | start => exact .nil
  | stride _ next ih => exact stride_path ih next

theorem Misses.succ {goal : Goal} (misses : simulator.Misses budget seed γ goal steps)
    (walk : simulator.Walk budget seed steps rng node) (miss : goal node.1 node.2 = false) :
    simulator.Misses budget seed γ goal (steps + 1) := by
  intro k less rng' node' walk'
  rcases Nat.lt_succ_iff_lt_or_eq.1 less with less | rfl
  · exact misses k less rng' node' walk'
  · rwa [← (walk.unique walk').2]

variable [Python] {goal : Goal} {left : Nat} {seen : Finset String} {result : SearchResult}

/-- What a result of the loop says of the walk. -/
theorem randomLoop_result (walk : simulator.Walk budget seed steps rng node)
    (all : steps + left = budget.maxNodes) (misses : simulator.Misses budget seed γ goal steps)
    (h : simulator.randomLoop goal budget seed left rng node seen = .ok result) :
    (result.status = .budgetExhausted →
      (∃ rng' : γ, simulator.Walk budget seed budget.maxNodes rng' (result.state, result.trace)) ∧
        simulator.Misses budget seed γ goal budget.maxNodes) ∧
    (result.status = .found → simulator.space.Path result.trace result.state ∧
      goal result.state result.trace = true) := by
  induction left generalizing steps rng node seen with
  | zero =>
    cases h
    obtain rfl : steps = budget.maxNodes := all
    exact ⟨fun _ => ⟨⟨rng, walk⟩, misses⟩, nofun⟩
  | succ left ih =>
    rw [randomLoop] at h
    split_ifs at h with hit
    · cases h
      exact ⟨nofun, fun _ => ⟨walk.path, hit⟩⟩
    · obtain ⟨next, e, h⟩ := Checked.bind_eq_ok.1 h
      have misses := misses.succ walk (Bool.eq_false_iff.2 hit)
      cases next with
      | none =>
        cases h
        exact ⟨nofun, nofun⟩
      | some next => exact ih (walk.stride e) (by omega) misses h

/-- A walk that passes no goal before its last iteration runs out of its budget. -/
theorem randomLoop_misses (walk : simulator.Walk budget seed steps rng node)
    (all : steps + left = budget.maxNodes)
    (whole : simulator.Walk budget seed budget.maxNodes rng' node')
    (misses : simulator.Misses budget seed γ goal budget.maxNodes) :
    ∃ result, simulator.randomLoop goal budget seed left rng node seen = .ok result ∧
      result.status = .budgetExhausted := by
  induction left generalizing steps rng node seen with
  | zero => exact ⟨_, rfl, rfl⟩
  | succ left ih =>
    rw [randomLoop, if_neg (Bool.eq_false_iff.1 (misses steps (by omega) rng node walk))]
    obtain ⟨_, _, next⟩ := whole.earlier (show steps + 1 ≤ budget.maxNodes by omega)
    cases next with
    | stride walk' next =>
      obtain ⟨rfl, rfl⟩ := walk.unique walk'
      rw [next, Checked.ok_bind]
      exact ih (walk'.stride next) (by omega)

end Walk

end ReferenceSimulator

open ReferenceSimulator in
/-- The first search ends, with the nearest goal, or without a goal within its depth, or after
    as many states as it may expand. -/
theorem breadth_first_exact [Python] (simulator : ReferenceSimulator)
    (goal : SimulationState → Bool) (budget : SearchBudget) (tried : simulator.Tried)
    (told : simulator.space.Told) :
    ∃ result, simulator.breadthFirstSearch (fun state _ => goal state) budget = .ok result ∧
      simulator.Exact goal budget result :=
  breadthFirstLoop_exact tried told _ _ _ _ [] .init (Nat.zero_le _)

/-! ### Simulators with few states -/

namespace ReferenceSimulator

/-- An action is tried without an exception, and leads to one of some states or to none. -/
def staysIn (simulator : ReferenceSimulator) (states : List SimulationState)
    (state : SimulationState) (action : SimAction) : Bool :=
  match simulator.transition state action with
  | .ok result => result.status ≠ .applied ∨ result.state ∈ states
  | .error _ => false

/-- No offer leads out of some states, and the first one is among them. -/
structure Closed (simulator : ReferenceSimulator) (states : List SimulationState) : Prop where
  initial : simulator.initialState ∈ states
  stays : ∀ state ∈ states, ∀ action ∈ simulator.legalActions state,
    simulator.staysIn states state action = true

variable {simulator : ReferenceSimulator} {states : List SimulationState}

theorem Closed.reached [Python] (closed : simulator.Closed states) {trace : List SimAction}
    {state : SimulationState} (path : simulator.space.Path trace state) : state ∈ states := by
  induction path with
  | nil => exact closed.initial
  | @concat _ state _ action _ offered applies ih =>
    have stays := closed.stays state ih action offered
    change simulator.applied? state action = _ at applies
    unfold applied? at applies
    unfold staysIn at stays
    cases h : simulator.transition state action with
    | error => simp [h] at applies
    | ok result =>
      simp only [h, Option.ite_none_right_eq_some, Option.some.injEq] at applies
      obtain ⟨applied, rfl⟩ := applies
      simpa [h, applied] using stays

theorem Closed.tried [Python] (closed : simulator.Closed states) : simulator.Tried := by
  intro trace state path action offered
  have stays := closed.stays state (closed.reached path) action offered
  unfold staysIn at stays
  cases h : simulator.transition state action with
  | error => simp [h] at stays
  | ok result => exact ⟨result, rfl⟩

/-- The hashes tell states with different texts. -/
theorem Closed.told (closed : simulator.Closed states)
    (different : (states.map fun state =>
      state.normalized.sortKeys.render.flatMap Json.asciiChar).Nodup) :
    let _ := Python.transparent
    simulator.space.Told := by
  intro _ trace state trace' state' path path' same
  have texts := String.ofList_injective ((String.append_right_inj _).1 same)
  rw [Json.canonical, Json.canonical, String.toList_ofList, String.toList_ofList] at texts
  exact List.inj_on_of_nodup_map different (closed.reached path) (closed.reached path') texts

end ReferenceSimulator

theorem clubPrice_small : 30000 < 10 ^ 16 := by norm_num

def clubPrice : MoneyAmount := .ofCents 30000 clubPrice_small

theorem clubPrice_pos : 0 < clubPrice.decimal.value := by
  norm_num [clubPrice, MoneyAmount.ofCents, PyDecimal.value]

theorem two_pos_uses : 1 ≤ 2 := by norm_num

/-- A membership with two uses, which is refunded as long as none was made. -/
def clubSimulator : ReferenceSimulator where
  scenarioType := .membershipEntitlement
  promotion := none
  refund := none
  points := none
  membership := some ⟨⟨.cny, clubPrice⟩, 2, .unusedOnly, clubPrice_pos, two_pos_uses⟩

def clubUser : SimulationState :=
  { clubSimulator.initialState with
    users := [{ userId := "user-1", balance := 50000, currency := .cny }] }

/-- A member with so many uses made. -/
def clubMember (consumed : Int) : SimulationState :=
  { clubSimulator.initialState with
    users := [{
      userId := "user-1", balance := 20000, currency := .cny, membershipStatus := .active }]
    memberships := [{
      membershipId := "membership-1", userId := "user-1", paidAmount := 30000, currency := .cny }]
    entitlements := [{
      entitlementId := "entitlement-1", membershipId := "membership-1", granted := 2, consumed }] }

/-- The user after a refund. -/
def clubRefunded : SimulationState :=
  { clubSimulator.initialState with
    users := [{
      userId := "user-1", balance := 50000, currency := .cny, membershipStatus := .inactive }]
    memberships := [{
      membershipId := "membership-1", userId := "user-1", paidAmount := 30000, currency := .cny,
      status := .refunded, refundedAmount := 30000 }]
    entitlements := [{
      entitlementId := "entitlement-1", membershipId := "membership-1", granted := 2,
      revoked := 2 }] }

def clubStates : List SimulationState :=
  [clubSimulator.initialState, clubUser, clubMember 0, clubMember 1, clubMember 2, clubRefunded]

def clubCreate : SimAction := .build .createUser none [("initial_balance", .str "500.00")]

theorem club_stays : ∀ state ∈ clubStates, ∀ action ∈ clubSimulator.legalActions state,
    clubSimulator.staysIn clubStates state action = true := by
  -- The order of the offers does not matter, and takes long to compute.
  have unsorted : ∀ state ∈ clubStates,
      (state.users = [] → clubSimulator.staysIn clubStates state clubCreate = true) ∧
      ∀ user ∈ state.users.head?, ∀ action ∈ clubSimulator.offers state user,
        clubSimulator.staysIn clubStates state action = true := by
    decide +kernel
  intro state mem action offered
  obtain ⟨create, offers⟩ := unsorted state mem
  unfold ReferenceSimulator.legalActions at offered
  cases users : state.users with
  | nil =>
    rw [users] at offered
    obtain rfl := List.mem_singleton.1 offered
    exact create users
  | cons user others =>
    rw [users] at offered
    exact offers user (by rw [users]; rfl) action ((List.mem_insertionSort _).1 offered)

theorem club_closed : clubSimulator.Closed clubStates := ⟨List.mem_cons_self, club_stays⟩

/-- The texts that the hashes of the states are made of. -/
theorem club_texts : (clubStates.map fun state =>
    state.normalized.sortKeys.render.flatMap Json.asciiChar).Nodup := by
  decide +kernel

open ReferenceSimulator in
theorem breadth_first_exact_club :
    let _ := Python.transparent
    ∃ result, clubSimulator.breadthFirstSearch
        (fun state _ => state.entitlements.any fun entitlement => entitlement.consumed = 2) {} =
        .ok result ∧
      clubSimulator.Exact
        (fun state => state.entitlements.any fun entitlement => entitlement.consumed = 2) {}
        result :=
  let _ := Python.transparent
  breadth_first_exact clubSimulator
    (fun state => state.entitlements.any fun entitlement => entitlement.consumed = 2) {}
    club_closed.tried (club_closed.told club_texts)

open ReferenceSimulator in
/-- The second search tells the truth, whatever is drawn, exactly where the last iteration leads
    to no goal, unless the walk passed one before. -/
theorem random_search_exact_iff [Python] {γ : Type} [PyRandom γ] (simulator : ReferenceSimulator)
    (goal : Goal) (budget : SearchBudget) (seed : Int) :
    (∀ result, simulator.seededRandomSearch goal budget γ seed = .ok result →
      simulator.Searched budget seed γ goal result) ↔
      simulator.LastIdle budget seed γ goal := by
  have begins : simulator.Walk budget seed 0 (PyRandom.seeded seed : γ)
    (simulator.initialState, []) := .start
  have none : simulator.Misses budget seed γ goal 0 := fun _ less => absurd less (Nat.not_lt_zero _)
  unfold seededRandomSearch
  dsimp only
  constructor
  · intro searched steps rng rng' node node' last walk next misses
    have whole : simulator.Walk budget seed budget.maxNodes rng' node' := last ▸ walk.stride next
    rw [if_neg (Bool.eq_false_iff.1 (misses 0 (by omega) _ _ begins))] at searched
    obtain ⟨result, h, spent⟩ := randomLoop_misses begins (Nat.zero_add _) whole misses
    exact ((searched result h).missed spent).2 _ (Nat.lt_succ_self _) _ _ whole
  · intro idle result h
    split_ifs at h with hit
    · cases h
      exact ⟨nofun, fun _ => ⟨.nil, hit⟩⟩
    · obtain ⟨missed, found⟩ := randomLoop_result begins (Nat.zero_add _) none h
      refine ⟨fun spent => ?_, found⟩
      obtain ⟨⟨rng, whole⟩, misses⟩ := missed spent
      refine ⟨⟨rng, whole⟩, misses.succ whole ?_⟩
      cases bound : budget.maxNodes with
      | zero =>
        rw [bound] at whole
        rw [← (begins.unique whole).2]
        exact Bool.eq_false_iff.2 hit
      | succ steps =>
        rw [bound] at whole
        cases whole with
        | stride walk next => exact idle steps _ rng _ _ bound walk next misses

/-- A generator that draws the first number, as every generator does where there is one number. -/
@[reducible] def firstOnly : PyRandom Unit where
  seeded _ := ()
  randrange _ _ := (0, ())

/-- A state with a user is a goal. -/
def userGoal : Goal := fun state _ => state.users ≠ []

open ReferenceSimulator in
/-- With one iteration, the user is created and the budget used up. -/
theorem not_random_search_exact :
    let _ := Python.transparent
    let _ := firstOnly
    ¬ ∀ (simulator : ReferenceSimulator) (goal : Goal) (budget : SearchBudget) (seed : Int)
      (result : SearchResult), simulator.seededRandomSearch goal budget Unit seed = .ok result →
        simulator.Searched budget seed Unit goal result := by
  intro _ _ claim
  have next : clubSimulator.stride { maxNodes := 1 } () (clubSimulator.initialState, []) =
      .ok (some ((), clubUser, [clubCreate])) := by
    decide +kernel
  have begins : clubSimulator.Walk { maxNodes := 1 } 0 0 () (clubSimulator.initialState, []) :=
    .start
  have misses : clubSimulator.Misses { maxNodes := 1 } 0 Unit userGoal 1 := by
    intro steps first rng node walk
    obtain rfl := Nat.lt_one_iff.1 first
    rw [← (begins.unique walk).2]
    decide
  have all : 0 + 1 = ({ maxNodes := 1 } : SearchBudget).maxNodes := rfl
  obtain ⟨result, run, spent⟩ := randomLoop_misses begins all (begins.stride next) misses
  have told := ((claim clubSimulator userGoal { maxNodes := 1 } 0 result run).missed spent).2
  exact absurd (told 1 Nat.one_lt_two _ _ (begins.stride next)) (by decide)

end RuleArena
