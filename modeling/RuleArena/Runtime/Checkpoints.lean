import RuleArena.Runtime.Passes

/-!
# What a checkpoint keeps

A checkpoint holds the actions of a search as they are serialized. The actions
that a search accepts come back from it as they were (`deserialize_serialize`),
and so the state and the snapshots that are computed from them are those that the
search had (`Kept`).

A worker may crash right after any checkpoint that a search saves
(`Search.saved`). If the pass that saved it does not end the search, the store is
the one that the search goes on with (`Kept.crashed`).
-/

namespace RuleArena

/-! ## Serialized actions -/

/-- No argument has a name that `build` takes itself. -/
def SimAction.Free (action : SimAction) : Prop :=
  ∀ name ∈ action.arguments.map Prod.fst, name ∉ buildParameters

/-- The arguments of an action are a dictionary, ordered by names that `build` leaves free. -/
structure SimAction.Storable (action : SimAction) : Prop where
  unique : (action.arguments.map Prod.fst).Nodup
  sorted : action.arguments.Pairwise fun a b => a.1 ≤ b.1
  free : action.Free

namespace SimAction

/-- A dictionary whose names differ is the list of its entries. -/
theorem argumentDict_of_nodup {arguments : List (String × ArgValue)}
    (unique : (arguments.map Prod.fst).Nodup) : argumentDict arguments = arguments := by
  suffices h : ∀ (entries : List (String × ArgValue)),
      ((entries ++ arguments).map Prod.fst).Nodup →
      arguments.foldl (fun entries argument =>
        if argument.1 ∈ entries.map Prod.fst then
          entries.map fun entry => if entry.1 = argument.1 then argument else entry
        else entries ++ [argument]) entries = entries ++ arguments from h [] unique
  clear unique
  induction arguments with
  | nil => exact fun entries _ => (List.append_nil _).symm
  | cons argument arguments ih =>
    intro entries unique
    have new : argument.1 ∉ entries.map Prod.fst := by
      rw [List.map_append, List.map_cons] at unique
      exact fun known => List.disjoint_of_nodup_append unique known List.mem_cons_self
    rw [List.foldl_cons, if_neg new, ih _ (by rwa [List.append_assoc]), List.append_assoc]
    rfl

end SimAction

theorem argValue_toJson (value : ArgValue) : argValue value.toJson = .ok value := by
  cases value <;> rfl

theorem ActionName.ofActionType?_actionType (name : ActionName) :
    ofActionType? name.actionType = some name := by
  cases name <;> decide

theorem storedArguments_map {arguments : List (String × ArgValue)}
    (free : ∀ name ∈ arguments.map Prod.fst, name ∉ buildParameters) :
    storedArguments (some (.obj (arguments.map fun argument =>
      (argument.1, argument.2.toJson)))) = .ok arguments := by
  have values : (arguments.map fun argument => (argument.1, argument.2.toJson)).mapM
      (fun member => do return (member.1, ← argValue member.2)) =
        (.ok arguments : Except WorkerError _) := by
    clear free
    induction arguments with
    | nil => rfl
    | cons argument arguments ih =>
      rw [List.map_cons, List.mapM_cons, ih]
      dsimp only
      rw [argValue_toJson]
      rfl
  change (List.mapM (fun member : String × Json => do return (member.1, ← argValue member.2))
    (arguments.map fun argument => (argument.1, argument.2.toJson)) >>= _) = _
  rw [values]
  exact Checked.bind_eq_ok.2
    ⟨_, rfl, Checked.bind_eq_ok.2 ⟨(), Checked.ensure_of_pos free, rfl⟩⟩

/-- An action that can be stored comes back from its checkpoint. -/
theorem deserialize_serialize [Python] {action : SimAction} (storable : action.Storable) :
    deserializeAction (serializeAction action) = .ok action := by
  have arguments : storedArguments ((serializeAction action).get? "arguments") =
      .ok action.arguments := by
    rw [← storedArguments_map storable.free]
    conv_rhs => rw [← SimAction.argumentDict_of_nodup storable.unique]
    rfl
  have actionType : ((serializeAction action).get? "action_type").bind
      (fun entry => ActionName.ofActionType? entry.toStr) = some action.actionType :=
    ActionName.ofActionType?_actionType _
  have text (value : Option String) : storedText (some (optionText value)) = value := by
    cases value <;> rfl
  rw [deserializeAction, arguments]
  dsimp only [Checked.ok_bind]
  rw [actionType]
  dsimp only
  rw [SimAction.sortedArguments, List.Pairwise.insertionSort_eq storable.sorted]
  change Except.ok ({ action with
    targetId := storedText (some (optionText action.targetId))
    idempotencyKey := storedText (some (optionText action.idempotencyKey)) } : SimAction) = _
  rw [text, text]

theorem mapM_deserialize [Python] {actions : List SimAction}
    (storable : ∀ action ∈ actions, action.Storable) :
    (actions.map serializeAction).mapM deserializeAction = .ok actions := by
  induction actions with
  | nil => rfl
  | cons action actions ih =>
    rw [List.map_cons, List.mapM_cons, deserialize_serialize (storable action List.mem_cons_self),
      ih fun action h => storable action (List.mem_cons_of_mem _ h)]
    rfl

/-! ## Accepted actions -/

/-- What fits a template has its names. -/
theorem exists_of_parameterMatch {flexible : List String} {arguments : List (String × ArgValue)}
    {templates : List SimAction} (h : parameterMatch flexible arguments templates = .ok true) :
    ∃ template ∈ templates,
      SameNames (arguments.map Prod.fst) (template.arguments.map Prod.fst) := by
  induction templates with
  | nil => cases h
  | cons template templates ih =>
    by_cases same : SameNames (arguments.map Prod.fst) (template.arguments.map Prod.fst)
    · exact ⟨template, List.mem_cons_self, same⟩
    · unfold parameterMatch at h
      rw [if_pos same] at h
      obtain ⟨other, mem, same⟩ := ih h
      exact ⟨other, List.mem_cons_of_mem _ mem, same⟩

theorem SimAction.free_build {actionType : ActionName} {targetId : Option String}
    {arguments : List (String × ArgValue)}
    (free : ∀ name ∈ arguments.map Prod.fst, name ∉ buildParameters) :
    (build actionType targetId arguments).Free := fun name mem =>
  free name (((List.perm_insertionSort _ _).map Prod.fst).mem_iff.1 mem)

namespace ReferenceSimulator

variable {simulator : ReferenceSimulator} {state : SimulationState}

theorem refundOffers_free {order : SimOrder} : ∀ action ∈ refundOffers order, action.Free := by
  unfold refundOffers
  split_ifs
  · exact fun _ h => by cases h
  · rw [List.forall_mem_cons, List.forall_mem_singleton]
    exact ⟨SimAction.free_build (by simp [buildParameters]),
      SimAction.free_build (by simp [buildParameters])⟩

theorem offers_free {user : SimUser} : ∀ action ∈ simulator.offers state user, action.Free := by
  have pay (order : SimOrder) : (payOffer order).Free := SimAction.free_build (by simp)
  unfold offers
  cases state.scenarioType with
  | promotion =>
    cases simulator.promotion with
    | none => exact fun _ h => by cases h
    | some promotion =>
      dsimp only
      rw [List.forall_mem_append, List.forall_mem_cons, List.forall_mem_singleton,
        List.forall_mem_flatMap]
      refine ⟨⟨?_, ?_⟩, fun order _ => ?_⟩
      · exact SimAction.free_build (by simp [buildParameters])
      · exact SimAction.free_build (by simp [buildParameters])
      · rw [List.forall_mem_append, List.forall_mem_map, List.forall_mem_cons]
        exact ⟨fun coupon _ => SimAction.free_build (by simp [buildParameters]), pay order,
          refundOffers_free⟩
  | refundPoints =>
    dsimp only
    rw [List.forall_mem_append, List.forall_mem_cons, List.forall_mem_flatMap,
      List.forall_mem_cons, List.forall_mem_singleton]
    refine ⟨⟨?_, fun order _ => ?_⟩, ?_, ?_⟩
    · exact SimAction.free_build (by simp [buildParameters])
    · rw [List.forall_mem_cons]
      exact ⟨pay order, refundOffers_free⟩
    · exact SimAction.free_build (by simp [buildParameters])
    · exact SimAction.free_build (by simp [buildParameters])
  | membershipEntitlement =>
    cases simulator.membership with
    | none => exact fun _ h => by cases h
    | some membership =>
      dsimp only
      rw [List.forall_mem_append, List.forall_mem_cons, List.forall_mem_flatMap,
        List.forall_mem_map]
      refine ⟨⟨?_, fun entitlement _ => ?_⟩, fun membership _ => ?_⟩
      · exact SimAction.free_build (by simp [buildParameters])
      · rw [List.forall_mem_cons, List.forall_mem_singleton]
        exact ⟨SimAction.free_build (by simp [buildParameters]),
          SimAction.free_build (by simp [buildParameters])⟩
      · exact SimAction.free_build (by simp [buildParameters])

/-- No action that a simulator offers has an argument that `build` takes itself. -/
theorem legalActions_free : ∀ action ∈ simulator.legalActions state, action.Free := by
  intro action offered
  unfold legalActions at offered
  split at offered
  · obtain rfl := List.mem_singleton.1 offered
    exact SimAction.free_build (by simp [buildParameters])
  · exact offers_free action ((List.mem_insertionSort _).1 offered)

end ReferenceSimulator

/-- A proposal that is accepted is an action that can be stored. -/
theorem storable_of_validate {proposal : ActionProposal} {simulator : ReferenceSimulator}
    {state : SimulationState} {history : List HistoryEntry} {usage : BudgetUsage}
    {budget : Budget} {action : SimAction} (h : validateActionProposal proposal
      (simulator.legalActions state) history usage budget = .ok action)
    (idempotencyKey : Option String) : { action with idempotencyKey }.Storable := by
  simp only [validateActionProposal, Checked.bind_eq_ok, Checked.ensure_eq_ok,
    Checked.pure_eq_ok] at h
  obtain ⟨-, -, -, -, fits, hf, -, rfl, -, -, -, -, rfl⟩ := h
  have perm := List.perm_insertionSort (fun a b : String × ArgValue => a.1 ≤ b.1)
    proposal.arguments
  refine ⟨(perm.map Prod.fst).nodup_iff.2 proposal.unique, List.pairwise_insertionSort _ _, ?_⟩
  intro name mem
  obtain ⟨template, ht, same, -⟩ := exists_of_parameterMatch hf
  exact ReferenceSimulator.legalActions_free template (List.mem_of_mem_filter ht) name
    (same name mem)

/-! ## What a search has kept -/

/-- One more action is resumed like those before it. -/
theorem resumeState_append [Python] {simulator : ReferenceSimulator} {actions : List SimAction}
    {state : SimulationState} {snapshots : List Json}
    (h : resumeState simulator actions = .ok (state, snapshots)) {action : SimAction}
    {transition : TransitionResult}
    (moved : simulator.transition state action = .ok transition) :
    resumeState simulator (actions ++ [action]) =
      .ok (transition.state, snapshots ++ [transition.state.snapshot]) := by
  rw [resumeState] at h ⊢
  rw [List.foldlM_append, h]
  dsimp only [Checked.ok_bind]
  rw [List.foldlM_cons]
  dsimp only
  rw [moved]
  rfl

/-- The version of the checkpoint of a strategy. -/
def InMemoryRuntimeStore.checkpointVersion (store : InMemoryRuntimeStore)
    (strategyRunId : String) : Nat :=
  ((store.checkpoints strategyRunId).map Checkpoint.version).getD 0

theorem InMemoryRuntimeStore.saveCheckpoint_eq (store : InMemoryRuntimeStore)
    (strategyRunId : String) (state : CheckpointState) (expectedVersion : Nat) :
    store.saveCheckpoint strategyRunId state expectedVersion =
      if store.checkpointVersion strategyRunId = expectedVersion then
        let checkpoint : Checkpoint := { strategyRunId, version := expectedVersion + 1, state }
        .ok ({ store with
            checkpoints := insertEntry store.checkpoints strategyRunId checkpoint }, checkpoint)
      else .error .valueError := by
  unfold saveCheckpoint checkpointVersion
  split_ifs with same
  · subst same
    cases store.checkpoints strategyRunId with
    | none => rfl
    | some checkpoint =>
      dsimp only [Option.map_some, Option.getD_some]
      rw [Checked.ensure_of_pos rfl]
      rfl
  · cases hc : store.checkpoints strategyRunId with
    | none =>
      rw [hc] at same
      exact congrArg (· >>= _) (Checked.ensure_of_neg same)
    | some checkpoint =>
      rw [hc] at same
      exact congrArg (· >>= _) (Checked.ensure_of_neg same)

/-- The checkpoint of a strategy, if it has one, holds actions that a search has stored. -/
def InMemoryRuntimeStore.Serialized (store : InMemoryRuntimeStore) (strategyRunId : String)
    (actions : List SimAction) : Prop :=
  (∀ action ∈ actions, action.Storable) ∧
    ((store.checkpoints strategyRunId).map fun checkpoint => checkpoint.state.actions).getD [] =
      actions.map serializeAction

namespace Search

variable {search search' : Search} {turn : Turn}

/-- What is stored is what the search has: the strategy, the actions, from which the state and
    the snapshots can be computed, and the version of the checkpoint. It remembers each action. -/
structure Kept [Python] (search : Search) : Prop where
  stored : search.store.strategies search.strategy.strategyRunId = some search.strategy
  searching : search.strategy.status = .searching
  computed : resumeState search.spec.simulator search.actions =
    .ok (search.state, search.snapshots)
  serialized : search.store.Serialized search.strategy.strategyRunId search.actions
  version : search.store.checkpointVersion search.strategy.strategyRunId =
    search.checkpointVersion
  remembered : search.history.length = search.actions.length

variable [Python]

theorem Kept.start {spec : PolicySpec} {runId : String} {store : InMemoryRuntimeStore}
    {strategy : StrategyRun} {adapter : RecordedLLMAdapter} {actions : List SimAction}
    (serialized : store.Serialized strategy.strategyRunId actions)
    (h : start spec runId store strategy adapter = .ok search) : search.Kept := by
  obtain ⟨storable, same⟩ := serialized
  unfold Search.start at h
  have known : ((store.checkpoints strategy.strategyRunId).map fun checkpoint =>
      checkpoint.state.actions).getD [] = actions.map serializeAction := same
  simp only [known, mapM_deserialize storable, Checked.bind_eq_ok, Checked.pure_eq_ok,
    WorkerError.ofStore_eq_ok, InMemoryRuntimeStore.updateStrategy] at h
  obtain ⟨_, ⟨⟩, ⟨state, snapshots⟩, computed, _, ⟨-, -, rfl⟩, rfl⟩ := h
  exact ⟨InMemoryRuntimeStore.insertEntry_self .., rfl, computed, ⟨storable, same⟩, rfl,
    List.length_map _⟩

/-- A pass that does not end the search keeps it so. -/
theorem Kept.next (kept : search.Kept) (h : search.turn turn = .ok (search', none)) :
    search'.Kept := by
  obtain ⟨runs, events, same⟩ := search.tick_frame turn
  obtain ⟨-, proposal, -, -, ⟨kind, message, -, -, rfl⟩ | ⟨action, hv, ha, -⟩⟩ := next_cases h
  · refine ⟨stored_tick kept.stored, kept.searching, kept.computed, ?_, ?_, kept.remembered⟩
    · change (search.tick turn).store.Serialized _ _
      rw [same]
      exact kept.serialized
    · change (search.tick turn).store.checkpointVersion _ = _
      rw [same]
      exact kept.version
  · obtain ⟨transition, checkpoint, moved, actions, rfl⟩ := accept_eq_ok ha
    refine ⟨InMemoryRuntimeStore.insertEntry_self .., kept.searching,
      resumeState_append kept.computed moved, ⟨?_, ?_⟩, ?_, ?_⟩
    · change ∀ a ∈ search.actions ++ [_], a.Storable
      rw [List.forall_mem_append, List.forall_mem_singleton]
      exact ⟨kept.serialized.1, storable_of_validate hv _⟩
    · change ((insertEntry _ search.strategy.strategyRunId checkpoint
        search.strategy.strategyRunId).map _).getD [] = _
      rw [InMemoryRuntimeStore.insertEntry_self]
      exact actions
    · change ((insertEntry _ search.strategy.strategyRunId checkpoint
        search.strategy.strategyRunId).map _).getD 0 = _
      rw [InMemoryRuntimeStore.insertEntry_self]
      rfl
    · change (search.history ++ [_]).length = (search.actions ++ [_]).length
      rw [List.length_append, List.length_append, kept.remembered]
      rfl

theorem Kept.passes (kept : search.Kept) {turns : List Turn}
    (h : search.loop turns = .ok (search', none)) : search'.Kept := by
  induction turns generalizing search with
  | nil =>
    obtain ⟨rfl, -⟩ := Prod.mk.inj (Checked.pure_eq_ok.1 h)
    exact kept
  | cons turn turns ih =>
    obtain ⟨⟨between, ended⟩, ht, h⟩ := Checked.bind_eq_ok.1 h
    cases ended with
    | some ended => cases h
    | none => exact ih (kept.next ht) h

/-! ## Taking a search up again -/

/-- A search that is taken up from its store: it has forgotten whether its actions were applied,
    how often the agent may try again, and what was rejected. -/
def resumed (search : Search) (adapter : RecordedLLMAdapter) : Search :=
  { search with
    store := search.store.orSame (search.store.updateStrategy search.strategy)
    adapter
    history := search.actions.map fun action =>
      { actionKey := action.canonicalKey, status := .applied }
    usage := search.strategy.usage
    priorElapsed := search.strategy.usage.elapsedSeconds
    rejection := none
    illegalRetries := 0
    rejectedKinds := [] }

/-- The search that begins on what a search has stored. -/
theorem Kept.start_again (kept : search.Kept) (adapter : RecordedLLMAdapter) :
    Search.start search.spec search.runId search.store search.strategy adapter =
      .ok (search.resumed adapter) := by
  have known : ((search.store.checkpoints search.strategy.strategyRunId).map fun checkpoint =>
      checkpoint.state.actions).getD [] = search.actions.map serializeAction := kept.serialized.2
  have searching : { search.strategy with status := .searching } = search.strategy := by
    rw [← kept.searching]
  rw [Search.start, known, mapM_deserialize kept.serialized.1]
  dsimp only [Checked.ok_bind]
  have updated : search.store.updateStrategy search.strategy =
      .ok (search.store.orSame (search.store.updateStrategy search.strategy), ()) := by
    rw [InMemoryRuntimeStore.updateStrategy, kept.stored]
    rfl
  rw [kept.computed]
  dsimp only [Checked.ok_bind]
  have version : ((search.store.checkpoints search.strategy.strategyRunId).map
      Checkpoint.version).getD 0 = search.checkpointVersion := kept.version
  rw [searching, updated, version]
  rfl

/-! ## Crashes -/

/-- The store in which a candidate was saved, if the search ended so. -/
def candidateStore : Except WorkerError (Search × Option SearchEnd) → List InMemoryRuntimeStore
  | .ok (search, some { found := some _, .. }) => [search.store]
  | _ => []

/-- The stores right after the checkpoints that a pass saves: one when an action is accepted,
    and one when the path is made a candidate. -/
def saved (search : Search) (turn : Turn) : List InMemoryRuntimeStore :=
  let search := search.tick turn
  match search.exhausted, (search.adapter.propose (List.ofFn turn.completions)).2 with
  | .ok none, .proposal proposal =>
    let counted := (search.asked turn).counted
    if ¬ counted.usage.Within counted.strategy.budget then []
    else
      match proposal with
      | .stop proposal => candidateStore (counted.stop proposal)
      | .action proposal =>
        match validateActionProposal proposal (search.spec.simulator.legalActions search.state)
            counted.history counted.usage counted.strategy.budget with
        | .error _ => []
        | .ok action =>
          match counted.accept action with
          | .error _ => []
          | .ok accepted => accepted.store :: candidateStore accepted.judge
  | _, _ => []

/-- A checkpoint whose pass does not end the search is that of an action, and the search goes on
    with the store that it was saved in. -/
theorem store_of_saved {store : InMemoryRuntimeStore} (crashed : store ∈ search.saved turn)
    (h : search.turn turn = .ok (search', none)) :
    search'.store = store ∧ search'.strategy.usage = search'.usage ∧ search'.rejection = none ∧
      search'.rejectedKinds = search.rejectedKinds ∧ search'.adapter.pendingCalls = [] := by
  obtain ⟨ready, proposal, hr, within, followed⟩ := next_cases h
  unfold saved at crashed
  dsimp only at crashed
  rw [ready, hr] at crashed
  dsimp only at crashed
  split_ifs at crashed
  · split at crashed
    · cases crashed
    · next action valid =>
      obtain ⟨kind, message, hv, -⟩ | ⟨action', hv, ha, hn⟩ := followed
      · cases hv.symm.trans valid
      · obtain rfl := Except.ok.inj (hv.symm.trans valid)
        have judged : search'.judge = .ok (search', none) := by
          rw [judge, hn]
          rfl
        rw [ha] at crashed
        dsimp only at crashed
        rw [judged] at crashed
        obtain rfl := List.mem_singleton.1 crashed
        obtain ⟨transition, checkpoint, -, -, rfl⟩ := accept_eq_ok ha
        exact ⟨rfl, rfl, rfl, rfl, rfl⟩
  · cases crashed

end Search

end RuleArena
