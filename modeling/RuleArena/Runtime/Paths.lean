import RuleArena.Foundation.AsciiText
import RuleArena.Runtime.Returns

/-!
# How often a path is replayed

A worker replays a candidate only if it has not replayed one with the same key, and
the key is made of the actions with their idempotency keys. But the keys that a
search gives to its actions name the strategy, so candidates of two strategies never
have one key. In a run that nobody cancels each of them is replayed, though they may
have one path (`AttackWorker.run_replays_again`).
-/

namespace RuleArena

/-! ## Paths -/

namespace SimAction

/-- What an action does, whatever its idempotency key is. -/
def effect (action : SimAction) : ActionName × String × Option String × List (String × ArgValue) :=
  (action.actionType, action.actorId, action.targetId, action.arguments)

/-- The members of a payload in the order of their names. -/
theorem sortKeys_payload (version action actor target arguments key : Json) :
    (Json.obj [("schema_version", version), ("action", action), ("actor_id", actor),
      ("target_id", target), ("arguments", arguments), ("idempotency_key", key)]).sortKeys =
      .obj [("action", action.sortKeys), ("actor_id", actor.sortKeys),
        ("arguments", arguments.sortKeys), ("idempotency_key", key.sortKeys),
        ("schema_version", version.sortKeys), ("target_id", target.sortKeys)] := by
  simp only [Json.sortKeys, Json.sortMembers, List.insertionSort]
  simp

/-- The canonical keys of actions with one effect tell their idempotency keys. -/
theorem idempotencyKey_of_canonicalKey {action other : SimAction}
    (effect : action.effect = other.effect) (h : action.canonicalKey = other.canonicalKey) :
    action.idempotencyKey = other.idempotencyKey := by
  simp only [SimAction.effect, Prod.mk.injEq] at effect
  obtain ⟨actionType, actorId, targetId, arguments⟩ := effect
  unfold canonicalKey Json.canonical Json.asciiText toHttpPayload at h
  rw [sortKeys_payload, sortKeys_payload, actionType, actorId, targetId, arguments] at h
  -- the texts agree up to the idempotency key
  have h := String.ofList_injective h
  simp only [String.toList_ofList, Json.render, Json.renderObj, Json.renderMembers,
    List.flatMap_cons, List.flatMap_append, List.append_cancel_left_eq] at h
  cases hk : action.idempotencyKey with
  | none =>
    cases hk' : other.idempotencyKey with
    | none => rfl
    | some key' =>
      rw [hk, hk'] at h
      cases h
  | some key =>
    cases hk' : other.idempotencyKey with
    | none =>
      rw [hk, hk'] at h
      cases h
    | some key' =>
      rw [hk, hk'] at h
      -- both keys are written between the same texts
      have rest : (Json.renderChars key.toList ++ Json.renderMembers
            [("schema_version", (Json.str "1.0").sortKeys),
              ("target_id", (optionText other.targetId).sortKeys)]).flatMap Json.asciiChar =
          (Json.renderChars key'.toList ++ Json.renderMembers
            [("schema_version", (Json.str "1.0").sortKeys),
              ("target_id", (optionText other.targetId).sortKeys)]).flatMap Json.asciiChar := by
        change (Json.str key).render.flatMap Json.asciiChar ++ _ =
          (Json.str key').render.flatMap Json.asciiChar ++ _ at h
        simpa only [Json.render, Json.renderMembers, List.flatMap_cons, List.flatMap_append,
          List.append_assoc, List.cons_append, List.append_cancel_left_eq] using h
      rw [String.toList_inj.1 (Json.asciiChars_append_inj rest).1]

/-- Actions with the same effects and the same canonical keys have the same idempotency keys. -/
theorem idempotencyKeys_of_canonicalKeys {actions others : List SimAction}
    (effects : actions.map effect = others.map effect)
    (keys : actions.map canonicalKey = others.map canonicalKey) :
    actions.map idempotencyKey = others.map idempotencyKey := by
  induction actions generalizing others with
  | nil =>
    cases others with
    | nil => rfl
    | cons other others => cases effects
  | cons action actions ih =>
    cases others with
    | nil => cases effects
    | cons other others =>
      obtain ⟨effect, effects⟩ := List.cons.inj effects
      obtain ⟨key, keys⟩ := List.cons.inj keys
      rw [List.map_cons, List.map_cons, idempotencyKey_of_canonicalKey effect key,
        ih effects keys]

end SimAction

namespace Candidate

variable {candidate other : Candidate}

def key [Python] (candidate : Candidate) : String :=
  candidateKey candidate.actions candidate.invariant

/-- Two candidates for one invariant, with actions that are equal in type, actor, target and
    arguments, step by step. -/
def SamePath (candidate other : Candidate) : Prop :=
  candidate.invariant = other.invariant ∧
    candidate.actions.map SimAction.effect = other.actions.map SimAction.effect

/-- The actions of two candidates have the same idempotency keys, step by step. -/
def SameKeys (candidate other : Candidate) : Prop :=
  candidate.actions.map SimAction.idempotencyKey = other.actions.map SimAction.idempotencyKey

instance : DecidableRel SamePath := fun _ _ => by
  unfold SamePath
  infer_instance

instance : DecidableRel SameKeys := fun _ _ => by
  unfold SameKeys
  infer_instance

theorem SamePath.symm (same : candidate.SamePath other) : other.SamePath candidate :=
  ⟨same.1.symm, same.2.symm⟩

/-- The effect of an action and its idempotency key are the action. -/
theorem effect_idempotencyKey_injective :
    Function.Injective fun action : SimAction => (action.effect, action.idempotencyKey) := by
  rintro ⟨_, _, _, _, _⟩ ⟨_, _, _, _, _⟩ same
  simp only [SimAction.effect, Prod.mk.injEq] at same
  obtain ⟨⟨rfl, rfl, rfl, rfl⟩, rfl⟩ := same
  rfl

theorem SamePath.eq (path : candidate.SamePath other) (keys : candidate.SameKeys other) :
    candidate = other := by
  obtain ⟨actions, invariant⟩ := candidate
  obtain ⟨actions', invariant'⟩ := other
  obtain ⟨rfl, effects⟩ := path
  have zipped := congrArg₂ List.zip effects keys
  rw [List.zip_map', List.zip_map'] at zipped
  obtain rfl : actions = actions' := List.map_injective_iff.2 effect_idempotencyKey_injective zipped
  rfl

/-- Candidates with one path and one key have the same idempotency keys, if no two texts have one
    digest. -/
theorem SamePath.sameKeys [Python] (injective : Function.Injective Python.sha256)
    (path : candidate.SamePath other) (same : candidate.key = other.key) :
    candidate.SameKeys other := by
  unfold key candidateKey at same
  rw [path.1] at same
  have texts := injective ((String.append_right_inj _).1 same)
  have strings (actions : List SimAction) :
      actions.map (fun action => Json.str action.canonicalKey) =
        (actions.map SimAction.canonicalKey).map Json.str := by
    rw [List.map_map]
    rfl
  rw [strings, strings] at texts
  exact SimAction.idempotencyKeys_of_canonicalKeys path.2 (Json.asciiText_strings_inj texts)

end Candidate

/-! ## The candidates of a run -/

/-- The candidates that strategies have ended with, and those that have been replayed. -/
structure CandidateLog where
  candidates : List Candidate
  replays : List Candidate

def WorkerWorld.log (world : WorkerWorld) : CandidateLog := ⟨world.candidates, world.replays⟩

theorem WorkerWorld.candidates_log (world : WorkerWorld) :
    world.candidates = world.log.candidates := rfl

namespace CandidateLog

variable [Python] {log : CandidateLog} {keys : List String} {candidate : Candidate}

/-- Some candidates have been replayed, with different keys. -/
structure Once (log : CandidateLog) : Prop where
  unique : (log.replays.map Candidate.key).Nodup
  known : ∀ candidate ∈ log.replays, candidate ∈ log.candidates

/-- For every key of a candidate one with this key has been replayed. -/
structure Settled (keys : List String) (log : CandidateLog) : Prop extends log.Once where
  keys_eq : log.replays.map Candidate.key = keys
  covered : ∀ candidate ∈ log.candidates, candidate.key ∈ keys

/-- The last candidate has still to be replayed. -/
structure Waits (keys : List String) (candidate : Candidate) (log : CandidateLog) : Prop
    extends log.Once where
  keys_eq : log.replays.map Candidate.key = keys
  own : candidate ∈ log.candidates
  covered : ∀ candidate' ∈ log.candidates, candidate'.key ∈ keys ++ [candidate.key]

theorem settled_empty : Settled [] ⟨[], []⟩ where
  unique := List.nodup_nil
  known := List.forall_mem_nil _
  keys_eq := rfl
  covered := List.forall_mem_nil _

/-- A candidate whose key is known changes nothing. -/
theorem Settled.again (settled : log.Settled keys) (candidate : Candidate)
    (seen : candidate.key ∈ keys) :
    Settled keys { log with candidates := log.candidates ++ [candidate] } where
  unique := settled.unique
  known := fun candidate' mem => List.mem_append_left _ (settled.known candidate' mem)
  keys_eq := settled.keys_eq
  covered := by
    rintro candidate' mem
    rcases List.mem_append.1 mem with mem | mem
    · exact settled.covered candidate' mem
    · rw [List.mem_singleton.1 mem]
      exact seen

theorem Settled.note (settled : log.Settled keys) (candidate : Candidate) :
    Waits keys candidate { log with candidates := log.candidates ++ [candidate] } where
  unique := settled.unique
  known := fun candidate' mem => List.mem_append_left _ (settled.known candidate' mem)
  keys_eq := settled.keys_eq
  own := List.mem_append_right _ (List.mem_singleton_self _)
  covered := by
    rintro candidate' mem
    rcases List.mem_append.1 mem with mem | mem
    · exact List.mem_append_left _ (settled.covered candidate' mem)
    · rw [List.mem_singleton.1 mem]
      exact List.mem_append_right _ (List.mem_singleton_self _)

/-- The last candidate is replayed. -/
theorem Waits.replay (waits : log.Waits keys candidate) (new : candidate.key ∉ keys) :
    Settled (keys ++ [candidate.key]) { log with replays := log.replays ++ [candidate] } where
  unique := by
    rw [List.map_append, waits.keys_eq]
    have unique := waits.unique
    rw [waits.keys_eq] at unique
    exact List.nodup_append.2 ⟨unique, List.nodup_singleton _, fun key mem key' mem' same =>
      new (List.mem_singleton.1 mem' ▸ same ▸ mem)⟩
  known := by
    rintro candidate' mem
    rcases List.mem_append.1 mem with mem | mem
    · exact waits.known candidate' mem
    · rw [List.mem_singleton.1 mem]
      exact waits.own
  keys_eq := by
    rw [List.map_append, waits.keys_eq]
    rfl
  covered := waits.covered

end CandidateLog

/-! ## Programs that leave the log alone -/

namespace AttackWorker

variable {α : Type} {runId : String}

theorem call_keeps {op : InMemoryRuntimeStore → Except StoreError (InMemoryRuntimeStore × α)} :
    (call runId op).Keeps WorkerWorld.log := by
  intro world
  unfold call
  dsimp only
  split
  · rfl
  · rfl

theorem share_keeps {budget : Option Budget} : (share budget).Keeps WorkerWorld.log := by
  cases budget with
  | some budget => exact .pure budget
  | none => exact .raise _

theorem raising_keeps {x : Except WorkerError α} : (raising x).Keeps WorkerWorld.log := by
  cases x with
  | ok a => exact .pure a
  | error e => exact .raise _

theorem cancel_keeps : (cancel runId : Program Stop WorkerWorld α).Keeps WorkerWorld.log :=
  call_keeps.bind fun _ => .raise _

variable [Python] {worker : AttackWorker} {visit : Visit} {run : AttackRun}
  {visits : StrategyType → Visit} {progress : Progress} {keys : List String}

theorem confirm_keeps {actions : List SimAction} {replayed : ReplayResult}
    (violated : List InvariantId) :
    (confirm runId visit actions replayed violated).Keeps WorkerWorld.log := by
  induction violated with
  | nil => exact .pure ()
  | cons invariantId rest ih =>
    rw [confirm]
    cases visit.minimized invariantId with
    | none => exact .raise _
    | some minimized => exact call_keeps.bind fun _ => ih

theorem searchStrategy_keeps {strategy : StrategyRun} {turns : List Turn} :
    (worker.searchStrategy runId strategy turns).Keeps WorkerWorld.log := by
  intro world
  unfold searchStrategy
  split
  · rfl
  · split
    · rfl
    · rfl
    · split
      · rfl
      · rfl

theorem candidate_keeps {strategy : StrategyRun} :
    (worker.candidate runId visit strategy).Keeps WorkerWorld.log := by
  unfold candidate
  refine call_keeps.bind fun current => call_keeps.bind fun checkpoint => ?_
  split
  · exact raising_keeps.bind fun _ => .pure _
  · exact searchStrategy_keeps

omit [Python] in
theorem recoveryTarget_keeps {todo : List StrategyType} :
    (worker.recoveryTarget runId run visits todo).Keeps WorkerWorld.log := by
  induction todo with
  | nil => exact .pure _
  | cons strategyType rest ih =>
    rw [recoveryTarget]
    refine share_keeps.bind fun budget => call_keeps.bind fun strategy =>
      call_keeps.bind fun checkpoint => ?_
    split
    · exact .pure _
    · exact ih

omit [Python] in
theorem fail_keeps (stop : Stop) : (fail runId stop).Keeps WorkerWorld.log := by
  have failing : (do
      let current ← read runId (·.getRun runId)
      if current.status = .searching ∨ current.status = .replaying then
        let _ ← setStatus runId current.status .failed (some .infraFailed) :
          Program Stop WorkerWorld Unit).Keeps WorkerWorld.log :=
    call_keeps.bind fun _ => .ite (call_keeps.bind fun _ => .pure ()) (.pure ())
  cases stop with
  | returned => exact .pure ()
  | searching => exact .pure ()
  | starved => exact failing
  | raised error => exact failing

omit [Python] in
theorem rescue_log {m : Program Stop WorkerWorld Unit} {world : WorkerWorld} :
    (m.rescue (fail runId) world).2.log = (m world).2.log := by
  unfold Program.rescue
  cases m world with
  | mk result world =>
    cases result with
    | ok done => rfl
    | error stop => exact ((fail_keeps stop).bind fun _ => .raise stop) world

/-! ## The replays of a run -/

/-- What leaves the log alone leaves it settled. -/
theorem keeps_settled {m : Program Stop WorkerWorld α} (h : m.Keeps WorkerWorld.log)
    (keys : List String) :
    m.Meets (fun world => world.log.Settled keys) (fun _ world => world.log.Settled keys)
      fun _ world => world.log.Once :=
  (h.meets (CandidateLog.Settled keys)).mono (fun _ h => h) (fun _ _ h => h)
    fun _ _ h => h.toOnce

theorem cancel_once {Q : α → WorkerWorld → Prop} :
    (cancel runId : Program Stop WorkerWorld α).Meets (fun world => world.log.Once) Q
      fun _ world => world.log.Once :=
  Program.Meets.bind (call_keeps.meets CandidateLog.Once) fun _ => .raise fun _ h => h

/-- A candidate with a new key is replayed, unless the run is to be cancelled. -/
theorem replay_settles {actions : List SimAction} {invariant : InvariantId}
    (kept : progress.replayedCandidateKeys = keys ++ [candidateKey actions invariant])
    (new : candidateKey actions invariant ∉ keys) :
    (replay runId visit actions invariant progress).Meets
      (fun world => world.log.Waits keys ⟨actions, invariant⟩)
      (fun progress' world => world.log.Settled progress'.replayedCandidateKeys)
      fun _ world => world.log.Once := by
  unfold replay
  refine ((call_keeps.meets (CandidateLog.Waits keys ⟨actions, invariant⟩)).mono (fun _ h => h)
    (fun _ _ h => h) fun _ _ h => h.toOnce).bind fun current => .ite (fun _ => ?_) fun _ => ?_
  -- a run to be cancelled replays nothing
  · exact cancel_once.mono (fun _ h => h.toOnce) (fun _ _ h => h) fun _ _ h => h
  -- whether or not the status is changed, the candidate is replayed
  have begun (m : Program Stop WorkerWorld Progress)
      (h : m.Meets (fun world => world.log.Settled progress.replayedCandidateKeys)
        (fun progress' world => world.log.Settled progress'.replayedCandidateKeys)
        fun _ world => world.log.Once) :
      (if current.status = .searching then do
          let _ ← setStatus runId .searching .replaying none
          Program.modify (WorkerWorld.noteReplay { actions, invariant })
          m
        else do
          Program.modify (WorkerWorld.noteReplay { actions, invariant })
          m : Program Stop WorkerWorld Progress).Meets
        (fun world => world.log.Waits keys ⟨actions, invariant⟩)
        (fun progress' world => world.log.Settled progress'.replayedCandidateKeys)
        fun _ world => world.log.Once := by
    have noted : (Program.modify (WorkerWorld.noteReplay { actions, invariant }) >>=
        fun _ => m).Meets (fun world => world.log.Waits keys ⟨actions, invariant⟩)
        (fun progress' world => world.log.Settled progress'.replayedCandidateKeys)
        fun _ world => world.log.Once :=
      Program.Meets.bind (.modify fun _ waits => kept ▸ waits.replay new) fun _ => h
    refine .ite (fun _ => ?_) fun _ => noted
    exact ((call_keeps.meets (CandidateLog.Waits keys ⟨actions, invariant⟩)).mono (fun _ h => h)
      (fun _ _ h => h) fun _ _ h => h.toOnce).bind fun _ => noted
  cases visit.replay with
  -- the replay has raised, after it was noted
  | none => exact begun _ (.raise fun _ h => h.toOnce)
  | some replayed =>
    refine begun _ (.ite (fun _ => ?_) fun _ => ?_)
    · exact (keeps_settled (confirm_keeps _) _).bind fun _ =>
        (keeps_settled call_keeps _).bind fun _ =>
        .raise fun _ h => h.toOnce
    · exact (keeps_settled call_keeps _).bind fun _ => .pure fun _ h => h

/-- The turn of a strategy. -/
theorem visit_settles {strategyType : StrategyType} :
    (worker.visit runId run strategyType visit progress).Meets
      (fun world => world.log.Settled progress.replayedCandidateKeys)
      (fun done world => world.log.Settled (done.getD progress).replayedCandidateKeys)
      fun _ world => world.log.Once := by
  unfold AttackWorker.visit
  refine .ite (fun _ => .pure fun _ h => h) fun _ => ?_
  refine (keeps_settled call_keeps _).bind fun requested => .ite (fun _ => ?_) fun _ => ?_
  · exact cancel_once.mono (fun _ h => h.toOnce) (fun _ _ h => h) fun _ _ h => h
  refine (keeps_settled share_keeps _).bind fun budget =>
    (keeps_settled call_keeps _).bind fun strategy =>
    (keeps_settled candidate_keeps _).bind fun candidate =>
    (keeps_settled share_keeps _).bind fun budget =>
    (keeps_settled call_keeps _).bind fun strategy => ?_
  cases candidate with
  | none => exact .pure fun _ h => h
  | some candidate =>
    obtain ⟨actions, invariant⟩ := candidate
    -- a key that has been replayed is passed over
    by_cases seen : candidateKey actions invariant ∈ progress.replayedCandidateKeys
    · refine Program.Meets.bind (Q := fun _ world =>
        world.log.Settled progress.replayedCandidateKeys) (.modify fun _ settled => ?_) fun _ => ?_
      · exact settled.again ⟨actions, invariant⟩ seen
      · exact .ite (fun _ => .pure fun _ h => h) fun unseen => absurd seen unseen
    · refine Program.Meets.bind (Q := fun _ world => world.log.Waits
        progress.replayedCandidateKeys ⟨actions, invariant⟩)
        (.modify fun _ settled => settled.note ⟨actions, invariant⟩) fun _ => ?_
      refine .ite (fun known => absurd known seen) fun _ => ?_
      exact (replay_settles rfl seen).bind fun _ => .pure fun _ h => h

end AttackWorker

/-! ## Runs that nobody cancels -/

/-- The candidates, of which one with every key has been replayed, are those of different
    strategies. -/
structure CandidateLog.Accounted [Python] (runId : String) (ids : StrategyType → String)
    (done : List StrategyType) (keys : List String) (log : CandidateLog) : Prop
    extends log.Settled keys where
  owners : ∃ seen, seen.Sublist done ∧
    List.Forall₂ (fun strategyType (candidate : Candidate) =>
      KeysOf runId (ids strategyType) candidate.actions) seen log.candidates

/-- The strategies have their identifiers, and their checkpoints their keys. -/
structure SearchRecords.Signed [Python] (runId : String) (visits : StrategyType → Visit)
    (ids : StrategyType → String) (records : SearchRecords) : Prop
    extends records.Named runId visits ids where
  own : ∀ strategyType, ∀ checkpoint ∈ records.checkpoints (ids strategyType),
    checkpoint.KeysOf runId (ids strategyType)

namespace AttackWorker

open WorkerWorld (At)

variable [Python] {α : Type} {runId : String} {worker : AttackWorker} {visit : Visit}
  {run : AttackRun} {visits : StrategyType → Visit} {progress : Progress} {keys : List String}
  {ids : StrategyType → String} {done : List StrategyType} {strategyType : StrategyType}
  {L : CandidateLog → Prop} {S : AttackStatus → Prop} {R : SearchRecords → Prop}

/-- What is known of a run at a point: its log, its status, and its records. -/
def Knows (L : CandidateLog → Prop) (runId : String) (S : AttackStatus → Prop)
    (R : SearchRecords → Prop) (world : WorkerWorld) : Prop :=
  L world.log ∧ At False runId S world ∧ R world.store.records

omit [Python] in
/-- A program that leaves the log and the records alone. -/
theorem knows_quiet {m : Program Stop WorkerWorld α} {U : α → WorkerWorld → Prop}
    {E : Stop → WorkerWorld → Prop} (log : m.Keeps WorkerWorld.log)
    (status : m.Meets (At False runId S) U E) (quiet : Quiet m) :
    m.Meets (Knows L runId S R)
      (fun a world => L world.log ∧ U a world ∧ R world.store.records)
      fun _ world => L world.log :=
  ((log.meets L).and (status.and (quiet R))).mono (fun _ h => h) (fun _ _ h => h)
    fun _ _ h => h.1

omit [Python] in
/-- A status is set that is not the one of a cancellation. -/
theorem knows_setStatus {expected target : AttackStatus} {outcome : Option AttackOutcome} :
    (setStatus runId expected target outcome).Meets (Knows L runId S R)
      (fun changed => Knows L runId (fun status => if changed then status = target
        else S status ∧ status ≠ expected) R) fun _ world => L world.log :=
  knows_quiet call_keeps (setStatus_at (F := fun _ => True) False.elim) quiet_setStatus

omit [Python] in
theorem ne_cancelRequested_of_changed {expected target status : AttackStatus} {changed : Bool}
    (other : target ≠ .cancelRequested)
    (kind : if changed then status = target
      else status ≠ .cancelRequested ∧ status ≠ expected) : status ≠ .cancelRequested := by
  cases changed with
  | true => exact (show status = target from kind) ▸ other
  | false => exact kind.1

omit [Python] in
/-- The run is there, and can be read. -/
theorem knows_getRun :
    (read runId (·.getRun runId)).Meets (Knows L runId S R)
      (fun run world => S run.status ∧ Knows L runId (· = run.status) R world)
      fun _ _ => False := by
  have found : (read runId (·.getRun runId)).Meets (At False runId S) (fun _ _ => True)
      fun _ _ => False := by
    rintro world ⟨⟨run, known, -⟩, told⟩
    have uncancelled : world.cancels.headD false = false := by
      cases h : world.cancels with
      | nil => rfl
      | cons first rest =>
        rw [h] at told
        cases first with
        | false => rfl
        | true => exact (told List.mem_cons_self).elim
    have entry : world.store.getRun runId = .ok run := by
      rw [InMemoryRuntimeStore.getRun, known]
      rfl
    refine ⟨fun _ _ _ => trivial, ?_⟩
    simp only [read, call, uncancelled, Bool.false_eq_true, if_false, entry, Checked.ok_bind]
    rintro _ _ ⟨⟩
  exact ((knows_quiet (L := L) (R := R) call_keeps (getRun_at (F := fun _ => True) False.elim)
      quiet_read).and found).mono (fun _ h => ⟨h, h.2.1⟩)
    (fun _ _ h => ⟨h.1.2.1.1, h.1.1, h.1.2.1.2, h.1.2.2⟩) fun _ _ h => h.2

omit [Python] in
/-- A run that is searching can be set to replaying. -/
theorem knows_replaying :
    (setStatus runId .searching .replaying none).Meets (Knows L runId S R)
      (fun changed => Knows L runId (fun status => if changed then status = .replaying
        else S status ∧ status ≠ .searching) R) fun _ _ => False := by
  have set : (setStatus runId .searching .replaying none).Meets (At False runId S)
      (fun _ _ => True) fun _ _ => False := by
    rintro world ⟨⟨run, known, -⟩, told⟩
    -- no cancellation is requested before the call
    have uncancelled : world.cancels.headD false = false := by
      cases h : world.cancels with
      | nil => rfl
      | cons first rest =>
        rw [h] at told
        cases first with
        | false => rfl
        | true => exact (told List.mem_cons_self).elim
    refine ⟨fun _ _ _ => trivial, ?_⟩
    have allowed : AttackStatus.replaying ∈ AttackStatus.searching.allowedTransitions := by decide
    have plain : AttackStatus.replaying.terminal = (none : Option AttackOutcome).isSome := rfl
    simp only [setStatus, call, uncancelled, Bool.false_eq_true, if_false,
      InMemoryRuntimeStore.compareAndSetStatus, Checked.ensure_of_pos allowed,
      Checked.ensure_of_pos plain, known, InMemoryRuntimeStore.entry, pure_bind]
    split_ifs
    · rintro _ _ ⟨⟩
    · rintro _ _ ⟨⟩
  exact (knows_setStatus.and set).mono (fun _ h => ⟨h, h.2.1⟩) (fun _ _ h => h.1) fun _ _ h => h.2

/-- A candidate with a new key is replayed, if nobody cancels the run. -/
theorem replay_accounts {actions : List SimAction} {invariant : InvariantId}
    (noted : ∀ log, L log → CandidateLog.Accounted runId ids done progress.replayedCandidateKeys
      { log with replays := log.replays ++ [⟨actions, invariant⟩] }) :
    (replay runId visit actions invariant progress).Meets
      (Knows L runId (· ≠ .cancelRequested) R)
      (fun progress' => Knows
        (CandidateLog.Accounted runId ids done progress'.replayedCandidateKeys) runId
        (· ≠ .cancelRequested) R)
      fun _ world => world.log.Accounted runId ids done progress.replayedCandidateKeys := by
  unfold replay
  refine (knows_getRun.mono (fun _ h => h) (fun _ _ h => h) fun _ _ h => h.elim).bind
    fun current => .of_pre (fun _ h => h.1) fun uncancelled =>
      .ite (fun cancelled => absurd cancelled uncancelled) fun _ => ?_
  -- the status is set to replaying if it is searching, and left alone else
  have begun (m : Program Stop WorkerWorld Progress)
      (h : m.Meets (Knows (CandidateLog.Accounted runId ids done progress.replayedCandidateKeys)
          runId (· ≠ .cancelRequested) R)
        (fun progress' => Knows
          (CandidateLog.Accounted runId ids done progress'.replayedCandidateKeys) runId
          (· ≠ .cancelRequested) R)
        fun _ world => world.log.Accounted runId ids done progress.replayedCandidateKeys) :
      (if current.status = .searching then do
          let _ ← setStatus runId .searching .replaying none
          Program.modify (WorkerWorld.noteReplay { actions, invariant })
          m
        else do
          Program.modify (WorkerWorld.noteReplay { actions, invariant })
          m : Program Stop WorkerWorld Progress).Meets
        (fun world => current.status ≠ .cancelRequested ∧
          Knows L runId (· = current.status) R world)
        (fun progress' => Knows
          (CandidateLog.Accounted runId ids done progress'.replayedCandidateKeys) runId
          (· ≠ .cancelRequested) R)
        fun _ world => world.log.Accounted runId ids done progress.replayedCandidateKeys := by
    -- from the note on, the candidate has its replay
    have replayed : (Program.modify (WorkerWorld.noteReplay { actions, invariant }) >>=
        fun _ => m).Meets (Knows L runId (· ≠ .cancelRequested) R)
        (fun progress' => Knows
          (CandidateLog.Accounted runId ids done progress'.replayedCandidateKeys) runId
          (· ≠ .cancelRequested) R)
        fun _ world => world.log.Accounted runId ids done progress.replayedCandidateKeys :=
      Program.Meets.bind (.modify fun _ h => ⟨noted _ h.1, ⟨h.2.1.runs, h.2.1.told⟩, h.2.2⟩)
        fun _ => h
    refine .ite (fun _ => ?_) fun _ => ?_
    · refine (knows_replaying.mono (fun _ h => h.2) (fun _ _ h => h) fun _ _ h => h.elim).bind
        fun changed => replayed.mono (fun _ h => ⟨h.1, h.2.1.mono fun status kind => ?_, h.2.2⟩)
          (fun _ _ h => h) fun _ _ h => h
      have other : if changed then status = .replaying
          else status ≠ .cancelRequested ∧ status ≠ .searching := by
        cases changed with
        | true => exact kind
        | false => exact ⟨kind.1 ▸ uncancelled, kind.2⟩
      exact ne_cancelRequested_of_changed (by decide) other
    · exact replayed.mono (fun _ h =>
        ⟨h.2.1, h.2.2.1.mono fun _ same => same ▸ uncancelled, h.2.2.2⟩) (fun _ _ h => h)
          fun _ _ h => h
  cases visit.replay with
  | none => exact begun _ (.raise fun _ h => h.1)
  | some replayed =>
    refine begun _ (.ite (fun _ => ?_) fun _ => ?_)
    · exact (knows_quiet (confirm_keeps _) (confirm_at (F := fun _ => True) False.elim _)
        (quiet_confirm _)).bind fun _ => knows_setStatus.bind fun _ => .raise fun _ h => h.1
    · refine knows_setStatus.bind fun changed =>
        .pure fun _ h => ⟨h.1, h.2.1.mono fun status kind => ?_, h.2.2⟩
      exact ne_cancelRequested_of_changed (by decide) kind

omit [Python] in
/-- A candidate is one more, of a strategy that has had none. -/
theorem noted_owners {log : CandidateLog} {actions : List SimAction} {invariant : InvariantId}
    (owners : ∃ seen, seen.Sublist done ∧
      List.Forall₂ (fun strategyType (candidate : Candidate) =>
        KeysOf runId (ids strategyType) candidate.actions) seen log.candidates)
    (own : KeysOf runId (ids strategyType) actions) :
    ∃ seen, seen.Sublist (done ++ [strategyType]) ∧
      List.Forall₂ (fun strategyType (candidate : Candidate) =>
        KeysOf runId (ids strategyType) candidate.actions) seen
        (log.candidates ++ [⟨actions, invariant⟩]) := by
  obtain ⟨seen, sub, forall₂⟩ := owners
  exact ⟨seen ++ [strategyType], sub.append (List.Sublist.refl _),
    List.rel_append forall₂ (.cons own .nil)⟩

/-- The candidate of a strategy has its keys. -/
theorem candidate_signed {strategy : StrategyRun}
    (own : strategy.strategyRunId = ids strategyType) :
    (worker.candidate runId visit strategy).Meets
      (fun world => world.store.records.Signed runId visits ids)
      (fun found world => world.store.records.Signed runId visits ids ∧
        ∀ candidate ∈ found, KeysOf runId (ids strategyType) candidate.1) fun _ _ => True := by
  intro world signed
  have owns : (worker.candidate runId visit strategy).Meets (fun after => Searched True runId visits
      ids strategy.strategyRunId world.store.checkpoints after.store.records) _ _ :=
    candidate_own
  obtain ⟨ok, error⟩ := owns world
    ⟨signed.toNamed, fun _ _ => rfl, fun _ => own ▸ signed.own strategyType⟩
  refine ⟨fun found world' eq => ?_, error⟩
  obtain ⟨searched, keys⟩ := ok found world' eq
  refine ⟨{ searched.named with own := fun other checkpoint mem => ?_ }, own ▸ keys trivial⟩
  by_cases same : ids other = strategy.strategyRunId
  · rw [same] at mem ⊢
    exact searched.own trivial checkpoint mem
  · rw [searched.others _ same] at mem
    exact signed.own other checkpoint mem

/-- A strategy that is looked up or made has its identifier. -/
theorem knows_ensureStrategy {budget : Budget} :
    (call runId (·.ensureStrategy (visits strategyType).uuid runId strategyType budget)).Meets
      (Knows L runId S (SearchRecords.Signed runId visits ids))
      (fun strategy world => strategy.strategyRunId = ids strategyType ∧
        Knows L runId S (SearchRecords.Signed runId visits ids) world)
      fun _ world => L world.log :=
  ((call_keeps.meets L).and ((ensureStrategy_at (F := fun _ => True) False.elim).and
    (ensureStrategy_named (P := fun checkpoints =>
      ∀ strategyType, ∀ checkpoint ∈ checkpoints (ids strategyType),
        checkpoint.KeysOf runId (ids strategyType))))).mono
    (fun _ h => ⟨h.1, h.2.1, h.2.2.toNamed, h.2.2.own⟩)
    (fun _ _ h => ⟨h.2.2.1, h.1, h.2.1, { h.2.2.2.1 with own := h.2.2.2.2 }⟩) fun _ _ h => h.1

/-- The turn of a strategy in a run that nobody cancels: its candidate is replayed, unless it has
    the key of one that has been. -/
theorem visit_accounts
    (uncancelled : ∀ turn ∈ (visits strategyType).turns, ¬ turn.cancels) :
    (worker.visit runId run strategyType (visits strategyType) progress).Meets
      (Knows (CandidateLog.Accounted runId ids done progress.replayedCandidateKeys) runId
        (· ≠ .cancelRequested) (SearchRecords.Signed runId visits ids))
      (fun progress' => Knows (CandidateLog.Accounted runId ids (done ++ [strategyType])
          (progress'.getD progress).replayedCandidateKeys) runId
        (· ≠ .cancelRequested) (SearchRecords.Signed runId visits ids))
      fun _ world => ∃ keys, world.log.Accounted runId ids (done ++ [strategyType]) keys := by
  -- a strategy without a candidate changes nothing of the account
  have more {keys : List String} {log : CandidateLog} (h : log.Accounted runId ids done keys) :
      log.Accounted runId ids (done ++ [strategyType]) keys := by
    obtain ⟨seen, sub, forall₂⟩ := h.owners
    exact { h with owners := ⟨seen, sub.trans (List.sublist_append_left ..), forall₂⟩ }
  have raised (world : WorkerWorld)
      (h : world.log.Accounted runId ids done progress.replayedCandidateKeys) :
      ∃ keys, world.log.Accounted runId ids (done ++ [strategyType]) keys := ⟨_, more h⟩
  have shares (given : Option Budget) : (share given).Meets
      (Knows (CandidateLog.Accounted runId ids done progress.replayedCandidateKeys) runId
        (· ≠ .cancelRequested) (SearchRecords.Signed runId visits ids))
      (fun _ => Knows (CandidateLog.Accounted runId ids done progress.replayedCandidateKeys) runId
        (· ≠ .cancelRequested) (SearchRecords.Signed runId visits ids))
      fun _ world => ∃ keys, world.log.Accounted runId ids (done ++ [strategyType]) keys :=
    share_meets fun world h => raised world h.1
  unfold AttackWorker.visit
  refine .ite (fun _ => .pure fun _ h => ⟨more h.1, h.2⟩) fun _ => ?_
  refine ((knows_quiet call_keeps (isCancelRequested_at (F := fun _ => True) False.elim)
    quiet_read).mono (fun _ h => h) (fun _ _ h => h) fun _ => raised).bind fun requested =>
      .ite (fun cancelled => ?_) fun _ => ?_
  -- nobody cancels the run
  · refine .of_pre (φ := False) (fun world h => ?_) False.elim
    obtain ⟨found, -, other, requests⟩ := h.2.1.runs
    exact other (requests.1 cancelled)
  refine ((shares _).mono (fun _ h => ⟨h.1, h.2.1.mono fun _ => And.left, h.2.2⟩)
    (fun _ _ h => h) fun _ _ h => h).bind fun budget => ?_
  refine (knows_ensureStrategy.mono (fun _ h => h) (fun _ _ h => h) fun _ => raised).bind
    fun strategy => .of_pre (fun _ h => h.1) fun own => ?_
  -- the candidate has keys of this strategy, and none of an earlier one
  have candidates : (worker.candidate runId (visits strategyType) strategy).Meets
      (Knows (CandidateLog.Accounted runId ids done progress.replayedCandidateKeys) runId
        (· ≠ .cancelRequested) (SearchRecords.Signed runId visits ids))
      (fun found world => (∀ candidate ∈ found, KeysOf runId (ids strategyType) candidate.1) ∧
        Knows (CandidateLog.Accounted runId ids done progress.replayedCandidateKeys) runId
          (· ≠ .cancelRequested) (SearchRecords.Signed runId visits ids) world)
      fun _ world => ∃ keys, world.log.Accounted runId ids (done ++ [strategyType]) keys :=
    ((candidate_keeps.meets
        (CandidateLog.Accounted runId ids done progress.replayedCandidateKeys)).and
      ((candidate_at (C := False) (F := fun _ => True) (fun turn mem cancels =>
        absurd cancels (uncancelled turn mem)) False.elim).and
        (candidate_signed own))).mono (fun _ h => h)
      (fun _ _ h => ⟨h.2.2.2, h.1, h.2.1, h.2.2.1⟩) fun _ _ h => raised _ h.1
  refine (candidates.mono (fun _ h => h.2) (fun _ _ h => h) fun _ _ h => h).bind
    fun candidate => .of_pre (fun _ h => h.1) fun keyed => ?_
  refine ((shares _).mono (fun _ h => h.2) (fun _ _ h => h) fun _ _ h => h).bind fun budget => ?_
  refine (knows_ensureStrategy.mono (fun _ h => h) (fun _ _ h => h) fun _ => raised).bind
    fun strategy => ?_
  cases candidate with
  | none => exact .pure fun _ h => ⟨more h.2.1, h.2.2⟩
  | some candidate =>
    obtain ⟨actions, invariant⟩ := candidate
    have own := keyed _ rfl
    -- a candidate with a key that has been replayed counts as replayed
    by_cases seen : candidateKey actions invariant ∈ progress.replayedCandidateKeys
    · refine Program.Meets.bind (Q := fun _ => Knows (CandidateLog.Accounted runId ids
        (done ++ [strategyType]) progress.replayedCandidateKeys) runId (· ≠ .cancelRequested)
        (SearchRecords.Signed runId visits ids)) (.modify fun world h => ?_) fun _ => ?_
      · exact ⟨{ h.2.1.toSettled.again ⟨actions, invariant⟩ seen with
          owners := noted_owners h.2.1.owners own }, ⟨h.2.2.1.runs, h.2.2.1.told⟩, h.2.2.2⟩
      · exact .ite (fun _ => .pure fun _ h => h) fun unseen => absurd seen unseen
    · refine Program.Meets.bind (Q := fun _ => Knows (fun log =>
          log.Waits progress.replayedCandidateKeys ⟨actions, invariant⟩ ∧
          ∃ seen, seen.Sublist (done ++ [strategyType]) ∧
            List.Forall₂ (fun strategyType (candidate : Candidate) =>
              KeysOf runId (ids strategyType) candidate.actions) seen log.candidates) runId
          (· ≠ .cancelRequested) (SearchRecords.Signed runId visits ids))
        (.modify fun world h => ?_) fun _ => ?_
      · exact ⟨⟨h.2.1.toSettled.note ⟨actions, invariant⟩, noted_owners h.2.1.owners own⟩,
          ⟨h.2.2.1.runs, h.2.2.1.told⟩, h.2.2.2⟩
      refine .ite (fun known => absurd known seen) fun _ => ?_
      have noted (log : CandidateLog)
          (h : log.Waits progress.replayedCandidateKeys ⟨actions, invariant⟩ ∧
            ∃ seen, seen.Sublist (done ++ [strategyType]) ∧
              List.Forall₂ (fun strategyType (candidate : Candidate) =>
                KeysOf runId (ids strategyType) candidate.actions) seen log.candidates) :
          CandidateLog.Accounted runId ids (done ++ [strategyType])
            (progress.replayedCandidateKeys ++ [candidateKey actions invariant])
            { log with replays := log.replays ++ [⟨actions, invariant⟩] } :=
        { h.1.replay seen with owners := h.2 }
      exact ((replay_accounts noted).mono (fun _ h => h) (fun _ _ h => h)
        fun _ _ h => ⟨_, h⟩).bind fun progress' => .pure fun _ h => h

theorem strategies_account
    (uncancelled : ∀ strategyType, ∀ turn ∈ (visits strategyType).turns, ¬ turn.cancels)
    {todo all : List StrategyType} (parts : done ++ todo = all) :
    (worker.strategies runId run visits todo progress).Meets
      (Knows (CandidateLog.Accounted runId ids done progress.replayedCandidateKeys) runId
        (· ≠ .cancelRequested) (SearchRecords.Signed runId visits ids))
      (fun _ world => ∃ keys, world.log.Accounted runId ids all keys)
      fun _ world => ∃ keys, world.log.Accounted runId ids all keys := by
  -- an account for some strategies is one for all
  have more {done' : List StrategyType} {keys : List String} {log : CandidateLog}
      (sub : done'.Sublist all)
      (h : log.Accounted runId ids done' keys) : log.Accounted runId ids all keys := by
    obtain ⟨seen, sub', forall₂⟩ := h.owners
    exact { h with owners := ⟨seen, sub'.trans sub, forall₂⟩ }
  induction todo generalizing progress done with
  | nil =>
    rw [List.append_nil] at parts
    exact .pure fun _ h => ⟨_, parts ▸ h.1⟩
  | cons strategyType rest ih =>
    rw [strategies]
    have sub : (done ++ [strategyType]).Sublist all := by
      rw [← parts]
      exact List.Sublist.append (List.Sublist.refl _)
        (List.Sublist.cons_cons _ (List.nil_sublist _))
    refine ((visit_accounts (uncancelled strategyType)).mono (fun _ h => h)
      (fun _ _ h => h) fun _ _ h => h.imp fun _ => more sub).bind fun result => ?_
    cases result with
    | none => exact .pure fun _ h => ⟨_, more sub h.1⟩
    | some progress => exact ih (by rw [List.append_assoc]; exact parts)

/-- A run that has been entered is not to be cancelled, if nobody cancels it. -/
theorem enter_knows :
    (worker.enter runId run visits).Meets
      (Knows L runId (· = run.status) (SearchRecords.Signed runId visits ids))
      (fun _ => Knows L runId (· ≠ .cancelRequested) (SearchRecords.Signed runId visits ids))
      fun _ world => L world.log := by
  -- a change of the status does not cancel the run
  have set {expected target : AttackStatus} (before : AttackStatus)
      (other : target ≠ .cancelRequested) (kept : before ≠ .cancelRequested) :
      (setStatus runId expected target none).Meets
        (Knows L runId (· = before) (SearchRecords.Signed runId visits ids))
        (fun _ => Knows L runId (· ≠ .cancelRequested) (SearchRecords.Signed runId visits ids))
        fun _ world => L world.log := by
    refine knows_setStatus.mono (fun _ h => h) (fun changed _ h =>
      ⟨h.1, h.2.1.mono fun status kind => ?_, h.2.2⟩) fun _ _ h => h
    have uncancelled : if changed then status = target
        else status ≠ .cancelRequested ∧ status ≠ expected := by
      cases changed with
      | true => exact kind
      | false => exact ⟨kind.1 ▸ kept, kind.2⟩
    exact ne_cancelRequested_of_changed other uncancelled
  -- nor does the search for a strategy that has a candidate
  have target : (worker.recoveryTarget runId run visits StrategyType.all).Meets
      (Knows L runId (· = .recovering) (SearchRecords.Signed runId visits ids))
      (fun target world => (target = .searching ∨ target = .replaying) ∧
        Knows L runId (· = .recovering) (SearchRecords.Signed runId visits ids) world)
      fun _ world => L world.log :=
    ((recoveryTarget_keeps.meets L).and (recoveryTarget_at (F := fun _ => True)
      (P := fun checkpoints => ∀ strategyType, ∀ checkpoint ∈ checkpoints (ids strategyType),
        checkpoint.KeysOf runId (ids strategyType)))).mono
      (fun _ h => ⟨h.1, h.2.1, h.2.2.toNamed, h.2.2.own⟩)
      (fun _ _ h => ⟨h.2.1.imp_right And.left, h.1, h.2.2.1,
        { h.2.2.2.1 with own := h.2.2.2.2 }⟩) fun _ _ h => h.1
  unfold enter
  split
  · exact Program.Meets.bind ((call_keeps.meets L).mono (fun _ h => h.1) (fun _ _ h => h)
      fun _ _ h => h) fun _ => .raise fun _ h => h
  · next ready =>
    rw [ready]
    refine (share_meets fun _ h => h.1).bind fun _ => (set .ready (by decide) (by decide)).bind
      fun changed => .ite (fun _ => .pure fun _ h => h) fun _ => .raise fun _ h => h.1
  · next failed =>
    rw [failed]
    refine knows_setStatus.bind fun changed => .ite (fun entered => ?_) fun _ =>
      .raise fun _ h => h.1
    subst entered
    refine (target.mono (fun _ h => ⟨h.1, h.2.1.mono fun _ same => same, h.2.2⟩)
      (fun _ _ h => h) fun _ _ h => h).bind fun aim => .of_pre (fun _ h => h.1) fun kind => ?_
    have other : aim ≠ .cancelRequested := by
      rcases kind with rfl | rfl
      · decide
      · decide
    exact ((set .recovering other (by decide)).mono (fun _ h => h.2) (fun _ _ h => h)
      fun _ _ h => h).bind fun changed => .ite (fun _ => .pure fun _ h => h)
        fun _ => .raise fun _ h => h.1
  · next searching =>
    exact .pure fun _ h => ⟨h.1, h.2.1.mono fun _ same => same ▸ searching ▸ by decide, h.2.2⟩
  · next replaying =>
    exact .pure fun _ h => ⟨h.1, h.2.1.mono fun _ same => same ▸ replaying ▸ by decide, h.2.2⟩
  · exact .raise fun _ h => h.1

/-- However a run ends that nobody cancels, there is a replay for the key of every candidate, and
    the candidates are those of different strategies. -/
theorem run_accounts
    (uncancelled : ∀ strategyType, ∀ turn ∈ (visits strategyType).turns, ¬ turn.cancels) :
    (worker.run runId visits).Meets
      (Knows (· = ⟨[], []⟩) runId (fun _ => True) (SearchRecords.Signed runId visits ids))
      (fun _ world => ∃ keys, world.log.Accounted runId ids StrategyType.all keys)
      fun _ world => ∃ keys, world.log.Accounted runId ids StrategyType.all keys := by
  -- a run that has not begun has no candidates
  have empty (log : CandidateLog) (h : log = ⟨[], []⟩) (all : List StrategyType) :
      log.Accounted runId ids all [] := by
    subst h
    exact { CandidateLog.settled_empty with owners := ⟨[], List.nil_sublist _, .nil⟩ }
  -- the strategies have their turns, and what follows replays nothing
  have body (run : AttackRun) : (Program.rescue (worker.body runId run visits)
      (fail runId)).Meets
      (Knows (· = ⟨[], []⟩) runId (· ≠ .cancelRequested) (SearchRecords.Signed runId visits ids))
      (fun _ world => ∃ keys, world.log.Accounted runId ids StrategyType.all keys)
      fun _ world => ∃ keys, world.log.Accounted runId ids StrategyType.all keys := by
    refine Program.Meets.rescue ?_ fun stop => (fail_keeps stop).meets
      fun log => ∃ keys, log.Accounted runId ids StrategyType.all keys
    unfold AttackWorker.body
    have kept {m : Program Stop WorkerWorld Unit} (h : m.Keeps WorkerWorld.log) := h.meets
      fun log => ∃ keys, log.Accounted runId ids StrategyType.all keys
    have strategies := @strategies_account _ runId worker run visits
      { strategiesLeft := worker.searchingStrategies.length } ids [] uncancelled
      StrategyType.all StrategyType.all rfl
    refine (strategies.mono (fun _ h => ⟨empty _ h.1 [], h.2⟩) (fun _ _ h => h)
      fun _ _ h => h).bind fun progress => ?_
    exact kept (call_keeps.bind fun current => .ite (call_keeps.bind fun _ => .pure ()) (.pure ()))
  unfold AttackWorker.run
  refine (knows_getRun.mono (fun _ h => h) (fun _ _ h => h) fun _ _ h => h.elim).bind
    fun run => .of_pre (fun _ h => h.1) fun _ => ?_
  refine (enter_knows.mono (fun _ h => h.2) (fun _ _ h => h)
    fun _ _ h => ⟨_, empty _ h _⟩).bind fun _ => .ite (fun _ => ?_) fun _ => body run
  refine ((knows_quiet call_keeps (read_same (F := fun _ => True) False.elim) quiet_read).mono
    (fun _ h => h) (fun _ _ h => h) fun _ _ h => ⟨_, empty _ h _⟩).bind fun counterexamples =>
      .ite (fun _ => ?_) fun _ => body run
  exact ((call_keeps.meets (· = ⟨[], []⟩)).mono (fun _ h => h.1) (fun _ _ h => h)
    fun _ _ h => ⟨_, empty _ h _⟩).bind fun _ => .raise fun _ h => ⟨_, empty _ h _⟩

/-! ## Keys that do not matter -/

omit [Python] in
theorem cancel_ne_ok {world world' : WorkerWorld} {a : α} :
    (cancel runId : Program Stop WorkerWorld α) world ≠ (.ok a, world') := by
  intro h
  obtain ⟨_, _, -, h⟩ := Program.of_bind_ok h
  cases h

omit [Python] in
theorem keeps_candidates {m : Program Stop WorkerWorld α} (h : m.Keeps WorkerWorld.log) :
    m.Keeps WorkerWorld.candidates :=
  fun world => congrArg CandidateLog.candidates (h world)

theorem replay_candidates {actions : List SimAction} {invariant : InvariantId} :
    (replay runId visit actions invariant progress).Keeps WorkerWorld.candidates := by
  have calls {α : Type}
      {op : InMemoryRuntimeStore → Except StoreError (InMemoryRuntimeStore × α)} :
      (call runId op).Keeps WorkerWorld.candidates := keeps_candidates call_keeps
  unfold replay
  refine calls.bind fun current => .ite (keeps_candidates cancel_keeps) ?_
  -- a replay is noted among the replays, not among the candidates
  have noted (m : Program Stop WorkerWorld Progress) (h : m.Keeps WorkerWorld.candidates) :
      (if current.status = .searching then do
          let _ ← setStatus runId .searching .replaying none
          Program.modify (WorkerWorld.noteReplay { actions, invariant })
          m
        else do
          Program.modify (WorkerWorld.noteReplay { actions, invariant })
          m : Program Stop WorkerWorld Progress).Keeps WorkerWorld.candidates := by
    have modified : (Program.modify (WorkerWorld.noteReplay { actions, invariant }) >>=
        fun _ => m).Keeps WorkerWorld.candidates :=
      Program.Keeps.bind (fun _ => rfl) fun _ => h
    exact .ite (calls.bind fun _ => modified) modified
  cases visit.replay with
  | none => exact noted _ (.raise _)
  | some replayed =>
    refine noted _ (.ite ?_ ?_)
    · exact (keeps_candidates (confirm_keeps _)).bind fun _ => calls.bind fun _ => .raise _
    · exact calls.bind fun _ => .pure _

/-- What follows a replay does not depend on the keys that are known. -/
theorem judged_again (progress : Progress) {actions : List SimAction} {replayed : ReplayResult}
    {done : Progress} {world world' : WorkerWorld}
    (h : (if replayed.violated ≠ [] then do
        confirm runId visit actions replayed replayed.violated
        let _ ← setStatus runId .replaying .completed (some .confirmedViolation)
        Program.raise .returned
      else do
        let _ ← setStatus runId .replaying .searching none
        return { progress with sawUnconfirmed := true } : Program Stop WorkerWorld Progress) world =
      (.ok done, world')) :
    (if replayed.violated ≠ [] then do
        confirm runId visit actions replayed replayed.violated
        let _ ← setStatus runId .replaying .completed (some .confirmedViolation)
        Program.raise .returned
      else do
        let _ ← setStatus runId .replaying .searching none
        return { progress with
          replayedCandidateKeys := keys
          sawUnconfirmed := true } : Program Stop WorkerWorld Progress) world =
      (.ok { done with replayedCandidateKeys := keys }, world') := by
  split_ifs at h ⊢
  -- a confirmed candidate ends the run
  · obtain ⟨_, w₁, -, h⟩ := Program.of_bind_ok h
    obtain ⟨_, w₂, -, h⟩ := Program.of_bind_ok h
    cases h
  · obtain ⟨changed, w₁, hs, h⟩ := Program.of_bind_ok h
    rw [Program.bind_ok hs]
    cases h
    rfl

/-- A replay does not depend on the keys that are known. -/
theorem replay_again (progress : Progress) (keys : List String) {actions : List SimAction}
    {invariant : InvariantId} {done : Progress}
    {world world' : WorkerWorld}
    (h : replay runId visit actions invariant progress world = (.ok done, world')) :
    replay runId visit actions invariant { progress with replayedCandidateKeys := keys } world =
      (.ok { done with replayedCandidateKeys := keys }, world') := by
  unfold replay at h ⊢
  generalize visit.replay = result at h ⊢
  obtain ⟨current, w₁, hr, h⟩ := Program.of_bind_ok h
  rw [Program.bind_ok hr]
  split_ifs at h ⊢
  · exact absurd h cancel_ne_ok
  · obtain ⟨changed, w₂, hs, h⟩ := Program.of_bind_ok h
    rw [Program.bind_ok hs]
    obtain ⟨_, w₃, hm, h⟩ := Program.of_bind_ok h
    refine (Program.bind_ok hm).trans ?_
    cases result with
    | none => cases h
    | some replayed => exact judged_again progress h
  · obtain ⟨_, w₃, hm, h⟩ := Program.of_bind_ok h
    refine (Program.bind_ok hm).trans ?_
    cases result with
    | none => cases h
    | some replayed => exact judged_again progress h

/-- The turn of a strategy goes the same way with other known keys, if its candidate is new. -/
theorem visit_again (keys : List String) {strategyType : StrategyType} {done : Progress}
    {world world' : WorkerWorld}
    (h : worker.visit runId run strategyType visit { progress with replayedCandidateKeys := [] }
      world = (.ok (some done), world'))
    (new : ∀ candidate, world'.candidates = world.candidates ++ [candidate] →
      candidate.key ∉ keys) :
    worker.visit runId run strategyType visit { progress with replayedCandidateKeys := keys }
      world = (.ok (some { done with
        replayedCandidateKeys := keys ++ done.replayedCandidateKeys }), world') := by
  unfold AttackWorker.visit at h ⊢
  -- both turns go through the same calls, up to the candidate
  by_cases late : run.budget.maxTimeSeconds ≤ visit.totalElapsed
  · rw [if_pos late] at h
    cases h
  rw [if_neg late] at h ⊢
  obtain ⟨requested, w₁, h₁, h⟩ := Program.of_bind_ok h
  refine (Program.bind_ok h₁).trans ?_
  by_cases wanted : requested = true
  · rw [if_pos wanted] at h
    exact absurd h cancel_ne_ok
  rw [if_neg wanted] at h ⊢
  obtain ⟨budget, w₂, h₂, h⟩ := Program.of_bind_ok h
  refine (Program.bind_ok h₂).trans ?_
  obtain ⟨strategy, w₃, h₃, h⟩ := Program.of_bind_ok h
  refine (Program.bind_ok h₃).trans ?_
  obtain ⟨candidate, w₄, h₄, h⟩ := Program.of_bind_ok h
  refine (Program.bind_ok h₄).trans ?_
  obtain ⟨budget', w₅, h₅, h⟩ := Program.of_bind_ok h
  refine (Program.bind_ok h₅).trans ?_
  obtain ⟨strategy', w₆, h₆, h⟩ := Program.of_bind_ok h
  refine (Program.bind_ok h₆).trans ?_
  cases candidate with
  | none =>
    cases h
    simp only [List.append_nil]
    rfl
  | some candidate =>
    obtain ⟨actions, invariant⟩ := candidate
    obtain ⟨_, w₇, h₇, h⟩ := Program.of_bind_ok h
    refine (Program.bind_ok h₇).trans ?_
    dsimp only at h ⊢
    rw [if_neg List.not_mem_nil] at h
    obtain ⟨replayed, w₈, h₈, h⟩ := Program.of_bind_ok h
    cases h
    -- the candidate is the one that is noted in this turn, so its key is new
    have noted : w₇ = w₆.noteCandidate ⟨actions, invariant⟩ := (congrArg Prod.snd h₇).symm
    have same : w₆.candidates = world.candidates := by
      rw [(keeps_candidates call_keeps).of_eq h₆, (keeps_candidates share_keeps).of_eq h₅,
        (keeps_candidates candidate_keeps).of_eq h₄, (keeps_candidates call_keeps).of_eq h₃,
        (keeps_candidates share_keeps).of_eq h₂, (keeps_candidates call_keeps).of_eq h₁]
    have unknown : candidateKey actions invariant ∉ keys := by
      refine new ⟨actions, invariant⟩ ?_
      rw [replay_candidates.of_eq h₈, noted, ← same]
      rfl
    rw [if_neg unknown]
    -- the replay is the same with the keys of the turns before
    have again := replay_again _ (keys ++ [candidateKey actions invariant]) h₈
    have own := replay_again _ [candidateKey actions invariant] h₈
    have kept : done.replayedCandidateKeys = [candidateKey actions invariant] := by
      have same := h₈.symm.trans own
      have same := Except.ok.inj (Prod.mk.inj same).1
      exact congrArg Progress.replayedCandidateKeys same
    rw [kept]
    exact Program.bind_ok again

end AttackWorker

/-- Every item of the second list is related to one of the first. -/
theorem exists_of_forall₂ {α β : Type} {r : α → β → Prop} {l : List α} {l' : List β}
    (h : List.Forall₂ r l l') {b : β} (mem : b ∈ l') : ∃ a ∈ l, r a b := by
  induction h with
  | nil => cases mem
  | cons first _ ih =>
    rcases List.mem_cons.1 mem with rfl | mem
    · exact ⟨_, List.mem_cons_self, first⟩
    · obtain ⟨a, mem, related⟩ := ih mem
      exact ⟨a, List.mem_cons_of_mem _ mem, related⟩

/-- Candidates of two strategies differ, since their actions have other keys. -/
theorem CandidateLog.Accounted.unlike [Python] {runId : String} {ids : StrategyType → String}
    {all : List StrategyType} {keys : List String} {log : CandidateLog}
    (accounted : log.Accounted runId ids all keys) (distinct : Function.Injective ids)
    (nodup : all.Nodup) : log.candidates.Pairwise (· ≠ ·) := by
  obtain ⟨seen, sub, owners⟩ := accounted.owners
  have nodup := nodup.sublist sub
  clear accounted sub
  generalize log.candidates = candidates at owners
  induction owners with
  | nil => exact .nil
  | @cons strategyType candidate rest others own owners ih =>
    rw [List.nodup_cons] at nodup
    refine .cons (fun other mem same => ?_) (ih nodup.2)
    subst same
    obtain ⟨strategyType', mem', own'⟩ := exists_of_forall₂ owners mem
    -- the first action has a key of either strategy
    obtain ⟨action, rest', begun⟩ := List.exists_cons_of_ne_nil own.1
    have first : action ∈ candidate.actions := begun ▸ List.mem_cons_self
    exact nodup.1 (distinct ((own.2 action first).eq (own'.2 action first) rfl) ▸ mem')

/-- In a run that nobody cancels a path is replayed once for every strategy that ends with it: if
    two candidates have one path, it is not replayed only once. The strategies have identifiers of
    their own, their checkpoints were written by their searches, and no two candidates have one
    digest. -/
theorem AttackWorker.run_replays_again [Python] (worker : AttackWorker) (runId : String)
    (visits : StrategyType → Visit) (world : WorkerWorld) (fresh : world.log = ⟨[], []⟩)
    (known : (world.store.runs runId).isSome) {ids : StrategyType → String}
    (distinct : Function.Injective ids) (signed : world.store.records.Signed runId visits ids)
    (uncancelled : true ∉ world.cancels ∧
      ∀ strategyType, ∀ turn ∈ (visits strategyType).turns, ¬ turn.cancels) :
    let ended := (worker.run runId visits world).2
    (∀ candidate ∈ ended.candidates, ∀ other ∈ ended.candidates,
      candidate.key = other.key → candidate = other) →
    ¬ ended.candidates.Pairwise (fun candidate other => ¬ candidate.SamePath other) →
    ¬ ended.replays.Pairwise fun candidate other => ¬ candidate.SamePath other := by
  intro ended digests meeting once
  obtain ⟨run, known⟩ := Option.isSome_iff_exists.1 known
  obtain ⟨keys, accounted⟩ : ∃ keys, ended.log.Accounted runId ids StrategyType.all keys := by
    have accounts := @run_accounts _ runId worker visits ids uncancelled.2
    obtain ⟨ok, error⟩ := accounts world
      ⟨fresh, ⟨⟨run, known, trivial⟩, uncancelled.1⟩, signed⟩
    rcases h : (worker.run runId visits world).1 with stop | done
    · exact error stop ended (Prod.ext h rfl)
    · exact ok done ended (Prod.ext h rfl)
  -- without collisions each candidate has a replay of its own
  have replayed (candidate : Candidate) (mem : candidate ∈ ended.candidates) :
      candidate ∈ ended.replays := by
    have known := accounted.covered candidate mem
    rw [← accounted.keys_eq] at known
    obtain ⟨replayed, mem', same⟩ := List.mem_map.1 known
    exact digests replayed (accounted.known _ mem') candidate mem same ▸ mem'
  have symm : Std.Symm fun candidate other : Candidate => ¬ candidate.SamePath other :=
    ⟨fun _ _ unlike path => unlike path.symm⟩
  -- so two candidates on one path are both replayed
  refine meeting ((accounted.unlike distinct (by decide)).imp_of_mem
    fun {candidate other} mem mem' unlike => ?_)
  exact once.forall (replayed candidate mem) (replayed other mem') unlike

/-! ## Two strategies on one path -/

theorem meetingPrice_pos : 0 < (MoneyAmount.ofCents 1000).decimal.value := by
  norm_num [MoneyAmount.ofCents, PyDecimal.value]

/-- A membership of 10.00 with one entitlement. -/
def meetingRule : MembershipRule where
  price := ⟨.cny, .ofCents 1000⟩
  entitlementQuantity := 1
  refundPolicy := .prorated
  price_pos := meetingPrice_pos
  quantity_pos := Nat.le_refl 1

theorem meetingRule_allowed : ∀ rule ∈ [PolicyRule.membership meetingRule],
    rule.toRule.ruleType ∈ ScenarioType.membershipEntitlement.ruleTypes := by
  intro rule mem
  obtain rfl := List.mem_singleton.1 mem
  decide

theorem meetingRule_primary : ∃ rule ∈ [PolicyRule.membership meetingRule],
    ScenarioType.membershipEntitlement.ruleTypes.head? = some rule.toRule.ruleType :=
  ⟨_, List.mem_singleton_self _, rfl⟩

theorem meetingSearches_ne : [StrategyType.valueFlow, .lifecycle] ≠ [] := List.cons_ne_nil _ _

/-- Two strategies search under a rule for memberships. -/
def meetingWorker : AttackWorker where
  spec := {
    scenarioType := .membershipEntitlement
    rules := [.membership meetingRule]
    allowed := meetingRule_allowed
    primary := meetingRule_primary
    unique := List.nodup_singleton _ }
  searchingStrategies := [.valueFlow, .lifecycle]
  agents _ := Search.newAdapter
  some_searches := meetingSearches_ne

/-- Two strategies create the user and accuse an invariant, which no replay confirms. -/
def meetingVisits (strategyType : StrategyType) : Visit where
  uuid := strategyType.value
  turns :=
    if strategyType = .boundary then [Search.answering (some (.stop {}))]
    else [Search.creating,
      Search.answering (some (.stop { candidateInvariant := some .entitlementNonNegative }))]
  replay := some {
    classification := .insufficientEvidence
    targetInvariant := .entitlementNonNegative
    runId := "replay"
    actions := []
    findings := []
    snapshots := []
    receipts := []
    events := [] }

/-- What each of the two strategies ends with. -/
def meetingCandidate (strategyType : StrategyType) : Candidate where
  actions := [{
    actionType := .createUser
    arguments := [("initial_balance", .str "500.00")]
    idempotencyKey := some ("run:" ++ strategyType.value ++ ":step:1") }]
  invariant := .entitlementNonNegative

theorem Python.transparent_injective : Function.Injective Python.transparent.sha256 :=
  fun _ _ same => (String.append_right_inj _).1 same

theorem meetingCandidate_key : let _ := Python.transparent
    (meetingCandidate .lifecycle).key ≠ (meetingCandidate .valueFlow).key := by
  intro _ same
  have path : (meetingCandidate .lifecycle).SamePath (meetingCandidate .valueFlow) := by decide
  exact absurd (path.sameKeys Python.transparent_injective same) (by decide)

/-- The turns are taken without the keys of the turns before. -/
theorem meeting_log :
    let _ := Python.transparent
    (meetingWorker.run "run" meetingVisits readyWorld).2.log = {
        candidates := [meetingCandidate .valueFlow, meetingCandidate .lifecycle]
        replays := [meetingCandidate .valueFlow, meetingCandidate .lifecycle] } := by
  intro _
  have facts : ((AttackWorker.read "run" (·.getRun "run")).result? readyWorld).any fun found =>
      found.1.status ≠ .replaying &&
      ((meetingWorker.enter "run" found.1 meetingVisits).result? found.2).any fun entered =>
      entered.2.candidates = [] && entered.2.replays = [] &&
      ((meetingWorker.visit "run" found.1 .valueFlow (meetingVisits .valueFlow)
        { strategiesLeft := 2 }).result? entered.2).any fun first => first.1.any fun progress₁ =>
      first.2.candidates = [meetingCandidate .valueFlow] &&
      first.2.replays = [meetingCandidate .valueFlow] &&
      ((meetingWorker.visit "run" found.1 .lifecycle (meetingVisits .lifecycle)
        { progress₁ with replayedCandidateKeys := [] }).result? first.2).any fun second =>
      second.1.any fun progress₂ =>
      second.2.candidates = [meetingCandidate .valueFlow, meetingCandidate .lifecycle] &&
      ((meetingWorker.visit "run" found.1 .boundary (meetingVisits .boundary)
        { progress₂ with replayedCandidateKeys := [] }).result? second.2).any fun third =>
      third.1.any fun _ =>
      third.2.candidates = [meetingCandidate .valueFlow, meetingCandidate .lifecycle] &&
      third.2.replays = [meetingCandidate .valueFlow, meetingCandidate .lifecycle] := by
    decide +kernel
  simp only [Option.any_eq_true, Bool.and_eq_true, decide_eq_true_eq] at facts
  obtain ⟨⟨run, w₁⟩, h₁, unreplaying, ⟨⟨⟩, w₂⟩, h₂, ⟨⟨none₁, none₂⟩, ⟨_, w₃⟩, h₃, progress₁, rfl,
    ⟨candidates₁, replays₁⟩, ⟨_, w₄⟩, h₄, progress₂, rfl, candidates₂, ⟨_, w₅⟩, h₅, progress₃, rfl,
    candidates₃, replays₃⟩⟩ := facts
  rw [Program.result?_eq_some] at h₁ h₂ h₃ h₄ h₅
  have start : w₂.log.Settled [] := by
    rw [WorkerWorld.log, none₁, none₂]
    exact CandidateLog.settled_empty
  -- the key of the first candidate is known after its turn, and another than the second
  have keys₁ : progress₁.replayedCandidateKeys = [(meetingCandidate .valueFlow).key] := by
    have settled := (AttackWorker.visit_settles w₂ start).1 _ _ h₃
    have keys_eq := settled.keys_eq
    rw [WorkerWorld.log, replays₁] at keys_eq
    exact keys_eq.symm
  have second := AttackWorker.visit_again progress₁.replayedCandidateKeys h₄
    fun candidate noted => by
    rw [candidates₁, candidates₂] at noted
    obtain rfl : meetingCandidate .lifecycle = candidate := by simpa using noted
    rw [keys₁, List.mem_singleton]
    exact meetingCandidate_key
  have third := AttackWorker.visit_again
    (progress₁.replayedCandidateKeys ++ progress₂.replayedCandidateKeys) h₅
    fun candidate noted => by
      rw [candidates₂, candidates₃] at noted
      exact absurd (congrArg List.length noted) (by simp)
  -- so the turns go as they do without it
  have through : meetingWorker.strategies "run" run meetingVisits StrategyType.all
      { strategiesLeft := 2 } w₂ = (.ok { progress₃ with
        replayedCandidateKeys := progress₁.replayedCandidateKeys ++
          progress₂.replayedCandidateKeys ++ progress₃.replayedCandidateKeys }, w₅) := by
    rw [StrategyType.all, AttackWorker.strategies, Program.bind_ok h₃]
    exact (Program.bind_ok second).trans (Program.bind_ok third)
  have body : (meetingWorker.body "run" run meetingVisits w₂).2.log = w₅.log := by
    unfold AttackWorker.body
    rw [show meetingWorker.searchingStrategies.length = 2 from rfl, Program.bind_ok through]
    exact (AttackWorker.call_keeps.bind fun current => .ite
      (AttackWorker.call_keeps.bind fun _ => .pure ()) (.pure ())) w₅
  have ended : (meetingWorker.run "run" meetingVisits readyWorld).2.log = w₅.log := by
    unfold AttackWorker.run
    rw [Program.bind_ok h₁, Program.bind_ok h₂, if_neg unreplaying]
    exact AttackWorker.rescue_log.trans body
  rw [ended, WorkerWorld.log, candidates₃, replays₃]

theorem run_replays_again_meeting :
    let _ := Python.transparent
    ¬ (meetingWorker.run "run" meetingVisits readyWorld).2.replays.Pairwise
      fun candidate other => ¬ candidate.SamePath other := by
  intro _
  have candidates : (meetingWorker.run "run" meetingVisits readyWorld).2.candidates =
      [meetingCandidate .valueFlow, meetingCandidate .lifecycle] :=
    (WorkerWorld.candidates_log _).trans (congrArg CandidateLog.candidates meeting_log)
  have distinct : Function.Injective StrategyType.value := by
    intro strategyType other same
    cases strategyType <;> cases other <;> first | rfl | exact absurd same (by decide)
  have signed : readyWorld.store.records.Signed "run" meetingVisits StrategyType.value :=
    ⟨⟨fun _ => rfl, fun _ _ stored => by cases stored⟩, fun _ _ stored => by cases stored⟩
  have uncancelled : true ∉ readyWorld.cancels ∧
      ∀ strategyType, ∀ turn ∈ (meetingVisits strategyType).turns, ¬ turn.cancels := by
    refine ⟨List.not_mem_nil, fun strategyType => ?_⟩
    cases strategyType <;> decide
  refine meetingWorker.run_replays_again "run" meetingVisits readyWorld rfl rfl distinct signed
    uncancelled (fun candidate mem other mem' same => ?_) fun unlike => ?_
  · rw [candidates] at mem mem'
    simp only [List.mem_cons, List.not_mem_nil, or_false] at mem mem'
    rcases mem with rfl | rfl
    · rcases mem' with rfl | rfl
      · rfl
      · exact absurd same.symm meetingCandidate_key
    · rcases mem' with rfl | rfl
      · exact absurd same meetingCandidate_key
      · rfl
  · rw [candidates] at unlike
    exact List.rel_of_pairwise_cons unlike (List.mem_singleton_self _) (by decide)

/-- Both strategies end with a candidate, with one path and for one invariant, and both candidates
    are replayed. -/
theorem not_run_replays_once :
    let _ := Python.transparent
    (meetingWorker.run "run" meetingVisits readyWorld).2.log = {
        candidates := [meetingCandidate .valueFlow, meetingCandidate .lifecycle]
        replays := [meetingCandidate .valueFlow, meetingCandidate .lifecycle] } ∧
      (meetingCandidate .valueFlow).SamePath (meetingCandidate .lifecycle) := by
  intro _
  exact ⟨meeting_log, by decide⟩

end RuleArena
