import RuleArena.Oracle.Labels
import RuleArena.Runtime.Acquittal
import RuleArena.Runtime.Trials

/-!
# Replays over again

A trace is replayed in another run, at another time: another identifier, other times in the
receipts and the events, other delays. What the replay comes to is the same. Step by step the runs
are alike (`Replay.actions_alike`), and the oracle looks at nothing in which they differ, so that
the findings are the same, with their evidence and the hashes, or the failure is
(`replay_alike`). The identifiers that are drawn for receipts and events are left out of it, also
where a finding shows them.

An answer that is lost is asked for again by its key alone, and if requests for several actions
came under this key then it is that of the earliest. So the clock of the service must not be set
back.
-/

namespace RuleArena

/-- Computations that are the same up to what is left of their results fail alike, or both have a
    result. -/
theorem Checked.map_eq_map {ε α β γ : Type} {x : Except ε α} {y : Except ε β} {f : α → γ}
    {g : β → γ} (h : x.map f = y.map g) :
    (∃ e, x = .error e ∧ y = .error e) ∨ ∃ a b, x = .ok a ∧ y = .ok b ∧ f a = g b := by
  cases x with
  | error e =>
    cases y with
    | error e' => exact .inl ⟨e, rfl, congrArg _ (Except.error.inj h).symm⟩
    | ok b => cases h
  | ok a =>
    cases y with
    | error e' => cases h
    | ok b => exact .inr ⟨a, b, rfl, rfl, Except.ok.inj h⟩

/-- Of computations that are all the same up to what is left of their results, all fail alike or
    none fails. -/
theorem Checked.all_alike {ε α γ : Type} {once : Nat → Except ε α} {f : α → γ}
    (same : ∀ i j, (once i).map f = (once j).map f) :
    (∃ e, ∀ i, once i = .error e) ∨
      ∃ result : Nat → α, (∀ i, once i = .ok (result i)) ∧ ∀ i j, f (result i) = f (result j) := by
  cases zeroth : once 0 with
  | error e =>
    refine .inl ⟨e, fun i => ?_⟩
    rcases map_eq_map (same i 0) with ⟨_, failed, failed'⟩ | ⟨_, _, -, ended, -⟩
    · rw [failed, ← failed', zeroth]
    · cases zeroth.symm.trans ended
  | ok first =>
    have ends (i : Nat) : ∃ a, once i = .ok a ∧ f a = f first := by
      rcases map_eq_map (same i 0) with ⟨_, -, failed⟩ | ⟨a, _, ended, ended', alike⟩
      · cases zeroth.symm.trans failed
      · cases zeroth.symm.trans ended'
        exact ⟨a, ended, alike⟩
    choose result answer alike using ends
    exact .inr ⟨result, answer, fun i j => (alike i).trans (alike j).symm⟩

namespace RunSpace

variable {a b run : RunSpace} {key : String} {now later : Nat}

/-! ## The earliest receipt -/

/-- The receipts of a run came one after the other, and none after a time. -/
structure Dated (run : RunSpace) (now : Nat) : Prop where
  sorted : run.epochReceipts.Pairwise fun a b => a.occurredAt ≤ b.occurredAt
  before : ∀ record ∈ run.epochReceipts, record.occurredAt ≤ now

theorem Dated.mono (h : run.Dated now) (le : now ≤ later) : run.Dated later :=
  ⟨h.sorted, fun record mem => (h.before record mem).trans le⟩

/-- The earliest receipt is the first one. -/
theorem Dated.getReceipt_eq (h : run.Dated now) (key : String) :
    run.getReceipt key = queryText key >>= fun _ =>
      (run.epochReceipts.find? (·.idempotencyKey = key)).elim
        (throw (.domain receiptNotFound)) fun record => pure (record.toReceipt run.id) := by
  unfold getReceipt
  rw [(h.sorted.sublist List.filter_sublist).insertionSort_eq, ← List.head?_filter]
  cases run.epochReceipts.filter (·.idempotencyKey = key) <;> rfl

theorem unlabelled_toReceipt {record record' : ActionReceiptRecord} (id id' : String)
    (same : record.unlabelled = record'.unlabelled) :
    (record.toReceipt id).unlabelled = (record'.toReceipt id').unlabelled := by
  simp only [ActionReceiptRecord.unlabelled, ActionReceiptRecord.mk.injEq] at same
  simp [ActionReceiptRecord.toReceipt, ActionReceipt.unlabelled, same]

/-- Runs that are alike give back alike receipts for a key. -/
theorem Alike.getReceipt (h : Alike a b) (dated : a.Dated now) (dated' : b.Dated later)
    (key : String) : (a.getReceipt key).map ActionReceipt.unlabelled =
      (b.getReceipt key).map ActionReceipt.unlabelled := by
  have found (run : RunSpace) : (run.epochReceipts.find? (·.idempotencyKey = key)).map
      ActionReceiptRecord.unlabelled = (run.epochReceipts.map ActionReceiptRecord.unlabelled).find?
        (·.idempotencyKey = key) := by
    rw [List.find?_map]
    rfl
  have same := (found a).trans ((congrArg _ h.receipts).trans (found b).symm)
  rw [dated.getReceipt_eq, dated'.getReceipt_eq]
  cases queryText key with
  | error fault => rfl
  | ok _ =>
    cases ha : a.epochReceipts.find? (·.idempotencyKey = key) with
    | none =>
      rw [ha] at same
      rw [Option.map_eq_none_iff.1 same.symm]
      rfl
    | some record =>
      rw [ha] at same
      obtain ⟨record', hb, alike⟩ := Option.map_eq_some_iff.1 same.symm
      rw [hb]
      exact congrArg Except.ok (unlabelled_toReceipt a.id b.id alike.symm)

/-! ## A command at its time -/

variable [Python] {command : ActionCommand}

theorem Dated.execute (h : run.Dated now) (command : ActionCommand) (uuid : String) :
    (run.execute command now uuid).1.Dated now := by
  rcases execute_receipts run command now uuid with same | ⟨record, time, added⟩
  · exact ⟨same ▸ h.sorted, same ▸ h.before⟩
  · constructor
    · rw [added, List.pairwise_append]
      refine ⟨h.sorted, List.pairwise_singleton .., fun earlier mem _ last => ?_⟩
      rw [List.mem_singleton.1 last, time]
      exact h.before earlier mem
    · rw [added]
      intro record mem
      rcases List.mem_append.1 mem with mem | last
      · exact h.before record mem
      · rw [List.mem_singleton.1 last, time]

/-- With a key of its own a command needs no other. -/
theorem execute_keyed (run : RunSpace) (now : Nat) (uuid uuid' : String)
    (keyed : command.idempotencyKey = some key) :
    run.execute command now uuid = run.execute command now uuid' := by
  have same : effectiveKey command uuid = effectiveKey command uuid' := by
    rw [effectiveKey, effectiveKey, keyed]
    rfl
  unfold execute
  rw [same]

theorem snapshot_alike (h : Alike a b) (now later : Nat) :
    (a.snapshot now).unlabelled = (b.snapshot later).unlabelled := by
  obtain ⟨state, stateHash, version, -⟩ := h.indistinct
  simp [snapshot, Json.unlabelled, state, stateHash, version]

end RunSpace

/-! ## Step by step -/

theorem foldl_learn_unlabelled (result : List (String × Json)) (aliases : Aliases) :
    (unlabelledResult result).foldl Aliases.learn aliases = result.foldl Aliases.learn aliases := by
  have learn (aliases : Aliases) (entry : String × Json) :
      aliases.learn (entry.1, if entry.1 = "snapshot" then entry.2.unlabelled else entry.2) =
        aliases.learn entry := by
    obtain ⟨name, value⟩ := entry
    split_ifs with snapshot
    · dsimp only at snapshot
      subst snapshot
      -- A snapshot is no identifier, with or without its labels.
      have unlearnt (value : Json) : aliases.learn ("snapshot", value) = aliases := by
        have none : idPrefix? "snapshot" = none := by decide +kernel
        cases value <;> simp [Aliases.learn, none]
      rw [unlearnt, unlearnt]
    · rfl
  rw [unlabelledResult, List.foldl_map]
  exact congrArg (fun step => result.foldl step aliases) (funext₂ learn)

theorem SimAction.command?_key {action : SimAction} {command : ActionCommand}
    (h : action.command? = some command) : command.idempotencyKey = action.idempotencyKey := by
  unfold SimAction.command? at h
  split_ifs at h
  cases h
  rfl

namespace Replay

variable [Python] {a b : Replay} {request : CreateRunRequest} {now later : Nat}

/-- Two replays that differ in labels only. -/
structure Alike (a b : Replay) : Prop where
  run : RunSpace.Alike a.run b.run
  aliases : a.aliases = b.aliases
  receipts : a.receipts.map ActionReceipt.unlabelled = b.receipts.map ActionReceipt.unlabelled
  snapshots : a.snapshots.map Json.unlabelled = b.snapshots.map Json.unlabelled

omit [Python] in
/-- What comes back for a command is the same up to labels, or fails alike. -/
theorem receiptOf_alike {a b : RunSpace} (h : RunSpace.Alike a b) (dated : a.Dated now)
    (dated' : b.Dated later) (key : String) {reply reply' : Reply}
    (same : reply.unlabelled = reply'.unlabelled) :
    (receiptOf a key reply).map ActionReceipt.unlabelled =
      (receiptOf b key reply').map ActionReceipt.unlabelled := by
  have lost : (authoritativeReceipt a key).map ActionReceipt.unlabelled =
      (authoritativeReceipt b key).map ActionReceipt.unlabelled := by
    unfold authoritativeReceipt
    rcases Checked.map_eq_map (h.getReceipt dated dated' key) with
      ⟨fault, ha, hb⟩ | ⟨receipt, receipt', ha, hb, same⟩
    · rw [ha, hb]
    · rw [ha, hb]
      exact congrArg Except.ok same
  cases reply with
  | receipt =>
    cases reply' with
    | receipt => exact congrArg Except.ok (Reply.receipt.inj same)
    | _ => cases same
  | ackLost =>
    cases reply' with
    | ackLost => exact lost
    | _ => cases same
  | error =>
    cases reply' with
    | error => rfl
    | _ => cases same
  | crash =>
    cases reply' with
    | crash => rfl
    | _ => cases same

theorem execute_alike (h : Alike a b) (kept : a.Kept request) (kept' : b.Kept request)
    {moment moment' : Moment} (dated : a.run.Dated moment.now) (dated' : b.run.Dated moment'.now)
    {command : ActionCommand} {key : String} (keyed : command.idempotencyKey = some key) :
    (a.execute moment command key).2 = (b.execute moment' command key).2 ∧
      ((a.execute moment command key).2 = none →
        Alike (a.execute moment command key).1 (b.execute moment' command key).1 ∧
        (a.execute moment command key).1.run.Dated moment.now ∧
        (b.execute moment' command key).1.run.Dated moment'.now) := by
  obtain ⟨alike, reply⟩ := RunSpace.execute_alike kept.reachable.storable
    kept'.reachable.storable h.run command moment.now moment'.now moment.uuid
  rw [b.run.execute_keyed _ moment.uuid moment'.uuid keyed] at alike reply
  have left := dated.execute command moment.uuid
  have right := dated'.execute command moment'.uuid
  have received := receiptOf_alike alike left right key reply
  unfold Replay.execute
  dsimp only
  rcases Checked.map_eq_map received with ⟨error, ha, hb⟩ | ⟨receipt, receipt', ha, hb, same⟩ <;>
    rw [ha, hb]
  · exact ⟨rfl, fun ended => absurd ended (Option.some_ne_none _)⟩
  · have result : unlabelledResult receipt.result = unlabelledResult receipt'.result :=
      congrArg ActionReceipt.result same
    refine ⟨rfl, fun _ => ⟨⟨alike, ?_, ?_, ?_⟩, left, right⟩⟩
    · dsimp only
      rw [← foldl_learn_unlabelled receipt.result, result, foldl_learn_unlabelled, h.aliases]
    · simp only [List.map_append, h.receipts, List.map_singleton, same]
    · simp only [List.map_append, h.snapshots, List.map_singleton,
        RunSpace.snapshot_alike alike moment.capturedAt moment'.capturedAt]

/-- An action is posted alike, and leaves the replays alike unless it fails. -/
theorem post_alike (h : Alike a b) (kept : a.Kept request) (kept' : b.Kept request)
    {moment moment' : Moment} (dated : a.run.Dated moment.now) (dated' : b.run.Dated moment'.now)
    (sized : moment.tooLarge = moment'.tooLarge) (index : Nat) (action : SimAction) :
    (a.post index moment action).2 = (b.post index moment' action).2 ∧
      ((a.post index moment action).2 = none →
        Alike (a.post index moment action).1 (b.post index moment' action).1 ∧
        (a.post index moment action).1.run.Dated moment.now ∧
        (b.post index moment' action).1.run.Dated moment'.now) := by
  unfold post
  dsimp only
  rw [h.aliases, sized]
  split_ifs
  · exact ⟨rfl, False.elim⟩
  cases posted : (b.aliases.posted index action).command? with
  | none => exact ⟨rfl, fun ended => absurd ended (Option.some_ne_none _)⟩
  | some command =>
    have keyed : command.idempotencyKey = some (action.replayKey index) :=
      SimAction.command?_key posted
    -- What has been posted is looked at by neither.
    have alike : Alike
        { a with aliases := b.aliases, posted := a.posted ++ [b.aliases.posted index action] }
        { b with posted := b.posted ++ [b.aliases.posted index action] } :=
      ⟨h.run, rfl, h.receipts, h.snapshots⟩
    have left : Kept request
        { a with aliases := b.aliases, posted := a.posted ++ [b.aliases.posted index action] } :=
      ⟨kept.reachable, kept.profile, kept.scenarioType, kept.own, kept.staged⟩
    have right : Kept request { b with posted := b.posted ++ [b.aliases.posted index action] } :=
      ⟨kept'.reachable, kept'.profile, kept'.scenarioType, kept'.own, kept'.staged⟩
    exact execute_alike alike left right dated dated' keyed

/-- A trace is posted alike. -/
theorem actions_alike {a b : Replay} (h : Alike a b) (kept : a.Kept request)
    (kept' : b.Kept request) {moments moments' : Nat → Moment} (index : Nat)
    (dated : a.run.Dated (moments index).now) (dated' : b.run.Dated (moments' index).now)
    (forward : Monotone fun index => (moments index).now)
    (forward' : Monotone fun index => (moments' index).now)
    (sized : ∀ index, (moments index).tooLarge = (moments' index).tooLarge)
    (trace : List SimAction) :
    (a.actions moments index trace).2 = (b.actions moments' index trace).2 ∧
      ((a.actions moments index trace).2 = none →
        Alike (a.actions moments index trace).1 (b.actions moments' index trace).1) := by
  induction trace generalizing a b index with
  | nil => exact ⟨rfl, fun _ => h⟩
  | cons action trace ih =>
    obtain ⟨same, alike⟩ := post_alike h kept kept' dated dated' (sized index) index action
    rw [Replay.actions, Replay.actions]
    rcases ha : a.post index (moments index) action with ⟨a', _ | error⟩
    · rcases hb : b.post index (moments' index) action with ⟨b', _ | error⟩
      · have kept := kept.post index (moments index) action (congrArg Prod.snd ha)
        have kept' := kept'.post index (moments' index) action (congrArg Prod.snd hb)
        rw [ha] at kept
        rw [hb] at kept'
        rw [ha, hb] at alike
        obtain ⟨alike, dated, dated'⟩ := alike rfl
        exact ih alike kept kept' (index + 1) (dated.mono (forward (Nat.le_succ index)))
          (dated'.mono (forward' (Nat.le_succ index)))
      · rw [ha, hb] at same
        cases same
    · rcases hb : b.post index (moments' index) action with ⟨b', _ | error'⟩
      · rw [ha, hb] at same
        cases same
      · rw [ha, hb] at same
        exact ⟨same, fun ended => absurd ended (Option.some_ne_none _)⟩

theorem alike_start (request : CreateRunRequest) (runId runId' : String)
    (capturedAt capturedAt' : Nat) :
    Alike (start request runId capturedAt) (start request runId' capturedAt') := by
  have run : RunSpace.Alike (createRun request runId) (createRun request runId') := ⟨rfl, rfl⟩
  exact ⟨run, rfl, rfl, congrArg (· :: []) (RunSpace.snapshot_alike run _ _)⟩

theorem dated_start (request : CreateRunRequest) (runId : String) (capturedAt now : Nat) :
    (start request runId capturedAt).run.Dated now :=
  ⟨.nil, fun _ mem => absurd mem List.not_mem_nil⟩

end Replay

/-! ## The same report -/

/-- A finding without the receipts and the events that it names: they are named by identifiers
    that are drawn for each of them. -/
def OracleFinding.unlabelled (finding : OracleFinding) : OracleFinding :=
  { finding with relatedActionIds := [], relatedEventIds := [] }

/-- A report without the run it is of, without times and without drawn identifiers. -/
def ReplayResult.unlabelled (result : ReplayResult) : ReplayResult :=
  { result with
    runId := ""
    findings := result.findings.map OracleFinding.unlabelled
    snapshots := result.snapshots.map Json.unlabelled
    receipts := result.receipts.map ActionReceipt.unlabelled
    events := result.events.map Json.unlabelled }

variable [Python]

/-- Two replays of a trace in runs of the same environment come to the same, labels apart. -/
theorem replay_alike (spec : RuleSpec) (trace : List SimAction) (targetInvariant : InvariantId)
    (request : CreateRunRequest) (runId runId' : String) (capturedAt capturedAt' : Nat)
    (moments moments' : Nat → Moment) (forward : Monotone fun index => (moments index).now)
    (forward' : Monotone fun index => (moments' index).now)
    (sized : ∀ index, (moments index).tooLarge = (moments' index).tooLarge) :
    (replay spec trace targetInvariant request runId capturedAt moments).map
        ReplayResult.unlabelled =
      (replay spec trace targetInvariant request runId' capturedAt' moments').map
        ReplayResult.unlabelled := by
  have kept := Replay.kept_start request runId capturedAt
  have kept' := Replay.kept_start request runId' capturedAt'
  obtain ⟨same, alike⟩ := Replay.actions_alike
    (Replay.alike_start request runId runId' capturedAt capturedAt') kept kept' 0
    (Replay.dated_start ..) (Replay.dated_start ..) forward forward' sized trace
  unfold replay
  rcases ha : (Replay.start request runId capturedAt).actions moments 0 trace with
    ⟨a, _ | error⟩
  · rcases hb : (Replay.start request runId' capturedAt').actions moments' 0 trace with
      ⟨b, _ | error⟩
    · have kept := kept.actions moments 0 trace (congrArg Prod.snd ha)
      have kept' := kept'.actions moments' 0 trace (congrArg Prod.snd hb)
      rw [ha] at kept
      rw [hb] at kept'
      rw [ha, hb] at alike
      have alike := alike rfl
      have events := alike.run.indistinct.events
      have report := Oracle.evaluate_alike spec kept.reachable kept'.reachable kept.own kept'.own
        alike.snapshots alike.receipts events
      dsimp only
      rw [report]
      cases Oracle.evaluate spec b.snapshots (b.receipts.map ActionReceipt.toJson)
          b.run.getEvents with
      | error exception => rfl
      | ok findings =>
        dsimp only
        cases findings.find? fun finding => finding.invariantId = targetInvariant with
        | none => rfl
        | some finding =>
          refine congrArg Except.ok ?_
          simp only [ReplayResult.unlabelled, alike.snapshots, alike.receipts, events]
    · rw [ha, hb] at same
      cases same
  · rcases hb : (Replay.start request runId' capturedAt').actions moments' 0 trace with
      ⟨b, _ | error'⟩
    · rw [ha, hb] at same
      cases same
    · rw [ha, hb] at same
      cases same
      rfl

/-! ## Repeated replays -/

namespace SandboxReplayRunner

open Interaction

/-- What a replay meets with: the identifier of its run, the time of its first snapshot, and what
    happens around its commands. -/
structure Occasion where
  runId : String
  capturedAt : Nat := 0
  moments : Nat → Moment := fun _ => {}

/-- How `replay_repeated` ends without a result. -/
inductive RepeatedFailure
  | valueError
  | replay (failure : ReplayFailure)

/-- A replay on an occasion. -/
def replayOn (spec : RuleSpec) (actions : List SimAction) (targetInvariant : InvariantId)
    (request : CreateRunRequest) (occasion : Occasion) : Except ReplayFailure ReplayResult :=
  replay spec actions targetInvariant request occasion.runId occasion.capturedAt occasion.moments

/-- `replay_repeated` -/
def replayRepeated (spec : RuleSpec) (actions : List SimAction) (targetInvariant : InvariantId)
    (request : CreateRunRequest) (repetitions : Int) (occasions : Nat → Occasion) :
    Except RepeatedFailure (List ReplayResult) := do
  ensure (¬ repetitions < 1) .valueError
  (List.range repetitions.toNat).mapM fun index =>
    (replayOn spec actions targetInvariant request (occasions index)).mapError .replay

/-- A trace can be replayed over again, as long as the clock is not set back: either every replay
    of it fails and fails alike, or there are as many results as there are repetitions, and they are
    the same up to labels as on any of the occasions, with the same findings but for the receipts
    and events they name. -/
theorem replayRepeated_stable (spec : RuleSpec) (actions : List SimAction)
    (targetInvariant : InvariantId) (request : CreateRunRequest) (repetitions : Int)
    (occasions : Nat → Occasion) (tooLarge : Nat → Bool)
    (forward : ∀ occasion, Monotone fun index => ((occasions occasion).moments index).now)
    (sized : ∀ occasion index, ((occasions occasion).moments index).tooLarge = tooLarge index) :
    let once (occasion : Nat) := replayOn spec actions targetInvariant request (occasions occasion)
    let all := replayRepeated spec actions targetInvariant request repetitions occasions
    (repetitions < 1 → all = .error .valueError) ∧
    (1 ≤ repetitions →
      (∃ failure, (∀ occasion, once occasion = .error failure) ∧ all = .error (.replay failure)) ∨
      ∃ results, all = .ok results ∧ (results.length : Int) = repetitions ∧
        ∀ result ∈ results, ∀ occasion, ∃ report, once occasion = .ok report ∧
          result.classification = report.classification ∧
          result.findings.map OracleFinding.unlabelled =
            report.findings.map OracleFinding.unlabelled ∧
          result.unlabelled = report.unlabelled) := by
  intro once all
  have same (first second : Nat) : (once first).map ReplayResult.unlabelled =
      (once second).map ReplayResult.unlabelled :=
    replay_alike spec actions targetInvariant request _ _ _ _ _ _ (forward first) (forward second)
      fun index => (sized first index).trans (sized second index).symm
  have unfolded : all = (do
      ensure (¬ repetitions < 1) .valueError
      (List.range repetitions.toNat).mapM fun index => (once index).mapError .replay) := rfl
  constructor
  · intro none
    rw [unfolded, Checked.ensure_of_neg (not_not.2 none)]
    rfl
  · intro some
    rw [unfolded, Checked.ensure_of_pos (not_lt.2 some), Checked.ok_bind]
    rcases Checked.all_alike same with ⟨failure, fails⟩ | ⟨result, answer, alike⟩
    · refine .inl ⟨failure, fails, ?_⟩
      obtain ⟨more, count⟩ : ∃ more, repetitions.toNat = more + 1 :=
        Nat.exists_eq_add_of_le' (by omega)
      rw [count, List.range_succ_eq_map, List.mapM_cons, fails]
      rfl
    · have results : (fun index => (once index).mapError RepeatedFailure.replay) =
          fun index => pure (result index) := by
        funext index
        rw [answer]
        rfl
      refine .inr ⟨(List.range repetitions.toNat).map result, ?_, ?_, ?_⟩
      · rw [results, List.mapM_pure]
        rfl
      · rw [List.length_map, List.length_range]
        omega
      · intro found mem occasion
        obtain ⟨index, -, rfl⟩ := List.mem_map.1 mem
        have alike := alike index occasion
        exact ⟨result occasion, answer occasion, (congrArg ReplayResult.classification alike :),
          (congrArg ReplayResult.findings alike :), alike⟩

/-- One occasion each minute, with a command each second. -/
def eachMinute (occasion : Nat) : Occasion where
  runId := "run-" ++ toString occasion
  moments index := { now := occasion * 60 + index }

omit [Python] in
theorem replayRepeated_stable_overredeeming :
    let _ := Python.transparent
    ∃ results, replayRepeated pointsPolicy.toRuleSpec overredeeming .pointsValueConservation
        overredemption 3 eachMinute = .ok results ∧ results.length = 3 ∧
      ∀ result ∈ results, result.classification = .confirmedViolation := by
  intro _
  have confirmed : (replayOn pointsPolicy.toRuleSpec overredeeming .pointsValueConservation
      overredemption (eachMinute 0)).toOption.any
        (·.classification = .confirmedViolation) = true := by decide +kernel
  have stable := (replayRepeated_stable pointsPolicy.toRuleSpec overredeeming
    .pointsValueConservation overredemption 3 eachMinute (fun _ => false)
    (fun _ _ _ le => Nat.add_le_add_left le _) fun _ _ => rfl).2 (by decide)
  dsimp only at stable
  rcases stable with ⟨failure, fails, -⟩ | ⟨results, all, length, agree⟩
  · rw [fails 0] at confirmed
    cases confirmed
  · refine ⟨results, all, Int.ofNat.inj length, fun result mem => ?_⟩
    obtain ⟨report, once, classification, -⟩ := agree result mem 0
    rw [once] at confirmed
    exact classification.trans (of_decide_eq_true confirmed)

/-! ## Minimization by replays -/

/-- Each trace has been replayed in a new run, in the order of a clock that is not set back. Which
    bodies are too large for the service does not depend on the time. -/
def ReplayedInOrder (spec : RuleSpec) (targetInvariant : InvariantId) (request : CreateRunRequest)
    (tooLarge : List SimAction → Nat → Bool)
    (log : Trials.Log ReplayFailure ReplayResult SimAction) : Prop :=
  ∀ exchange ∈ log, ∃ runId capturedAt moments,
    (Monotone fun index => (moments index).now) ∧
    (∀ index, (moments index).tooLarge = tooLarge exchange.1 index) ∧
    exchange.2 = replay spec exchange.1 targetInvariant request runId capturedAt moments

/-- A replay in which no time passes confirms a violation. -/
def confirmsAtOnce (spec : RuleSpec) (targetInvariant : InvariantId) (request : CreateRunRequest)
    (tooLarge : List SimAction → Nat → Bool) (trace : List SimAction) : Bool :=
  (replay spec trace targetInvariant request "" 0
    fun index => { tooLarge := tooLarge trace index }).toOption.any
      (·.classification = .confirmedViolation)

/-- Unless a replay fails, the minimization by replays is the minimization by a predicate, and so it
    is the same at all times and for all runs. -/
theorem minimize_refines {spec : RuleSpec} {actions : List SimAction}
    {targetInvariant : InvariantId} {request : CreateRunRequest}
    {tooLarge : List SimAction → Nat → Bool}
    {log : Trials.Log ReplayFailure ReplayResult SimAction}
    {result : Except (MinimizationFailure ReplayFailure) (MinimizationResult SimAction)}
    (runs : Runs (minimize actions targetInvariant) log result)
    (replayed : ReplayedInOrder spec targetInvariant request tooLarge log) :
    (∃ failure, result = .error (.replay failure)) ∨
      result = (minimizeTrace actions targetInvariant fun trace _ =>
        confirmsAtOnce spec targetInvariant request tooLarge trace).mapError
          fun _ => .valueError := by
  rw [or_iff_not_imp_left]
  intro unfailing
  obtain ⟨-, -, -, -, -, ended⟩ := Trials.runs_minimize runs
  have ended := ended fun failure failed => unfailing ⟨failure, failed⟩
  refine Trials.minimize_agrees runs fun exchange mem => ?_
  obtain ⟨runId, capturedAt, moments, forward, sized, answer⟩ := replayed exchange mem
  have same := replay_alike spec exchange.1 targetInvariant request runId "" capturedAt 0 moments
    (fun index => { tooLarge := tooLarge exchange.1 index }) forward (fun _ _ _ => le_rfl) sized
  rw [← answer] at same
  rcases Checked.map_eq_map same with ⟨failure, failed, -⟩ | ⟨report, report', got, again, alike⟩
  · have ended := ended exchange mem
    rw [failed] at ended
    cases ended
  · have classification : report.classification = report'.classification :=
      (congrArg ReplayResult.classification alike :)
    refine ⟨report, got, ?_⟩
    unfold confirmsAtOnce
    rw [again, classification]
    rfl

omit [Python] in
theorem minimize_refines_overredeeming :
    let _ := Python.transparent
    ∃ log, Runs (minimize overredeeming .pointsValueConservation) log
      ((minimizeTrace overredeeming .pointsValueConservation fun trace _ =>
        confirmsAtOnce pointsPolicy.toRuleSpec .pointsValueConservation overredemption
          (fun _ _ => false) trace).mapError fun _ => .valueError) := by
  intro _
  obtain ⟨log, result, runs, answered⟩ := runs_promptly
  have replayed : ReplayedInOrder pointsPolicy.toRuleSpec .pointsValueConservation overredemption
      (fun _ _ => false) log := fun exchange mem =>
    ⟨"run", 0, fun _ => {}, fun _ _ _ => le_rfl, fun _ => rfl, answered exchange mem⟩
  rcases minimize_refines runs replayed with ⟨failure, failed⟩ | refined
  · obtain ⟨parts, -, -, -, failed_replay, -⟩ := Trials.runs_minimize runs
    obtain ⟨trace, mem⟩ := failed_replay failure failed
    have ended := promptly_ends trace (List.mem_sublists.2 (parts _ mem))
    rw [← answered _ mem] at ended
    cases ended
  · exact ⟨log, refined ▸ runs⟩

end SandboxReplayRunner

end RuleArena
