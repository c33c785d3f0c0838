import RuleArena.Refund.Gateway

/-!
# The guarded call fails closed

For any answers of the guard and of the sandbox, a guarded call of a write sends
one POST at most, and none unless the guard has let it pass twice and the
snapshot before it could be read. It reports a success only if a receipt says so,
and if that is the receipt of this write then only after the guard has found the
effect in the snapshots (`ToolGateway.call_failClosed`).

A call goes through its parts, each with the questions that it asks and what its
success comes from: `runs_send`, `runs_settle`, `runs_confirm`, `runs_perform`.
-/

namespace RuleArena

open Interaction

/-! ## Questions and answers -/

def ToolQuestion.isPost : ToolQuestion → Bool
  | post .. => true
  | _ => false

/-- A call of the guard, or a snapshot for it. -/
def ToolQuestion.isCheck : ToolQuestion → Bool
  | post .. => false
  | _ => true

/-- The number of questions of a kind. -/
def countOf (kind : ToolQuestion → Bool) (log : List (Exchange ToolAnswer)) : Nat :=
  log.countP fun exchange => kind exchange.1

/-- Only checks are made. -/
def Quiet (log : List (Exchange ToolAnswer)) : Prop :=
  ∀ exchange ∈ log, ToolQuestion.isPost exchange.1 = false

theorem Quiet.countOf_eq_zero {log : List (Exchange ToolAnswer)} (quiet : Quiet log) :
    countOf ToolQuestion.isPost log = 0 :=
  List.countP_eq_zero.2 fun exchange mem => ne_true_of_eq_false (quiet exchange mem)

/-- The first POST of a log is the only one if only checks are made after it. -/
theorem Quiet.append_inj {cleared before after rest : List (Exchange ToolAnswer)}
    {path path' : String} {payload payload' : Json} {sent reply : HttpReply}
    (quiet : Quiet cleared) (quiet' : Quiet rest)
    (same : cleared ++ ⟨.post path payload, sent⟩ :: rest =
      before ++ ⟨.post path' payload', reply⟩ :: after) :
    before = cleared := by
  obtain ⟨middle, rfl, h⟩ | ⟨middle, rfl, h⟩ := List.append_eq_append_iff.1 same
  · cases middle with
    | nil => exact List.append_nil _
    | cons exchange middle =>
      obtain ⟨rfl, rfl⟩ := List.cons.inj h
      cases quiet' _ (List.mem_append_right _ List.mem_cons_self)
  · cases middle with
    | nil => exact (List.append_nil _).symm
    | cons exchange middle =>
      obtain ⟨rfl, rfl⟩ := List.cons.inj h
      cases quiet _ (List.mem_append_right _ List.mem_cons_self)

/-- The object of a response that brings one. -/
def HttpReply.object? : HttpReply → Option Json
  | response status body => if status = 200 then body.filter Json.isObj else none
  | _ => none

/-- The sandbox may have done what was asked of it, and does not say so. -/
def HttpReply.TimedOut : HttpReply → Prop
  | timeout _ => True
  | response status _ => status ∈ [502, 503, 504]
  | _ => False

/-- A snapshot is read without a question. -/
theorem runs_snapshotOf {reply : HttpReply} {log : List (Exchange ToolAnswer)}
    {r : Except ToolException (Except String Json)}
    (h : Runs (snapshotOf reply) log r) :
    log = [] ∧ ∀ snapshot, r = .ok snapshot → reply.object? = snapshot.toOption := by
  cases reply with
  | response status body =>
    obtain ⟨rfl, rfl⟩ := runs_pure.1 h
    refine ⟨rfl, ?_⟩
    rintro _ ⟨⟩
    rw [HttpReply.object?]
    split_ifs
    · exact (toOption_snapshotBody body).symm
    · rfl
  | timeout name | httpError name =>
    obtain ⟨rfl, rfl⟩ := runs_pure.1 h
    exact ⟨rfl, by rintro _ ⟨⟩; rfl⟩
  | raised e =>
    obtain ⟨rfl, rfl⟩ := runs_raise.1 h
    exact ⟨rfl, nofun⟩

theorem countOf_append (kind : ToolQuestion → Bool) (log log' : List (Exchange ToolAnswer)) :
    countOf kind (log ++ log') = countOf kind log + countOf kind log' :=
  List.countP_append

/-- What a result says of the response that it was made of. -/
theorem interpret_spec [Python] (status : Nat) (body : Option Json) (action : SimAction) :
    ((interpret status body action).outcome = .succeeded → ∃ receipt,
      (HttpReply.response status body).object? = some receipt ∧ ReceiptSucceeded receipt) ∧
    ((interpret status body action).outcome = .timeout → status ∈ [502, 503, 504]) := by
  unfold interpret
  split_ifs with ok answered
  · split
    · next receipt =>
      refine ⟨fun h => ⟨.obj receipt, ?_, receiptOutcome_eq_succeeded.1 h⟩,
        fun h => absurd h receiptOutcome_ne_timeout⟩
      rw [HttpReply.object?, if_pos ok]
      rfl
    · exact ⟨nofun, nofun⟩
  · exact ⟨nofun, fun _ => answered⟩
  · exact ⟨nofun, nofun⟩
  · exact ⟨nofun, nofun⟩

theorem refusal_checks (verdict : Option GuardVerdict) (action : SimAction) (trace : GuardTrace) :
    (refusal verdict action trace).2.checks = trace.checks := by
  unfold refusal
  cases verdict with
  | none => rfl
  | some verdict =>
    dsimp only
    split_ifs <;> rfl

/-- Only an answer that allows it lets a write pass. -/
theorem refusal_eq_none {verdict : Option GuardVerdict} {action : SimAction} {trace : GuardTrace}
    (h : (refusal verdict action trace).1 = none) :
    ∃ allowed, verdict = some allowed ∧ allowed.decision = "ALLOW" := by
  unfold refusal at h
  cases verdict with
  | none => cases h
  | some verdict =>
    dsimp only at h
    split_ifs at h with allowed
    exact ⟨verdict, rfl, allowed⟩

theorem refusal_eq_some {verdict : Option GuardVerdict} {action : SimAction} {trace : GuardTrace}
    {result : ToolResult} (h : (refusal verdict action trace).1 = some result) :
    result.succeeded = false := by
  unfold refusal at h
  cases verdict with
  | none =>
    cases h
    rfl
  | some verdict =>
    dsimp only at h
    split_ifs at h <;> cases h <;> rfl

section Runs

variable [UnicodeTables]

/-- The verdict that the guard answers with, if it does. -/
def GuardAnswer.verdict? : GuardAnswer → Option GuardVerdict
  | .object answer => readVerdict answer
  | .raised _ => none

def GuardAnswer.Allows (answer : GuardAnswer) : Prop :=
  ∃ verdict, answer.verdict? = some verdict ∧ verdict.decision = "ALLOW"

/-- The receipt that the guard answers with. -/
def GuardAnswer.receipt? (answer : GuardAnswer) : Option Json :=
  answer.verdict?.bind GuardVerdict.cachedReceipt

namespace ToolGateway

variable (gateway : ToolGateway)

def snapshotPath : String := "/internal/runs/" ++ gateway.runId ++ "/snapshot"

def actionsPath : String := "/internal/runs/" ++ gateway.runId ++ "/actions"

/-! ## What a guarded call does -/

/-- The questions before a POST: all were answered so that it may be sent. -/
def Cleared (key : String) (action : SimAction) (before : List (Exchange ToolAnswer)) : Prop :=
  ∃ retry check reply,
    before = [⟨.retryCheck gateway.runId key, retry⟩, ⟨.preCheck gateway.runId action, check⟩,
      ⟨.get gateway.snapshotPath, reply⟩] ∧
    retry.Allows ∧ retry.receipt? = none ∧ check.Allows ∧ reply.object?.isSome

/-- The questions of a success that was known before. -/
def Replayed (key : String) (log : List (Exchange ToolAnswer)) : Prop :=
  ∃ retry receipt, log = [⟨.retryCheck gateway.runId key, retry⟩] ∧ retry.Allows ∧
    retry.receipt? = some receipt ∧ ReceiptSucceeded receipt

/-- The receipt of a success: that of the POST, or one that was looked for after a timeout. -/
def Received (key : String) (sent : HttpReply) (recovery : List (Exchange ToolAnswer)) : Prop :=
  (recovery = [] ∧ ∃ receipt, sent.object? = some receipt ∧ ReceiptSucceeded receipt) ∨
    sent.TimedOut ∧ ∃ again receipt, recovery = [⟨.retryCheck gateway.runId key, again⟩] ∧
      again.Allows ∧ again.receipt? = some receipt ∧ ReceiptSucceeded receipt

/-- The questions after a receipt, answered so that it is believed. -/
def Confirmed (before : Json) (log : List (Exchange ToolAnswer)) : Prop :=
  ∃ reply after check, log = [⟨.get gateway.snapshotPath, reply⟩,
      ⟨.postCheck gateway.runId before after, check⟩] ∧
    reply.object? = some after ∧ check.Allows

/-- The questions of a success of this write. -/
def Performed (key : String) (action : SimAction) (log : List (Exchange ToolAnswer)) : Prop :=
  ∃ cleared sent recovery before confirmation,
    log = cleared ++ ⟨.post gateway.actionsPath action.toHttpPayload, sent⟩ ::
      (recovery ++ confirmation) ∧
    gateway.Cleared key action cleared ∧ gateway.Received key sent recovery ∧
      gateway.Confirmed before confirmation

/-- What holds of a guarded call of a write. -/
structure FailClosed (key : String) (action : SimAction) (calls : List ToolCallRecord)
    (log : List (Exchange ToolAnswer))
    (outcome : Except ToolException (ToolResult × List ToolCallRecord)) : Prop where
  once : countOf ToolQuestion.isPost log ≤ 1
  cleared : ∀ before path payload reply after,
    log = before ++ ⟨.post path payload, reply⟩ :: after → gateway.Cleared key action before
  succeeded : ∀ result calls', outcome = .ok (result, calls') → result.succeeded →
    gateway.Replayed key log ∨ gateway.Performed key action log
  recorded : ∀ result calls', outcome = .ok (result, calls') → ∃ record,
    calls' = calls ++ [record] ∧ record.outcome = result.outcome ∧
      record.guardChecks = countOf ToolQuestion.isCheck log

/-! ## Its parts -/

variable {gateway} {action : SimAction} {key : String} {log : List (Exchange ToolAnswer)}

/-- What the gateway reads from an answer of the guard. -/
def verdictRead : GuardAnswer → Except ToolException (Option GuardVerdict)
  | .object answer => .ok (readVerdict answer)
  | .raised e => .error e

theorem runs_verdictOf {answer : GuardAnswer} {r : Except ToolException (Option GuardVerdict)} :
    Runs (verdictOf answer) log r ↔ log = [] ∧ r = verdictRead answer := by
  cases answer with
  | object answer => exact runs_pure
  | raised e => exact runs_raise

theorem verdictRead_eq_ok {answer : GuardAnswer} {verdict : Option GuardVerdict}
    (h : .ok verdict = verdictRead answer) : answer.verdict? = verdict := by
  cases answer with
  | object answer => exact (Except.ok.inj h).symm
  | raised e => cases h

/-- A check of the guard is one question. -/
theorem runs_check {q : ToolQuestion} (guard : ToolAnswer q = GuardAnswer)
    {f : ToolAnswer q → ToolRun (Option GuardVerdict)}
    (same : ∀ answer, f answer = verdictOf (cast guard answer))
    {r : Except ToolException (Option GuardVerdict)} :
    Runs (query q >>= f) log r ↔
      ∃ answer, log = [⟨q, answer⟩] ∧ r = verdictRead (cast guard answer) := by
  rw [runs_query]
  refine exists_congr fun answer => ?_
  rw [same]
  constructor
  · rintro ⟨_, rfl, h⟩
    obtain ⟨rfl, rfl⟩ := runs_verdictOf.1 h
    exact ⟨rfl, rfl⟩
  · rintro ⟨rfl, rfl⟩
    exact ⟨[], rfl, runs_verdictOf.2 ⟨rfl, rfl⟩⟩

theorem runs_retryCheck {r : Except ToolException (Option GuardVerdict)} :
    Runs (gateway.retryCheck key) log r ↔
      ∃ answer, log = [⟨.retryCheck gateway.runId key, answer⟩] ∧ r = verdictRead answer :=
  runs_check rfl fun _ => rfl

theorem runs_preCheck {r : Except ToolException (Option GuardVerdict)} :
    Runs (gateway.preCheck action) log r ↔
      ∃ answer, log = [⟨.preCheck gateway.runId action, answer⟩] ∧ r = verdictRead answer :=
  runs_check rfl fun _ => rfl

theorem runs_postCheck {before after : Json} {r : Except ToolException (Option GuardVerdict)} :
    Runs (gateway.postCheck before after) log r ↔
      ∃ answer, log = [⟨.postCheck gateway.runId before after, answer⟩] ∧
        r = verdictRead answer :=
  runs_check rfl fun _ => rfl

/-! ## Snapshots and the write -/

omit [UnicodeTables] in
theorem runs_snapshotOrNone {r : Except ToolException (Option Json)}
    (asked : Runs gateway.snapshotOrNone log r) :
    ∃ reply, log = [⟨.get gateway.snapshotPath, reply⟩] ∧
      ∀ snapshot, r = .ok snapshot → HttpReply.object? reply = snapshot := by
  obtain ⟨snapshot, first, rest, rfl, inspected, h⟩ | ⟨e, inspected, rfl⟩ := runs_bind.1 asked
  · obtain ⟨reply, log', rfl, h'⟩ := runs_query.1 inspected
    obtain ⟨rfl, read⟩ := runs_snapshotOf h'
    obtain ⟨rfl, rfl⟩ := runs_pure.1 h
    exact ⟨reply, rfl, by rintro _ ⟨⟩; exact read _ rfl⟩
  · obtain ⟨reply, log', rfl, h'⟩ := runs_query.1 inspected
    obtain ⟨rfl, -⟩ := runs_snapshotOf h'
    exact ⟨reply, rfl, nofun⟩

variable [Python]

omit [UnicodeTables] in
/-- The write is one POST. -/
theorem runs_send {r : Except ToolException ToolResult}
    (sent : Runs (gateway.send action) log r) :
    ∃ reply, log = [⟨.post gateway.actionsPath action.toHttpPayload, reply⟩] ∧
      ∀ result, r = .ok result →
        (result.outcome = .succeeded → ∃ receipt, HttpReply.object? reply = some receipt ∧
          ReceiptSucceeded receipt) ∧
        (result.outcome = .timeout → HttpReply.TimedOut reply) := by
  obtain ⟨reply, log', rfl, h⟩ := runs_query.1 sent
  refine ⟨reply, ?_⟩
  cases reply with
  | response status body =>
    obtain ⟨rfl, rfl⟩ := runs_pure.1 h
    refine ⟨rfl, ?_⟩
    rintro _ ⟨⟩
    exact interpret_spec status body action
  | timeout name =>
    obtain ⟨rfl, rfl⟩ := runs_pure.1 h
    refine ⟨rfl, ?_⟩
    rintro _ ⟨⟩
    exact ⟨nofun, fun _ => trivial⟩
  | httpError name =>
    obtain ⟨rfl, rfl⟩ := runs_pure.1 h
    refine ⟨rfl, ?_⟩
    rintro _ ⟨⟩
    exact ⟨nofun, nofun⟩
  | raised e =>
    obtain ⟨rfl, rfl⟩ := runs_raise.1 h
    exact ⟨rfl, nofun⟩

/-! ## After the write -/

theorem runs_recover {trace : GuardTrace} {result : ToolResult}
    {r : Except ToolException (Option ToolResult × GuardTrace)}
    (h : Runs (gateway.recover action key trace) log r) (pending : result.succeeded = false) :
    ∃ answer, log = [⟨.retryCheck gateway.runId key, answer⟩] ∧
      ∀ recovered trace', r = .ok (recovered, trace') → trace'.checks = trace.checks + 1 ∧
        ((recovered.getD result).succeeded → GuardAnswer.Allows answer ∧
          ∃ receipt, GuardAnswer.receipt? answer = some receipt ∧ ReceiptSucceeded receipt) := by
  obtain ⟨verdict, first, rest, rfl, checked, h⟩ | ⟨e, checked, rfl⟩ := runs_bind.1 h
  · obtain ⟨answer, rfl, read⟩ := runs_retryCheck.1 checked
    have read := verdictRead_eq_ok read
    refine ⟨answer, ?_⟩
    cases verdict with
    | none =>
      obtain ⟨rfl, rfl⟩ := runs_pure.1 h
      exact ⟨rfl, by rintro _ _ ⟨⟩; exact ⟨rfl, nofun⟩⟩
    | some verdict =>
      dsimp only at h
      split_ifs at h with stopped
      · obtain ⟨rfl, rfl⟩ := runs_pure.1 h
        exact ⟨rfl, by rintro _ _ ⟨⟩; exact ⟨rfl, nofun⟩⟩
      · obtain ⟨rfl, rfl⟩ := runs_pure.1 h
        refine ⟨rfl, ?_⟩
        rintro _ _ ⟨⟩
        refine ⟨rfl, fun succeeded => ⟨⟨verdict, read, not_ne_iff.1 stopped⟩, ?_⟩⟩
        cases cached : verdict.cachedReceipt with
        | none =>
          have same : (Option.map (fromReceipt · action) verdict.cachedReceipt).getD result =
              result := by rw [cached]; rfl
          rw [same, pending] at succeeded
          cases succeeded
        | some receipt =>
          have same : (Option.map (fromReceipt · action) verdict.cachedReceipt).getD result =
              fromReceipt receipt action := by rw [cached]; rfl
          rw [same] at succeeded
          refine ⟨receipt, ?_, succeeded_fromReceipt.1 succeeded⟩
          rw [GuardAnswer.receipt?, read]
          exact cached
  · obtain ⟨answer, rfl, -⟩ := runs_retryCheck.1 checked
    exact ⟨answer, rfl, by rintro _ _ ⟨⟩⟩

theorem runs_settle {result : ToolResult} {trace : GuardTrace}
    {r : Except ToolException (ToolResult × GuardTrace)}
    (settling : Runs (gateway.settle action key result trace) log r) :
    Quiet log ∧ ∀ settled trace', r = .ok (settled, trace') →
      trace'.checks = trace.checks + countOf ToolQuestion.isCheck log ∧
      (settled.succeeded → log = [] ∧ settled = result ∨
        result.outcome = .timeout ∧ ∃ answer receipt,
          log = [⟨.retryCheck gateway.runId key, answer⟩] ∧ GuardAnswer.Allows answer ∧
            GuardAnswer.receipt? answer = some receipt ∧ ReceiptSucceeded receipt) := by
  unfold settle at settling
  split_ifs at settling with timeout
  · have pending : result.succeeded = false := by rw [ToolResult.succeeded, timeout]; rfl
    obtain ⟨recovered, first, rest, rfl, asked, h⟩ | ⟨e, asked, rfl⟩ := runs_bind.1 settling
    · obtain ⟨answer, rfl, spec⟩ := runs_recover asked pending
      obtain ⟨checks, success⟩ := spec recovered.1 recovered.2 rfl
      obtain ⟨rfl, rfl⟩ := runs_pure.1 h
      refine ⟨List.forall_mem_singleton.2 rfl, ?_⟩
      rintro _ _ ⟨⟩
      refine ⟨checks, fun succeeded => .inr ⟨timeout, answer, ?_⟩⟩
      obtain ⟨allows, receipt, found, status⟩ := success succeeded
      exact ⟨receipt, rfl, allows, found, status⟩
    · obtain ⟨answer, rfl, -⟩ := runs_recover asked pending
      exact ⟨List.forall_mem_singleton.2 rfl, by rintro _ _ ⟨⟩⟩
  · obtain ⟨rfl, rfl⟩ := runs_pure.1 settling
    refine ⟨List.forall_mem_nil _, ?_⟩
    rintro _ _ ⟨⟩
    exact ⟨rfl, fun _ => .inl ⟨rfl, rfl⟩⟩

omit [Python] in
theorem runs_confirm {before : Json} {result : ToolResult} {trace : GuardTrace}
    {r : Except ToolException (ToolResult × GuardTrace)}
    (h : Runs (gateway.confirm action before result trace) log r) :
    Quiet log ∧ ∀ result' trace', r = .ok (result', trace') →
      trace'.checks = trace.checks + countOf ToolQuestion.isCheck log ∧
      (result'.succeeded → gateway.Confirmed before log) := by
  obtain ⟨after, first, rest, rfl, asked, h⟩ | ⟨e, asked, rfl⟩ := runs_bind.1 h
  · obtain ⟨reply, rfl, read⟩ := runs_snapshotOrNone asked
    have read := read _ rfl
    cases after with
    | none =>
      obtain ⟨rfl, rfl⟩ := runs_pure.1 h
      exact ⟨List.forall_mem_singleton.2 rfl, by rintro _ _ ⟨⟩; exact ⟨rfl, nofun⟩⟩
    | some after =>
      obtain ⟨verdict, first, rest, rfl, checked, h⟩ | ⟨e, checked, rfl⟩ := runs_bind.1 h
      · obtain ⟨answer, rfl, judged⟩ := runs_postCheck.1 checked
        have judged := verdictRead_eq_ok judged
        have quiet : Quiet [⟨.get gateway.snapshotPath, reply⟩,
            ⟨.postCheck gateway.runId before after, answer⟩] := by
          rintro _ (_ | ⟨_, _ | ⟨_, ⟨⟩⟩⟩) <;> rfl
        cases verdict with
        | none =>
          obtain ⟨rfl, rfl⟩ := runs_pure.1 h
          exact ⟨quiet, by rintro _ _ ⟨⟩; exact ⟨rfl, nofun⟩⟩
        | some verdict =>
          dsimp only at h
          split_ifs at h with stopped
          · obtain ⟨rfl, rfl⟩ := runs_pure.1 h
            exact ⟨quiet, by rintro _ _ ⟨⟩; exact ⟨rfl, nofun⟩⟩
          · obtain ⟨rfl, rfl⟩ := runs_pure.1 h
            refine ⟨quiet, ?_⟩
            rintro _ _ ⟨⟩
            exact ⟨rfl, fun _ => ⟨reply, after, answer, rfl, read, verdict, judged,
              not_ne_iff.1 stopped⟩⟩
      · obtain ⟨answer, rfl, -⟩ := runs_postCheck.1 checked
        refine ⟨?_, by rintro _ _ ⟨⟩⟩
        rintro _ (_ | ⟨_, _ | ⟨_, ⟨⟩⟩⟩) <;> rfl
  · obtain ⟨reply, rfl, -⟩ := runs_snapshotOrNone asked
    exact ⟨List.forall_mem_singleton.2 rfl, by rintro _ _ ⟨⟩⟩

/-! ## The whole call -/

/-- What the write between its snapshots comes to. -/
structure Written (key : String) (action : SimAction) (trace : GuardTrace) (log : List (Exchange ToolAnswer))
    (r : Except ToolException (ToolResult × GuardTrace)) : Prop where
  checks : ∀ result trace', r = .ok (result, trace') →
    trace'.checks = trace.checks + countOf ToolQuestion.isCheck log
  sent : (Quiet log ∧ ∀ result trace', r = .ok (result, trace') → ¬ result.succeeded) ∨
    ∃ reply sent rest,
      log = ⟨.get gateway.snapshotPath, reply⟩ ::
        ⟨.post gateway.actionsPath action.toHttpPayload, sent⟩ :: rest ∧
      (HttpReply.object? reply).isSome ∧ Quiet rest ∧
      ∀ result trace', r = .ok (result, trace') → result.succeeded →
        ∃ recovery before confirmation, rest = recovery ++ confirmation ∧
          gateway.Received key sent recovery ∧ gateway.Confirmed before confirmation

theorem runs_finish {before : Json} {result : ToolResult} {trace : GuardTrace} {sent : HttpReply}
    (success : result.outcome = .succeeded →
      ∃ receipt, sent.object? = some receipt ∧ ReceiptSucceeded receipt)
    (timeout : result.outcome = .timeout → sent.TimedOut)
    {r : Except ToolException (ToolResult × GuardTrace)}
    (finishing : Runs (gateway.finish action key before result trace) log r) :
    Quiet log ∧ ∀ result' trace', r = .ok (result', trace') →
      trace'.checks = trace.checks + countOf ToolQuestion.isCheck log ∧
      (result'.succeeded → ∃ recovery confirmation, log = recovery ++ confirmation ∧
        gateway.Received key sent recovery ∧ gateway.Confirmed before confirmation) := by
  obtain ⟨settled, first, rest, rfl, settling, h⟩ | ⟨e, settling, rfl⟩ := runs_bind.1 finishing
  · obtain ⟨quiet, spec⟩ := runs_settle settling
    obtain ⟨checks, origin⟩ := spec _ _ rfl
    split_ifs at h with succeeded
    · obtain ⟨quiet', spec'⟩ := runs_confirm h
      refine ⟨List.forall_mem_append.2 ⟨quiet, quiet'⟩, ?_⟩
      rintro result' trace' rfl
      obtain ⟨checks', confirmed⟩ := spec' _ _ rfl
      refine ⟨by rw [checks', checks, countOf_append, add_assoc], fun succeeded' =>
        ⟨first, rest, rfl, ?_, confirmed succeeded'⟩⟩
      rcases origin succeeded with ⟨rfl, same⟩ | ⟨timedOut, answer, receipt, found⟩
      · exact .inl ⟨rfl, success (same ▸ of_decide_eq_true succeeded)⟩
      · exact .inr ⟨timeout timedOut, answer, receipt, found⟩
    · obtain ⟨rfl, rfl⟩ := runs_pure.1 h
      rw [List.append_nil]
      exact ⟨quiet, by rintro _ _ ⟨⟩; exact ⟨checks, fun succeeded' => absurd succeeded' succeeded⟩⟩
  · obtain ⟨quiet, -⟩ := runs_settle settling
    exact ⟨quiet, by rintro _ _ ⟨⟩⟩

theorem runs_perform {trace : GuardTrace} {r : Except ToolException (ToolResult × GuardTrace)}
    (performing : Runs (gateway.perform action key trace) log r) :
    gateway.Written key action trace log r := by
  obtain ⟨before, first, rest, rfl, asked, h⟩ | ⟨e, asked, rfl⟩ := runs_bind.1 performing
  · obtain ⟨reply, rfl, read⟩ := runs_snapshotOrNone asked
    have read := read _ rfl
    cases before with
    | none =>
      obtain ⟨rfl, rfl⟩ := runs_pure.1 h
      exact ⟨by rintro _ _ ⟨⟩; rfl,
        .inl ⟨List.forall_mem_singleton.2 rfl, by rintro _ _ ⟨⟩; nofun⟩⟩
    | some before =>
      have read : (HttpReply.object? reply).isSome := Option.isSome_of_eq_some read
      obtain ⟨result, first, rest, rfl, sending, finishing⟩ | ⟨e, sending, rfl⟩ := runs_bind.1 h
      · obtain ⟨sent, rfl, said⟩ := runs_send sending
        obtain ⟨success, timeout⟩ := said _ rfl
        obtain ⟨quiet, spec⟩ := runs_finish success timeout finishing
        refine ⟨?_, .inr ⟨reply, sent, rest, rfl, read, quiet, ?_⟩⟩
        · rintro result trace' rfl
          rw [(spec _ _ rfl).1, countOf_append, countOf_append, ← add_assoc (countOf _ _),
            ← add_assoc]
          rfl
        · rintro result trace' rfl succeeded
          obtain ⟨recovery, confirmation, split, received, confirmed⟩ := (spec _ _ rfl).2 succeeded
          exact ⟨recovery, before, confirmation, split, received, confirmed⟩
      · obtain ⟨sent, rfl, -⟩ := runs_send sending
        exact ⟨by rintro _ _ ⟨⟩, .inr ⟨reply, sent, [], rfl, read, List.forall_mem_nil _,
          by rintro _ _ ⟨⟩⟩⟩
  · obtain ⟨reply, rfl, -⟩ := runs_snapshotOrNone asked
    exact ⟨by rintro _ _ ⟨⟩, .inl ⟨List.forall_mem_singleton.2 rfl, by rintro _ _ ⟨⟩⟩⟩

/-- What a write comes to that has no receipt. -/
structure Checked (key : String) (action : SimAction) (trace : GuardTrace)
    (log : List (Exchange ToolAnswer)) (r : Except ToolException (ToolResult × GuardTrace)) :
    Prop where
  checks : ∀ result trace', r = .ok (result, trace') →
    trace'.checks = trace.checks + countOf ToolQuestion.isCheck log
  sent : (Quiet log ∧ ∀ result trace', r = .ok (result, trace') → ¬ result.succeeded) ∨
    ∃ check reply sent rest,
      log = ⟨.preCheck gateway.runId action, check⟩ :: ⟨.get gateway.snapshotPath, reply⟩ ::
        ⟨.post gateway.actionsPath action.toHttpPayload, sent⟩ :: rest ∧
      GuardAnswer.Allows check ∧ (HttpReply.object? reply).isSome ∧ Quiet rest ∧
      ∀ result trace', r = .ok (result, trace') → result.succeeded →
        ∃ recovery before confirmation, rest = recovery ++ confirmation ∧
          gateway.Received key sent recovery ∧ gateway.Confirmed before confirmation

theorem runs_checkedDispatch {trace : GuardTrace}
    {r : Except ToolException (ToolResult × GuardTrace)}
    (dispatching : Runs (gateway.checkedDispatch action key trace) log r) :
    gateway.Checked key action trace log r := by
  obtain ⟨verdict, first, rest, rfl, asked, h⟩ | ⟨e, asked, rfl⟩ := runs_bind.1 dispatching
  · obtain ⟨check, rfl, read⟩ := runs_preCheck.1 asked
    have read := verdictRead_eq_ok read
    have noted := refusal_checks verdict action trace.counted
    cases refused : (refusal verdict action trace.counted).1 with
    | some result =>
      simp only [refused] at h
      obtain ⟨rfl, rfl⟩ := runs_pure.1 h
      refine ⟨by rintro _ _ ⟨⟩; exact noted, .inl ⟨List.forall_mem_singleton.2 rfl, ?_⟩⟩
      rintro _ _ ⟨⟩
      exact ne_true_of_eq_false (refusal_eq_some refused)
    | none =>
      simp only [refused] at h
      obtain ⟨allowed, rfl, allows⟩ := refusal_eq_none refused
      obtain ⟨checks, sent⟩ := runs_perform h
      constructor
      · intro result trace' same
        rw [checks result trace' same, noted, countOf_append, ← add_assoc]
        rfl
      · rcases sent with ⟨quiet, failed⟩ | ⟨reply, sent, rest, rfl, readable, quiet, success⟩
        · exact .inl ⟨List.forall_mem_cons.2 ⟨rfl, quiet⟩, failed⟩
        · exact .inr ⟨check, reply, sent, rest, rfl, ⟨allowed, read, allows⟩, readable, quiet,
            success⟩
  · obtain ⟨check, rfl, -⟩ := runs_preCheck.1 asked
    exact ⟨by rintro _ _ ⟨⟩, .inl ⟨List.forall_mem_singleton.2 rfl, by rintro _ _ ⟨⟩⟩⟩

/-- What a guarded dispatch comes to. -/
structure Guarded (key : String) (action : SimAction) (log : List (Exchange ToolAnswer))
    (r : Except ToolException (ToolResult × GuardTrace)) : Prop where
  checks : ∀ result trace', r = .ok (result, trace') →
    trace'.checks = countOf ToolQuestion.isCheck log
  sent : (Quiet log ∧ ∀ result trace', r = .ok (result, trace') → result.succeeded →
      gateway.Replayed key log) ∨
    ∃ cleared sent rest,
      log = cleared ++ ⟨.post gateway.actionsPath action.toHttpPayload, sent⟩ :: rest ∧
      gateway.Cleared key action cleared ∧ Quiet rest ∧
      ∀ result trace', r = .ok (result, trace') → result.succeeded →
        ∃ recovery before confirmation, rest = recovery ++ confirmation ∧
          gateway.Received key sent recovery ∧ gateway.Confirmed before confirmation

theorem runs_guardedDispatch {r : Except ToolException (ToolResult × GuardTrace)}
    (dispatching : Runs (gateway.guardedDispatch action key {}) log r) :
    gateway.Guarded key action log r := by
  obtain ⟨existing, first, rest, rfl, asked, h⟩ | ⟨e, asked, rfl⟩ := runs_bind.1 dispatching
  · obtain ⟨retry, rfl, read⟩ := runs_retryCheck.1 asked
    have read := verdictRead_eq_ok read
    have quiet : Quiet [⟨.retryCheck gateway.runId key, retry⟩] := List.forall_mem_singleton.2 rfl
    cases existing with
    | none =>
      obtain ⟨rfl, rfl⟩ := runs_pure.1 h
      exact ⟨by rintro _ _ ⟨⟩; rfl, .inl ⟨quiet, by rintro _ _ ⟨⟩; nofun⟩⟩
    | some existing =>
      dsimp only at h
      split_ifs at h with stopped
      · obtain ⟨rfl, rfl⟩ := runs_pure.1 h
        exact ⟨by rintro _ _ ⟨⟩; rfl, .inl ⟨quiet, by rintro _ _ ⟨⟩; nofun⟩⟩
      · have allows : GuardAnswer.Allows retry := ⟨existing, read, not_ne_iff.1 stopped⟩
        have receipt : GuardAnswer.receipt? retry = existing.cachedReceipt := by
          rw [GuardAnswer.receipt?, read]
          rfl
        cases cached : existing.cachedReceipt with
        | some receipt =>
          simp only [cached] at h
          obtain ⟨rfl, rfl⟩ := runs_pure.1 h
          refine ⟨by rintro _ _ ⟨⟩; rfl, .inl ⟨quiet, ?_⟩⟩
          rintro _ _ ⟨⟩ succeeded
          exact ⟨retry, receipt, rfl, allows, ‹_ = existing.cachedReceipt›.trans cached,
            succeeded_fromReceipt.1 succeeded⟩
        | none =>
          simp only [cached] at h
          obtain ⟨checks, sent⟩ := runs_checkedDispatch h
          constructor
          · intro result trace' same
            rw [checks result trace' same, countOf_append]
            rfl
          · rcases sent with ⟨quiet', failed⟩ |
              ⟨check, reply, sent, rest, rfl, allows', readable, quiet', success⟩
            · exact .inl ⟨List.forall_mem_cons.2 ⟨rfl, quiet'⟩,
                fun result trace' same succeeded => absurd succeeded (failed result trace' same)⟩
            · exact .inr ⟨_, sent, rest, rfl, ⟨retry, check, reply, rfl, allows,
                receipt.trans cached, allows', readable⟩, quiet', success⟩
  · obtain ⟨retry, rfl, -⟩ := runs_retryCheck.1 asked
    exact ⟨by rintro _ _ ⟨⟩, .inl ⟨List.forall_mem_singleton.2 rfl, by rintro _ _ ⟨⟩⟩⟩

omit [Python] in
theorem Cleared.quiet {cleared : List (Exchange ToolAnswer)}
    (h : gateway.Cleared key action cleared) : Quiet cleared := by
  obtain ⟨retry, check, reply, rfl, -⟩ := h
  rintro _ (_ | ⟨_, _ | ⟨_, _ | ⟨_, ⟨⟩⟩⟩⟩) <;> rfl

omit [Python] in
/-- A guarded dispatch fails closed, with any record of the call. -/
theorem Guarded.failClosed {r : Except ToolException (ToolResult × GuardTrace)}
    (h : gateway.Guarded key action log r) {calls : List ToolCallRecord}
    {outcome : Except ToolException (ToolResult × List ToolCallRecord)}
    (recorded : ∀ result calls', outcome = .ok (result, calls') → ∃ trace record,
      r = .ok (result, trace) ∧ calls' = calls ++ [record] ∧ record.outcome = result.outcome ∧
        record.guardChecks = trace.checks) :
    gateway.FailClosed key action calls log outcome := by
  obtain ⟨checks, sent⟩ := h
  have recorded' : ∀ result calls', outcome = .ok (result, calls') → ∃ record,
      calls' = calls ++ [record] ∧ record.outcome = result.outcome ∧
        record.guardChecks = countOf ToolQuestion.isCheck log := by
    intro result calls' same
    obtain ⟨trace, record, same, extended, said, counted⟩ := recorded result calls' same
    exact ⟨record, extended, said, counted.trans (checks result trace same)⟩
  rcases sent with ⟨quiet, replayed⟩ | ⟨cleared, sent, rest, rfl, clear, quiet, success⟩
  · refine ⟨quiet.countOf_eq_zero.trans_le zero_le_one, ?_, ?_, recorded'⟩
    · rintro before path payload reply after rfl
      cases quiet _ (List.mem_append_right _ List.mem_cons_self)
    · intro result calls' same succeeded
      obtain ⟨trace, -, same, -⟩ := recorded result calls' same
      exact .inl (replayed result trace same succeeded)
  · refine ⟨?_, ?_, ?_, recorded'⟩
    · rw [countOf_append, clear.quiet.countOf_eq_zero, zero_add]
      exact (List.countP_cons_of_pos rfl).trans_le (by
        rw [← countOf, quiet.countOf_eq_zero])
    · intro before path payload reply after same
      rw [clear.quiet.append_inj quiet same]
      exact clear
    · intro result calls' same succeeded
      obtain ⟨trace, -, same, -⟩ := recorded result calls' same
      obtain ⟨recovery, before, confirmation, rfl, received, confirmed⟩ :=
        success result trace same succeeded
      exact .inr ⟨cleared, sent, recovery, before, confirmation, rfl, clear, received, confirmed⟩

/-- A guarded call of a write fails closed. -/
theorem call_failClosed (guarded : gateway.guarded) (write : writes action)
    {calls : List ToolCallRecord}
    {outcome : Except ToolException (ToolResult × List ToolCallRecord)}
    (calling : Runs (gateway.call action calls) log outcome) :
    gateway.FailClosed (action.idempotencyKey.getD "") action calls log outcome := by
  unfold call at calling
  split_ifs at calling with keyless
  · obtain ⟨rfl, rfl⟩ := runs_raise.1 calling
    exact ⟨zero_le_one, fun before _ _ _ _ h => absurd h.symm (List.append_ne_nil_of_right_ne_nil
      before (List.cons_ne_nil _ _)), by rintro _ _ ⟨⟩, by rintro _ _ ⟨⟩⟩
  · obtain ⟨key, keyed⟩ : ∃ key, action.idempotencyKey = some key := by
      cases keyed : action.idempotencyKey with
      | none => exact absurd ⟨write, by rw [keyed]; rfl⟩ keyless
      | some key => exact ⟨key, rfl⟩
    have dispatched : gateway.dispatch action (writes action) {} =
        gateway.guardedDispatch action key {} := by
      rw [dispatch, if_neg (by rw [guarded, write]; decide), keyed]
    rw [keyed, Option.getD_some]
    rw [dispatched] at calling
    obtain ⟨result, first, rest, rfl, dispatching, h⟩ | ⟨e, dispatching, rfl⟩ :=
      runs_bind.1 calling
    · obtain ⟨rfl, rfl⟩ := runs_pure.1 h
      rw [List.append_nil]
      refine (runs_guardedDispatch dispatching).failClosed ?_
      rintro _ _ ⟨⟩
      exact ⟨result.2, _, rfl, rfl, rfl, rfl⟩
    · exact (runs_guardedDispatch dispatching).failClosed (by rintro _ _ ⟨⟩)

end ToolGateway

end Runs

/-- A sandbox that carries out what it is sent, behind a guard that allows everything. -/
def allowing : Environment ToolAnswer
  | _, .get _ => .response 200 (some (.obj []))
  | _, .post .. => .response 200 (some (.obj [("status", .str "SUCCEEDED")]))
  | _, .retryCheck .. | _, .preCheck .. | _, .postCheck .. =>
    .object { decision := some "allow", reasonCode := some "RETRY_SAFE" }

/-- The refund of an order, under a key. -/
def keyedRefund : SimAction where
  actionType := .refundOrder
  targetId := some "order-1"
  arguments := [("amount", .str "10.00")]
  idempotencyKey := some "ticket-1:refund:1"

theorem ToolGateway.call_failClosed_allowing :
    let _ := Python.transparent
    let _ := UnicodeTables.ascii
    ToolGateway.FailClosed ⟨"run-1", true⟩ "ticket-1:refund:1" keyedRefund []
      ((ToolGateway.call ⟨"run-1", true⟩ keyedRefund []).exchanges allowing [])
      ((ToolGateway.call ⟨"run-1", true⟩ keyedRefund []).outcome allowing []) := by
  let _ := Python.transparent
  let _ := UnicodeTables.ascii
  have write : ToolGateway.writes keyedRefund := rfl
  exact ToolGateway.call_failClosed rfl write (runs_environment allowing _ [])

/-- It is a success there, of one POST. -/
example :
    let _ := Python.transparent
    let _ := UnicodeTables.ascii
    let call := ToolGateway.call ⟨"run-1", true⟩ keyedRefund []
    countOf ToolQuestion.isPost (call.exchanges allowing []) = 1 ∧
      (call.outcome allowing []).toOption.map (·.1.outcome) = some .succeeded := by
  decide +kernel

end RuleArena
