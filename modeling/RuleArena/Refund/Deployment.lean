import RuleArena.Foundation.Served
import RuleArena.Refund.FailClosed
import RuleArena.Refund.PostCheck
import RuleArena.Sandbox.App

/-!
# The gateway and the sandbox together

A deployment is a run of the sandbox that answers a gateway and its guard over HTTP.
A request can fail on its way in, and its response on the way out; a write of which
the client does not hear may have been executed all the same, or, if there are delays,
still be executed later (`Deployment.Posts`). Other clients may send commands at any
time (`Deployment.Moves`). The guard is the runtime gate, which reads receipts and
snapshots of the same run (`Deployment.Answers`).

Whatever happens, the run goes on by executed commands alone, so that it stays
reachable and keeps what commands keep (`Traffic.service_keeps`). One of the deployments
answers at once (`Deployment.prompt`), and what a gateway hears of it can be computed
(`Deployment.serving`).
-/

namespace RuleArena

open Interaction

/-! ## What the gate answers -/

def GateDecisionType.value : GateDecisionType → String
  | allow => "ALLOW"
  | block => "BLOCK"
  | unknown => "UNKNOWN"

def GateReason.value : GateReason → String
  | notARefundWrite => "NOT_A_REFUND_WRITE"
  | withinRefundBudget => "WITHIN_REFUND_BUDGET"
  | refundBudgetExceeded => "REFUND_BUDGET_EXCEEDED"
  | orderNotRefundable => "ORDER_NOT_REFUNDABLE"
  | orderNotFound => "ORDER_NOT_FOUND"
  | refundAmountUnreadable => "REFUND_AMOUNT_UNREADABLE"
  | snapshotUnavailable => "SNAPSHOT_UNAVAILABLE"
  | snapshotUnreadable => "SNAPSHOT_UNREADABLE"
  | effectObserved => "EFFECT_OBSERVED"
  | effectNotObserved => "EFFECT_NOT_OBSERVED"
  | staleView => "STALE_VIEW"

/-- A decision as an object. -/
def GateDecision.toObject (decision : GateDecision) : GuardObject where
  decision := some decision.decision.value
  reasonCode := some decision.reasonCode.value
  detail := decision.detail

/-- An action as the gate reads it. -/
def GateAction.ofSim (action : SimAction) : GateAction where
  actionType := action.actionType
  targetId := action.targetId
  arguments := action.arguments.map fun argument => (argument.1, argument.2.toJson)

/-- The exception of a request, if it raised one that the client does not expect. -/
def HttpReply.raised? : HttpReply → Option ToolException
  | raised e => some e
  | _ => none

namespace RuntimeGate

/-- The decision that a receipt could not be looked up. -/
def lookupFailed (key : String) (cause : String × Json) : GuardAnswer :=
  .object {
    decision := some "UNKNOWN", reasonCode := some "RECEIPT_LOOKUP_FAILED"
    detail := [("idempotency_key", .str key), cause] }

/-- `retry_check`, with what comes of the lookup of the receipt. -/
def retryCheck (key : String) : HttpReply → GuardAnswer
  | .response status body =>
    if status = 404 then
      .object {
        decision := some "ALLOW", reasonCode := some "RETRY_SAFE"
        detail := [("idempotency_key", .str key)] }
    else if status ≠ 200 then lookupFailed key ("status_code", .int status)
    else
      match body.filter Json.isObj with
      | some receipt =>
        .object {
          decision := some "ALLOW", reasonCode := some "CACHED_RECEIPT"
          detail := [("idempotency_key", .str key)], cachedReceipt := some receipt }
      | none => lookupFailed key ("error", .str "unparseable receipt body")
  | .timeout name | .httpError name => lookupFailed key ("error", .str name)
  | .raised e => .raised e

/-- What the gate answers before a write, with what comes of the request for the snapshot. -/
def answerBefore (runId : String) (action : SimAction) (reply : HttpReply) : GuardAnswer :=
  match preCheck reply.object? runId (.ofSim action) with
  | .ok decision => .object decision.toObject
  | .error e => .raised e

/-- What the gate answers after a write, with what comes of the request for the snapshot. -/
def answerAfter (runId : String) (before after : Json) (reply : HttpReply) : GuardAnswer :=
  .object (postCheck reply.object? runId before after).toObject

end RuntimeGate

/-! ## Deployments -/

/-- A run of the sandbox, and the writes that clients have given up waiting for and that may still
    be executed, each of them any number of times. -/
structure Deployment where
  run : RunSpace
  late : List ActionCommand := []

/-- What may happen besides a call: the commands that other clients send, and whether a write may
    be executed after its client has stopped waiting. -/
structure Traffic where
  others : ActionCommand → Prop
  delays : Prop

/-- The client does not hear of the service: what comes back is no response, or an error of a
    server. -/
def HttpReply.Lost : HttpReply → Prop
  | response status _ => 500 ≤ status
  | _ => True

/-- The response of the application, as it comes back. -/
def HttpResponse.reply (response : HttpResponse) : HttpReply :=
  .response response.status response.body

theorem object?_eq_some {reply : HttpReply} {body : Json} (h : reply.object? = some body) :
    reply = .response 200 (some body) := by
  unfold HttpReply.object? at h
  split at h
  · split_ifs at h with ok
    obtain ⟨rfl, -⟩ := Option.filter_eq_some_iff.1 h
    rw [ok]
  · cases h

namespace Deployment

variable [Python]

/-- The deployment after a command. -/
def executed (deployment : Deployment) (command : ActionCommand) (now : Nat) (uuid : String) :
    Deployment :=
  { deployment with run := (deployment.run.execute command now uuid).1 }

/-- A command of another client is executed, or one that is late. -/
inductive Moves (traffic : Traffic) : Deployment → Deployment → Prop
  | arrives {deployment : Deployment} {command : ActionCommand} {now : Nat} {uuid : String}
      (sent : traffic.others command ∨ command ∈ deployment.late) :
      Moves traffic deployment (deployment.executed command now uuid)

/-- What may become of a POST. -/
inductive Posts (traffic : Traffic) (deployment : Deployment) (body : Json) :
    HttpReply → Deployment → Prop
  /-- The application answers. -/
  | answered {complaints : List Json} {now : Nat} {uuid : String} :
      Posts traffic deployment body
        (deployment.run.executeAction complaints body now uuid).2.reply
        { deployment with run := (deployment.run.executeAction complaints body now uuid).1 }
  /-- The request is refused before it reaches the service. -/
  | refused {status : Nat} {content : Option Json} (refusal : status ≠ 200 ∧ status < 500) :
      Posts traffic deployment body (.response status content) deployment
  /-- The request is lost. -/
  | dropped {reply : HttpReply} (lost : reply.Lost) : Posts traffic deployment body reply deployment
  /-- The response is lost. -/
  | unacknowledged {reply : HttpReply} (lost : reply.Lost) {complaints : List Json} {now : Nat}
      {uuid : String} :
      Posts traffic deployment body reply
        { deployment with run := (deployment.run.executeAction complaints body now uuid).1 }
  /-- The request takes longer than the client waits. -/
  | delayed {reply : HttpReply} (lost : reply.Lost) (delays : traffic.delays)
      {command : ActionCommand} (sent : ActionCommand.ofJson? body = some command) :
      Posts traffic deployment body reply { deployment with late := command :: deployment.late }

/-- What may become of the lookup of a receipt. -/
inductive Looks (deployment : Deployment) (key : String) : HttpReply → Prop
  | answered : Looks deployment key (deployment.run.showReceipt key).reply
  | failed {reply : HttpReply} (failed : ∀ status body, reply = .response status body →
      status ∉ [200, 404]) : Looks deployment key reply

/-- What may become of the request for a snapshot. -/
inductive Shows (deployment : Deployment) : HttpReply → Prop
  | answered {now : Nat} : Shows deployment (deployment.run.showSnapshot now).reply
  | failed {reply : HttpReply} (failed : ∀ status body, reply = .response status body →
      status ≠ 200) : Shows deployment reply

/-- What a gateway and its guard are answered, and what becomes of the deployment. -/
def Answers (traffic : Traffic) (deployment : Deployment) :
    Exchange ToolAnswer → Deployment → Prop
  | ⟨.get path, reply⟩, after =>
    path = "/internal/runs/" ++ deployment.run.id ++ "/snapshot" ∧ deployment.Shows reply ∧
      after = deployment
  | ⟨.post path body, reply⟩, after =>
    path = "/internal/runs/" ++ deployment.run.id ++ "/actions" ∧
      deployment.Posts traffic body reply after
  | ⟨.retryCheck runId key, answer⟩, after =>
    runId = deployment.run.id ∧ after = deployment ∧
      ∃ reply, deployment.Looks key reply ∧ answer = RuntimeGate.retryCheck key reply
  | ⟨.preCheck runId action, answer⟩, after =>
    runId = deployment.run.id ∧ after = deployment ∧ ∃ reply, deployment.Shows reply ∧
      (answer = RuntimeGate.answerBefore runId action reply ∨
        ∃ e, reply.raised? = some e ∧ answer = .raised e)
  | ⟨.postCheck runId first second, answer⟩, after =>
    runId = deployment.run.id ∧ after = deployment ∧ ∃ reply, deployment.Shows reply ∧
      (answer = RuntimeGate.answerAfter runId first second reply ∨
        ∃ e, reply.raised? = some e ∧ answer = .raised e)

end Deployment

/-- The deployments with some traffic. -/
def Traffic.service [Python] (traffic : Traffic) : Service ToolAnswer Deployment :=
  Service.moving (Deployment.Moves traffic) (Deployment.Answers traffic)

/-- The deployment that answers at once: no request and no response is lost, and there are no other
    clients. The clock and new identifiers are read off the run. -/
def Deployment.prompt [Python] (clock : RunSpace → Nat) (uuid : RunSpace → String)
    (deployment : Deployment) :
    (question : ToolQuestion) → Option (ToolAnswer question × Deployment)
  | .get path =>
    if path = "/internal/runs/" ++ deployment.run.id ++ "/snapshot" then
      some ((deployment.run.showSnapshot (clock deployment.run)).reply, deployment)
    else none
  | .post path body =>
    if path = "/internal/runs/" ++ deployment.run.id ++ "/actions" then
      let executed := deployment.run.executeAction [] body (clock deployment.run)
        (uuid deployment.run)
      some (executed.2.reply, { deployment with run := executed.1 })
    else none
  | .retryCheck runId key =>
    if runId = deployment.run.id then
      some (RuntimeGate.retryCheck key (deployment.run.showReceipt key).reply, deployment)
    else none
  | .preCheck runId action =>
    if runId = deployment.run.id then
      some (RuntimeGate.answerBefore runId action
        (deployment.run.showSnapshot (clock deployment.run)).reply, deployment)
    else none
  | .postCheck runId before after =>
    if runId = deployment.run.id then
      some (RuntimeGate.answerAfter runId before after
        (deployment.run.showSnapshot (clock deployment.run)).reply, deployment)
    else none

/-- It is one of the deployments with any traffic. -/
theorem Deployment.prompt_service [Python] (traffic : Traffic) {clock : RunSpace → Nat}
    {uuid : RunSpace → String} (deployment : Deployment) (question : ToolQuestion)
    (answer : ToolAnswer question) (after : Deployment)
    (prompt : deployment.prompt clock uuid question = some (answer, after)) :
    traffic.service deployment ⟨question, answer⟩ after := by
  refine ⟨deployment, .refl, ?_⟩
  cases question with
  | get path =>
    obtain ⟨own, same⟩ := Option.ite_none_right_eq_some.1 prompt
    obtain ⟨rfl, rfl⟩ := Prod.mk.inj (Option.some.inj same)
    exact ⟨own, .answered, rfl⟩
  | post path body =>
    obtain ⟨own, same⟩ := Option.ite_none_right_eq_some.1 prompt
    obtain ⟨rfl, rfl⟩ := Prod.mk.inj (Option.some.inj same)
    exact ⟨own, .answered⟩
  | retryCheck runId key =>
    obtain ⟨own, same⟩ := Option.ite_none_right_eq_some.1 prompt
    obtain ⟨rfl, rfl⟩ := Prod.mk.inj (Option.some.inj same)
    exact ⟨own, rfl, _, .answered, rfl⟩
  | preCheck runId action | postCheck runId before final =>
    obtain ⟨own, same⟩ := Option.ite_none_right_eq_some.1 prompt
    obtain ⟨rfl, rfl⟩ := Prod.mk.inj (Option.some.inj same)
    exact ⟨own, rfl, _, .answered, .inl rfl⟩

/-! ## What is sent -/

/-- The command of a payload is the action. -/
theorem SimAction.command_of_payload {action : SimAction} {command : ActionCommand}
    (read : ActionCommand.ofJson? action.toHttpPayload = some command) :
    command.action = action.actionType ∧ command.targetId = action.targetId ∧
      command.idempotencyKey = action.idempotencyKey ∧
      command.arguments =
        (argumentDict action.arguments).map fun entry => (entry.1, entry.2.toJson) := by
  have fields : ActionCommand.ofJson? action.toHttpPayload =
      ActionCommand.ofFields action.actionType action.actorId action.targetId
        ((argumentDict action.arguments).map fun entry => (entry.1, entry.2.toJson))
        action.idempotencyKey := by
    simp [ActionCommand.ofJson?, toHttpPayload, ActionCommand.fieldNames, List.lookup,
      ActionCommand.textField, ActionCommand.argumentsField,
      ActionCommand.optionalField_optionText]
  obtain ⟨same, -, target, arguments, key⟩ := ActionCommand.of_ofFields (fields ▸ read)
  exact ⟨same, target, key, arguments⟩

/-! ## What is kept -/

namespace RunSpace

variable [Python] {run : RunSpace} {command : ActionCommand} {key : String}

/-- A receipt that comes back is the one of the action and the key. -/
theorem receipt_of_execute {now : Nat} {uuid : String} {receipt : ActionReceipt}
    (keyed : command.idempotencyKey = some key)
    (answered : (run.execute command now uuid).2 = .receipt receipt) :
    ∃ record, (run.execute command now uuid).1.existing command.action key = some record ∧
      receipt = record.toReceipt run.id := by
  have effective : effectiveKey command uuid = key := by
    rw [effectiveKey, keyed]
    rfl
  -- A receipt that is acknowledged is that of the record.
  have acknowledged {record : ActionReceiptRecord}
      (h : run.acknowledge command record = .receipt receipt) :
      receipt = record.toReceipt run.id := by
    unfold acknowledge at h
    split_ifs at h
    exact (Reply.receipt.inj h).symm
  unfold execute at answered ⊢
  rw [effective] at answered ⊢
  have keyless : ¬ (command.requiresIdempotencyKey = true ∧ command.idempotencyKey = none) := by
    rw [keyed]
    exact fun h => Option.some_ne_none _ h.2
  rw [if_neg keyless] at answered ⊢
  dsimp only at answered ⊢
  split_ifs at answered ⊢ with unreadable
  cases existing : run.existing command.action key with
  | some record =>
    simp only [existing] at answered ⊢
    exact ⟨record, rfl, acknowledged answered⟩
  | none =>
    simp only [existing] at answered ⊢
    cases performed : run.perform command key now with
    | ok result =>
      simp only [performed] at answered ⊢
      exact ⟨result.2, existing_perform existing performed, acknowledged answered⟩
    | error fault =>
      cases fault with
      | domain error =>
        simp only [performed] at answered
        cases answered
      | crash crash =>
        simp only [performed] at answered
        cases answered

/-- The run is served under its own name. -/
theorem execute_id (run : RunSpace) (command : ActionCommand) (now : Nat) (uuid : String) :
    (run.execute command now uuid).1.id = run.id :=
  (created_apply run (.execute command uuid now)).1

/-- A body is a command that is executed, or changes nothing. -/
theorem executeAction_cases (run : RunSpace) (complaints : List Json) (body : Json) (now : Nat)
    (uuid : String) :
    (∃ command, ActionCommand.ofJson? body = some command ∧
      run.executeAction complaints body now uuid =
        ((run.execute command now uuid).1, (run.execute command now uuid).2.toHttp)) ∨
    (run.executeAction complaints body now uuid).1 = run ∧
      (run.executeAction complaints body now uuid).2.status = 422 := by
  unfold executeAction
  cases read : ActionCommand.ofJson? body with
  | some command => exact .inl ⟨command, rfl, rfl⟩
  | none => exact .inr ⟨rfl, rfl⟩

end RunSpace

namespace Deployment

variable [Python] {traffic : Traffic} {d d' : Deployment}

/-- A POST is executed, or it changes nothing but what may be executed later. -/
theorem Posts.cases {body : Json} {reply : HttpReply} (posts : d.Posts traffic body reply d') :
    d' = d ∨ ∃ command, ActionCommand.ofJson? body = some command ∧
      ((∃ now uuid, d' = d.executed command now uuid) ∨
        traffic.delays ∧ d' = { d with late := command :: d.late }) := by
  have execution (complaints : List Json) (now : Nat) (uuid : String) :
      ({ d with run := (d.run.executeAction complaints body now uuid).1 } : Deployment) = d ∨
        ∃ command, ActionCommand.ofJson? body = some command ∧
          { d with run := (d.run.executeAction complaints body now uuid).1 } =
            d.executed command now uuid := by
    rcases d.run.executeAction_cases complaints body now uuid with ⟨command, read, same⟩ | ⟨same, -⟩
    · exact .inr ⟨command, read, by rw [same, executed]⟩
    · exact .inl (by rw [same])
  cases posts with
  | @answered complaints now uuid =>
    exact (execution complaints now uuid).imp_right fun ⟨command, read, same⟩ =>
      ⟨command, read, .inl ⟨now, uuid, same⟩⟩
  | refused _ => exact .inl rfl
  | dropped _ => exact .inl rfl
  | @unacknowledged _ _ complaints now uuid =>
    exact (execution complaints now uuid).imp_right fun ⟨command, read, same⟩ =>
      ⟨command, read, .inl ⟨now, uuid, same⟩⟩
  | delayed _ delays read => exact .inr ⟨_, read, .inr ⟨delays, rfl⟩⟩

/-- Only a POST can change a deployment. -/
theorem Answers.unchanged {exchange : Exchange ToolAnswer}
    (quiet : ToolQuestion.isPost exchange.1 = false) (answers : d.Answers traffic exchange d') :
    d' = d := by
  obtain ⟨question, answer⟩ := exchange
  cases question with
  | get path => exact answers.2.2
  | post path body => cases quiet
  | retryCheck _ _ | preCheck _ _ | postCheck _ _ _ => exact answers.2.1

/-- What commands keep all that is answered keeps. -/
theorem Answers.keeps {I : RunSpace → Prop} {exchange : Exchange ToolAnswer}
    (kept : ∀ run command now uuid, I run → I (run.execute command now uuid).1)
    (answers : d.Answers traffic exchange d') (h : I d.run) : I d'.run := by
  obtain ⟨question, answer⟩ := exchange
  cases question with
  | get path =>
    obtain ⟨-, -, rfl⟩ := answers
    exact h
  | post path body =>
    obtain rfl | ⟨command, -, ⟨now, uuid, rfl⟩ | ⟨-, rfl⟩⟩ := answers.2.cases
    · exact h
    · exact kept d.run command now uuid h
    · exact h
  | retryCheck runId key | preCheck runId action | postCheck runId first second =>
    obtain ⟨-, rfl, -⟩ := answers
    exact h

theorem Moves.keeps {I : RunSpace → Prop}
    (kept : ∀ run command now uuid, I run → I (run.execute command now uuid).1)
    (moves : Moves traffic d d') (h : I d.run) : I d'.run := by
  cases moves with
  | arrives _ => exact kept d.run _ _ _ h

end Deployment

/-- What commands keep is kept by every exchange. -/
theorem Traffic.service_keeps [Python] {traffic : Traffic} {I : RunSpace → Prop}
    (kept : ∀ run command now uuid, I run → I (run.execute command now uuid).1)
    {exchange : Exchange ToolAnswer} {d d' : Deployment}
    (served : traffic.service d exchange d') (h : I d.run) : I d'.run := by
  obtain ⟨w₁, h₁, answers⟩ := Service.moving_keeps (I := fun d : Deployment => I d.run)
    (fun _ _ moves => moves.keeps kept) served h
  exact answers.keeps kept h₁

/-- The run of a deployment stays reachable. -/
theorem Traffic.service_reachable [Python] {traffic : Traffic} {exchange : Exchange ToolAnswer}
    {d d' : Deployment} (served : traffic.service d exchange d') (reachable : d.run.Reachable) :
    d'.run.Reachable :=
  Traffic.service_keeps (I := RunSpace.Reachable)
    (fun _ command now uuid h => h.apply (.execute command uuid now)) served reachable

/-! ## Calls -/

namespace ToolGateway

variable [Python] [UnicodeTables] {W : Type} {service : Service ToolAnswer W} {w w' : W}
  {gateway : ToolGateway} {action : SimAction}

/-- A call comes down to its dispatch, unless it is refused for want of a key. -/
theorem served_call {calls : List ToolCallRecord}
    {outcome : Except ToolException (ToolResult × List ToolCallRecord)}
    (served : Served service w (gateway.call action calls) w' outcome) :
    (w' = w ∧ ∃ e, outcome = .error e) ∨
      ¬ (writes action ∧ action.idempotencyKey.getD "" = "") ∧
        ∃ r, Served service w (gateway.dispatch action (writes action) {}) w' r ∧
          ∀ result calls', outcome = .ok (result, calls') → ∃ trace, r = .ok (result, trace) := by
  unfold call at served
  split_ifs at served with keyless
  · obtain ⟨rfl, rfl⟩ := served_raise.1 served
    exact .inl ⟨rfl, _, rfl⟩
  · refine .inr ⟨keyless, ?_⟩
    obtain ⟨dispatched, w₁, first, recorded⟩ | ⟨e, failed, rfl⟩ := served_bind.1 served
    · obtain ⟨rfl, rfl⟩ := served_pure.1 recorded
      refine ⟨_, first, fun result calls' same => ⟨dispatched.2, ?_⟩⟩
      obtain ⟨rfl, -⟩ := Prod.mk.inj (Except.ok.inj same)
      rfl
    · exact ⟨_, failed, fun _ _ same => by cases same⟩

/-- A dispatch without a guard comes down to the POST. -/
theorem runs_dispatch_bare {log : List (Exchange ToolAnswer)} {write : Bool}
    {r : Except ToolException (ToolResult × GuardTrace)} (bare : ¬ gateway.guarded ∨ ¬ write)
    (dispatching : Runs (gateway.dispatch action write {}) log r) :
    ∃ r', Runs (gateway.send action) log r' ∧
      ∀ result trace, r = .ok (result, trace) → r' = .ok result := by
  rw [dispatch, if_pos bare] at dispatching
  obtain ⟨sent, first, rest, rfl, sending, returned⟩ | ⟨e, sending, rfl⟩ := runs_bind.1 dispatching
  · obtain ⟨rfl, rfl⟩ := runs_pure.1 returned
    rw [List.append_nil]
    refine ⟨_, sending, fun result trace same => ?_⟩
    obtain ⟨rfl, -⟩ := Prod.mk.inj (Except.ok.inj same)
    rfl
  · exact ⟨_, sending, fun _ _ same => by cases same⟩

/-- A guarded write is dispatched under its key. -/
theorem dispatch_guarded {key : String} (guarded : gateway.guarded) (write : writes action)
    (keyed : action.idempotencyKey = some key) :
    gateway.dispatch action (writes action) {} = gateway.guardedDispatch action key {} := by
  rw [dispatch, if_neg (by rw [guarded, write]; decide), keyed]

end ToolGateway

/-! ## A deployment that answers at once -/

namespace Deployment

variable [Python] (clock : RunSpace → Nat) (uuid : RunSpace → String) (d : Deployment)

/-- What comes of a computation when the deployment answers at once. -/
def serving {α : Type} (x : ToolRun α) : Option (Deployment × Except ToolException α) :=
  serve (fun d => d.prompt clock uuid) d x

/-- The response to an action. -/
def response (action : SimAction) : RunSpace × HttpResponse :=
  d.run.executeAction [] action.toHttpPayload (clock d.run) (uuid d.run)

/-- The deployment after an action. -/
def posted (action : SimAction) : Deployment :=
  { d with run := (d.response clock uuid action).1 }

/-- What a gateway makes of the response. -/
def result (action : SimAction) : ToolResult :=
  interpret (d.response clock uuid action).2.status (d.response clock uuid action).2.body action

end Deployment

section Questions

variable [Python] [UnicodeTables] {clock : RunSpace → Nat} {uuid : RunSpace → String}
  {d : Deployment} {gateway : ToolGateway} {action : SimAction}
  (bound : gateway.runId = d.run.id)

omit [Python] in
theorem readVerdict_toObject
    (upper : ∀ decision : GateDecisionType, UnicodeTables.upper decision.value = decision.value)
    (decision : GateDecision) :
    readVerdict decision.toObject =
      some { decision := decision.decision.value, reasonCode := decision.reasonCode.value } := by
  simp only [readVerdict, GateDecision.toObject, upper]
  rfl

include bound

omit [UnicodeTables] in
theorem serving_send :
    d.serving clock uuid (gateway.send action) =
      some (d.posted clock uuid action, .ok (d.result clock uuid action)) := by
  refine (serve_bind (serve_query (if_pos ?_))).trans rfl
  rw [bound]

theorem serving_retryCheck {key : String} {object : GuardObject}
    (answers : RuntimeGate.retryCheck key (d.run.showReceipt key).reply = .object object) :
    d.serving clock uuid (gateway.retryCheck key) = some (d, .ok (readVerdict object)) := by
  refine (serve_bind (serve_query (if_pos bound))).trans ?_
  rw [answers]
  rfl

theorem serving_preCheck {decision : GateDecision} {now : Nat} (current : now = clock d.run)
    (decides : RuntimeGate.preCheck (some (d.run.snapshot now)) d.run.id (.ofSim action) =
      .ok decision) :
    d.serving clock uuid (gateway.preCheck action) =
      some (d, .ok (readVerdict decision.toObject)) := by
  refine (serve_bind (serve_query (if_pos bound))).trans ?_
  subst current
  have object : (d.run.showSnapshot (clock d.run)).reply.object? =
      some (d.run.snapshot (clock d.run)) := rfl
  rw [RuntimeGate.answerBefore, object, bound, decides]
  rfl

theorem serving_postCheck {before after : Json} :
    d.serving clock uuid (gateway.postCheck before after) =
      some (d, .ok (readVerdict (RuntimeGate.postCheck (some (d.run.snapshot (clock d.run)))
        d.run.id before after).toObject)) := by
  refine (serve_bind (serve_query (if_pos bound))).trans ?_
  have object : (d.run.showSnapshot (clock d.run)).reply.object? =
      some (d.run.snapshot (clock d.run)) := rfl
  rw [RuntimeGate.answerAfter, object, bound]
  rfl

omit [UnicodeTables] in
theorem serving_snapshotOrNone :
    d.serving clock uuid gateway.snapshotOrNone =
      some (d, .ok (some (d.run.snapshot (clock d.run)))) := by
  have inspected : d.serving clock uuid (ToolGateway.inspect gateway.runId) =
      some (d, .ok (.ok (d.run.snapshot (clock d.run)))) := by
    refine (serve_bind (serve_query (if_pos ?_))).trans rfl
    rw [bound]
  exact (serve_bind inspected).trans serve_pure

end Questions

section Dispatched

variable [Python] [UnicodeTables] {clock : RunSpace → Nat} {uuid : RunSpace → String}
  {d d₁ : Deployment} {gateway : ToolGateway} {action : SimAction}

/-- A call adds its record to what has been dispatched. -/
theorem serving_call {result : ToolResult} {trace : GuardTrace} {calls : List ToolCallRecord}
    (keyed : ¬ (ToolGateway.writes action ∧ action.idempotencyKey.getD "" = ""))
    (dispatched : d.serving clock uuid
      (gateway.dispatch action (ToolGateway.writes action) {}) = some (d₁, .ok (result, trace))) :
    ∃ calls', d.serving clock uuid (gateway.call action calls) =
      some (d₁, .ok (result, calls')) := by
  rw [ToolGateway.call, if_neg keyed]
  exact ⟨_, (serve_bind dispatched).trans serve_pure⟩

/-- A call without a guard is the POST. -/
theorem serving_bare {calls : List ToolCallRecord} (bound : gateway.runId = d.run.id)
    (bare : ¬ gateway.guarded ∨ ¬ ToolGateway.writes action)
    (keyed : ¬ (ToolGateway.writes action ∧ action.idempotencyKey.getD "" = "")) :
    ∃ calls', d.serving clock uuid (gateway.call action calls) =
      some (d.posted clock uuid action, .ok (d.result clock uuid action, calls')) := by
  have dispatched : d.serving clock uuid
      (gateway.dispatch action (ToolGateway.writes action) {}) =
        some (d.posted clock uuid action, .ok (d.result clock uuid action, {})) := by
    rw [ToolGateway.dispatch, if_pos bare]
    exact (serve_bind (serving_send bound)).trans serve_pure
  exact serving_call keyed dispatched

end Dispatched

end RuleArena
