import RuleArena.Refund.Agent

/-!
# The agent cannot tell why a guard spoke

Two guards that answer with the same decisions and the same receipts, but for
other reasons, are the same to the gateway: its parts are similar, with the same
results (`similar_call`), and so is the agent that uses it (`similar_handle`).
Reasons only get into the records of the calls, which the agent does not read. So
in two environments that differ in nothing but the reasons of the guard, the same
is asked and the same comes of it (`reasons_unseen`).
-/

namespace RuleArena

open Interaction

/-- The same verdict, for any reason. -/
inductive SameVerdict : GuardAnswer → GuardAnswer → Prop
  | object {a b : GuardObject} (decision : a.decision = b.decision)
      (readable : a.reasonCode.isSome = b.reasonCode.isSome)
      (cachedReceipt : a.cachedReceipt = b.cachedReceipt) : SameVerdict (.object a) (.object b)
  | raised (e : ToolException) : SameVerdict (.raised e) (.raised e)

/-- The same answer of the sandbox, or the same verdict of the guard. -/
def SameAnswer : ∀ q, ToolAnswer q → ToolAnswer q → Prop
  | .get _, reply, reply' | .post .., reply, reply' => reply = reply'
  | .retryCheck .., answer, answer' | .preCheck .., answer, answer'
  | .postCheck .., answer, answer' => SameVerdict answer answer'

/-- The same verdict as the gateway reads it. -/
inductive SameReading : Option GuardVerdict → Option GuardVerdict → Prop
  | unreadable : SameReading none none
  | verdict {a b : GuardVerdict} (decision : a.decision = b.decision)
      (cachedReceipt : a.cachedReceipt = b.cachedReceipt) : SameReading (some a) (some b)

/-- The same result, with any trace. -/
def SameResult {α β : Type} (a b : α × β) : Prop := a.1 = b.1

/-- Two computations with the same results, as long as nothing but the reasons differ. -/
abbrev Blind {α β : Type} (x y : ToolRun (α × β)) : Prop := Similar SameAnswer SameResult x y

namespace ToolGateway

section Parts

variable [UnicodeTables]

theorem sameReading {a b : GuardObject} (decision : a.decision = b.decision)
    (readable : a.reasonCode.isSome = b.reasonCode.isSome)
    (cachedReceipt : a.cachedReceipt = b.cachedReceipt) :
    SameReading (readVerdict a) (readVerdict b) := by
  unfold readVerdict
  rw [decision, cachedReceipt]
  cases b.decision with
  | none => exact .unreadable
  | some decision =>
    cases ha : a.reasonCode <;> cases hb : b.reasonCode
    · exact .unreadable
    · rw [ha, hb] at readable
      cases readable
    · rw [ha, hb] at readable
      cases readable
    · exact .verdict rfl rfl

theorem similar_verdictOf {answer answer' : GuardAnswer} (h : SameVerdict answer answer') :
    Similar SameAnswer SameReading (verdictOf answer) (verdictOf answer') := by
  cases h with
  | object decision readable cachedReceipt =>
    exact .done (sameReading decision readable cachedReceipt)
  | raised e => exact .raise e

variable (gateway : ToolGateway)

theorem similar_retryCheck (key : String) :
    Similar SameAnswer SameReading (gateway.retryCheck key) (gateway.retryCheck key) :=
  .ask fun _ _ => similar_verdictOf

theorem similar_preCheck (action : SimAction) :
    Similar SameAnswer SameReading (gateway.preCheck action) (gateway.preCheck action) :=
  .ask fun _ _ => similar_verdictOf

theorem similar_postCheck (before after : Json) :
    Similar SameAnswer SameReading (gateway.postCheck before after)
      (gateway.postCheck before after) :=
  .ask fun _ _ => similar_verdictOf

omit [UnicodeTables] in
theorem similar_snapshotOrNone :
    Similar SameAnswer Eq gateway.snapshotOrNone gateway.snapshotOrNone := by
  refine .ask fun reply reply' same => ?_
  obtain rfl : reply = reply' := same
  cases reply with
  | response status body => exact .done rfl
  | timeout name | httpError name => exact .done rfl
  | raised e => exact .raise e

omit [UnicodeTables] in
theorem similar_send [Python] (action : SimAction) :
    Similar SameAnswer Eq (gateway.send action) (gateway.send action) := by
  refine .ask fun reply reply' same => ?_
  obtain rfl : reply = reply' := same
  cases reply with
  | response status body => exact .done rfl
  | timeout name | httpError name => exact .done rfl
  | raised e => exact .raise e

end Parts

variable [Python] [UnicodeTables] (gateway : ToolGateway)

theorem blind_recover (action : SimAction) (key : String) (trace trace' : GuardTrace) :
    Blind (gateway.recover action key trace) (gateway.recover action key trace') := by
  refine (gateway.similar_retryCheck key).bind fun verdict verdict' same => ?_
  cases same with
  | unreadable => exact .done rfl
  | verdict decision cachedReceipt =>
    dsimp only
    rw [decision, cachedReceipt]
    split_ifs
    · exact .done rfl
    · exact .done rfl

theorem blind_settle (action : SimAction) (key : String) (result : ToolResult)
    (trace trace' : GuardTrace) :
    Blind (gateway.settle action key result trace) (gateway.settle action key result trace') := by
  unfold settle
  split_ifs with timeout
  · refine (gateway.blind_recover action key trace trace').bind fun recovered recovered' same => ?_
    exact .done (congrArg (Option.getD · result) same)
  · exact .done rfl

omit [Python] in
theorem blind_confirm (action : SimAction) (before : Json) (result : ToolResult)
    (trace trace' : GuardTrace) :
    Blind (gateway.confirm action before result trace)
      (gateway.confirm action before result trace') := by
  refine gateway.similar_snapshotOrNone.bind fun after _ same => ?_
  subst same
  cases after with
  | none => exact .done rfl
  | some after =>
    refine (gateway.similar_postCheck before after).bind fun verdict verdict' same => ?_
    cases same with
    | unreadable => exact .done rfl
    | verdict decision cachedReceipt =>
      dsimp only
      rw [decision]
      split_ifs
      · exact .done rfl
      · exact .done rfl

theorem blind_finish (action : SimAction) (key : String) (before : Json) (result : ToolResult)
    (trace trace' : GuardTrace) :
    Blind (gateway.finish action key before result trace)
      (gateway.finish action key before result trace') := by
  refine (gateway.blind_settle action key result trace trace').bind fun settled settled' same => ?_
  obtain ⟨result, trace⟩ := settled
  obtain ⟨result', trace'⟩ := settled'
  obtain rfl : result = result' := same
  dsimp only
  split_ifs
  · exact gateway.blind_confirm action before result trace trace'
  · exact .done rfl

theorem blind_perform (action : SimAction) (key : String) (trace trace' : GuardTrace) :
    Blind (gateway.perform action key trace) (gateway.perform action key trace') := by
  refine gateway.similar_snapshotOrNone.bind fun before _ same => ?_
  subst same
  cases before with
  | none => exact .done rfl
  | some before =>
    refine (gateway.similar_send action).bind fun result _ same => ?_
    subst same
    exact gateway.blind_finish action key before result _ _

omit [Python] [UnicodeTables] in
/-- A refusal does not show its reason. -/
theorem sameResult_refusal {verdict verdict' : Option GuardVerdict}
    (same : SameReading verdict verdict') (action : SimAction) (trace trace' : GuardTrace) :
    SameResult (refusal verdict action trace) (refusal verdict' action trace') := by
  cases same with
  | unreadable => rfl
  | verdict decision cachedReceipt =>
    unfold refusal SameResult
    dsimp only
    rw [decision]
    split_ifs <;> rfl

theorem blind_checkedDispatch (action : SimAction) (key : String) (trace trace' : GuardTrace) :
    Blind (gateway.checkedDispatch action key trace)
      (gateway.checkedDispatch action key trace') := by
  refine (gateway.similar_preCheck action).bind fun verdict verdict' same => ?_
  have same := sameResult_refusal same action trace.counted trace'.counted
  generalize refusal verdict action trace.counted = refused at same ⊢
  generalize refusal verdict' action trace'.counted = refused' at same ⊢
  obtain ⟨refused, trace⟩ := refused
  obtain ⟨refused', trace'⟩ := refused'
  obtain rfl : refused = refused' := same
  cases refused with
  | none => exact gateway.blind_perform action key _ _
  | some result => exact .done rfl

theorem blind_guardedDispatch (action : SimAction) (key : String) (trace trace' : GuardTrace) :
    Blind (gateway.guardedDispatch action key trace)
      (gateway.guardedDispatch action key trace') := by
  refine (gateway.similar_retryCheck key).bind fun verdict verdict' same => ?_
  cases same with
  | unreadable => exact .done rfl
  | @verdict existing existing' decision cachedReceipt =>
    dsimp only
    rw [decision, cachedReceipt]
    split_ifs
    · exact .done rfl
    · cases existing'.cachedReceipt with
      | some receipt => exact .done rfl
      | none => exact gateway.blind_checkedDispatch action key _ _

/-- A call has the same result for all reasons. -/
theorem similar_call (action : SimAction) (calls calls' : List ToolCallRecord) :
    Blind (gateway.call action calls) (gateway.call action calls') := by
  unfold call
  split_ifs with keyless
  · exact .raise _
  · refine Similar.bind (S := SameResult) ?_ fun dispatched dispatched' same => .done same
    unfold dispatch
    split_ifs with direct
    · refine (gateway.similar_send action).bind fun result _ same => ?_
      exact .done same
    · cases action.idempotencyKey with
      | none => exact .raise _
      | some key => exact gateway.blind_guardedDispatch action key _ _

end ToolGateway

namespace RefundAgent

variable [Python] [UnicodeTables] (agent : RefundAgent) (ticket : Ticket)

theorem blind_readState (calls calls' : List ToolCallRecord) :
    Blind (agent.readState calls) (agent.readState calls') := by
  refine (agent.gateway.similar_call inspection calls calls').bind fun called called' same => ?_
  obtain ⟨result, calls⟩ := called
  obtain ⟨result', calls'⟩ := called'
  obtain rfl : result = result' := same
  exact .done rfl

/-- The attempts go on alike: a result decides whether there is another one. -/
theorem blind_tryAttempts (action : SimAction) (attempts : List Nat) (steps : List AgentStep)
    (calls calls' : List ToolCallRecord) :
    Blind (agent.tryAttempts ticket action attempts steps calls)
      (agent.tryAttempts ticket action attempts steps calls') := by
  induction attempts generalizing steps calls calls' with
  | nil => exact .done rfl
  | cons attempt attempts ih =>
    refine (agent.gateway.similar_call _ calls calls').bind fun called called' same => ?_
    obtain ⟨result, calls⟩ := called
    obtain ⟨result', calls'⟩ := called'
    obtain rfl : result = result' := same
    dsimp only
    split_ifs
    · exact .done rfl
    · exact ih _ calls calls'
    · exact .done rfl

theorem blind_carryOut (steps : List AgentStep) (calls calls' : List ToolCallRecord)
    (decision : Except ToolException AgentDecision) :
    Blind (agent.carryOut ticket steps calls decision)
      (agent.carryOut ticket steps calls' decision) := by
  rcases decision with e | (action | reason)
  · exact .raise e
  · exact agent.blind_tryAttempts ticket action.toSimAction _ steps calls calls'
  · exact .done rfl

/-- The agent gives the same report for all reasons. -/
theorem similar_handle (calls calls' : List ToolCallRecord) :
    Blind (agent.handle ticket calls) (agent.handle ticket calls') := by
  refine (agent.blind_readState calls calls').bind fun state state' same => ?_
  obtain ⟨⟨snapshot, step⟩, calls⟩ := state
  obtain ⟨state', calls'⟩ := state'
  obtain rfl : (snapshot, step) = state' := same
  cases snapshot with
  | none => exact .done rfl
  | some snapshot => exact agent.blind_carryOut ticket [step] calls calls' _

end RefundAgent

/-! ## Two environments -/

variable {environment environment' : Environment ToolAnswer}

/-- In two environments that differ in reasons only, similar computations ask the same, and come
    to the same. -/
theorem Blind.unseen {α β : Type} {x y : ToolRun (α × β)} (blind : Blind x y)
    (same : RelatedEnvironments SameAnswer environment environment')
    {history history' : List (Exchange ToolAnswer)}
    (before : List.Forall₂ (RelatedExchange SameAnswer) history history') :
    (x.exchanges environment history).map Sigma.fst =
        (y.exchanges environment' history').map Sigma.fst ∧
      (x.outcome environment history).map Prod.fst =
        (y.outcome environment' history').map Prod.fst := by
  obtain ⟨asked, ended⟩ := Similar.run blind same before
  refine ⟨map_fst_eq asked, ?_⟩
  generalize x.outcome environment history = r at ended ⊢
  generalize y.outcome environment' history' = r' at ended ⊢
  cases ended with
  | ok h => exact congrArg Except.ok h
  | error e => rfl

/-- What the gateway and the agent ask, and the results and reports they come to, do not depend
    on the reasons of the guard. -/
theorem reasons_unseen [Python] [UnicodeTables]
    (same : RelatedEnvironments SameAnswer environment environment') :
    (∀ (gateway : ToolGateway) (action : SimAction) (calls calls' : List ToolCallRecord)
      (history history' : List (Exchange ToolAnswer)),
      List.Forall₂ (RelatedExchange SameAnswer) history history' →
      ((gateway.call action calls).exchanges environment history).map Sigma.fst =
          ((gateway.call action calls').exchanges environment' history').map Sigma.fst ∧
        ((gateway.call action calls).outcome environment history).map Prod.fst =
          ((gateway.call action calls').outcome environment' history').map Prod.fst) ∧
    ∀ (agent : RefundAgent) (ticket : Ticket),
      ((agent.handle ticket []).exchanges environment []).map Sigma.fst =
          ((agent.handle ticket []).exchanges environment' []).map Sigma.fst ∧
        ((agent.handle ticket []).outcome environment []).map Prod.fst =
          ((agent.handle ticket []).outcome environment' []).map Prod.fst :=
  ⟨fun gateway action calls calls' _ _ before =>
      (gateway.similar_call action calls calls').unseen same before,
    fun agent ticket => (agent.similar_handle ticket [] []).unseen same .nil⟩

/-- The receipt of an inspection of a run with one paid order. -/
def inspectionReceipt : Json :=
  .obj [("status", .str "SUCCEEDED"),
    ("result", .obj [("snapshot", .obj [("state", .obj [("orders", .arr [
      .obj [("id", .str "order-1"), ("status", .str "PAID"), ("paid_amount", .str "10.00")]])])])])]

/-- A sandbox with a paid order, behind a guard that blocks for a reason. -/
def blocking (reason : String) : Environment ToolAnswer
  | _, .get _ => .response 200 (some (.obj []))
  | _, .post .. => .response 200 (some inspectionReceipt)
  | _, .retryCheck .. => .object { decision := some "ALLOW", reasonCode := some "RETRY_SAFE" }
  | _, .preCheck .. | _, .postCheck .. =>
    .object { decision := some "BLOCK", reasonCode := some reason }

theorem related_blocking (reason reason' : String) :
    RelatedEnvironments SameAnswer (blocking reason) (blocking reason') := by
  intro history history' _ q
  cases q with
  | get path => rfl
  | post path payload => rfl
  | retryCheck runId key => exact .object rfl rfl rfl
  | preCheck runId action => exact .object rfl rfl rfl
  | postCheck runId before after => exact .object rfl rfl rfl

/-- An agent that makes two attempts. -/
def refundAgent : RefundAgent := ⟨⟨"run-1", true⟩, 2, Nat.two_pos⟩

/-- A ticket that asks for all that was paid. -/
def fullRefundTicket : Ticket := ⟨"ticket-1", "user-1", "订单 order-1 全额退款"⟩

theorem reasons_unseen_blocking :
    let _ := Python.transparent
    let _ := UnicodeTables.ascii
    ((refundAgent.handle fullRefundTicket []).outcome (blocking "REFUND_BUDGET_EXCEEDED") []).map
        Prod.fst =
      ((refundAgent.handle fullRefundTicket []).outcome (blocking "ORDER_NOT_FOUND") []).map
        Prod.fst := by
  let _ := Python.transparent
  let _ := UnicodeTables.ascii
  exact ((reasons_unseen (related_blocking _ _)).2 refundAgent fullRefundTicket).2

/-- The agent is told that the call was not made, and stops. -/
example :
    let _ := Python.transparent
    let _ := UnicodeTables.ascii
    ((refundAgent.handle fullRefundTicket []).outcome (blocking "ORDER_NOT_FOUND") []).toOption.map
        (·.1.escalationReason) =
      some (some "工具给出 REFUSED（CALL_NOT_MADE），已停止该分支") := by
  decide +kernel

end RuleArena
