import RuleArena.Refund.Deployment

/-!
# What a success of the gateway is worth

A call succeeds by the response to its POST, by a receipt that is found after a
timeout, or by one that is found before anything is sent. Each of them is a receipt
of the run, and receipts stay. The response is that of the write itself; the lookups
go by the key alone, so that a receipt they find is that of the write if the key is
used for no other action (`ToolGateway.call_truthful`).
-/

namespace RuleArena

open Interaction

/-- A write has a receipt of success. -/
def Vouched (run : RunSpace) (action : ActionName) (key : String) : Prop :=
  ∃ record, run.existing action key = some record ∧ record.status = .succeeded

section Vouched

variable [Python]

theorem Vouched.execute {run : RunSpace} {action : ActionName} {key : String}
    (h : Vouched run action key) (command : ActionCommand) (now : Nat) (uuid : String) :
    Vouched (run.execute command now uuid).1 action key := by
  obtain ⟨record, found, succeeded⟩ := h
  exact ⟨record, RunSpace.existing_execute found command now uuid, succeeded⟩

omit [Python] in
theorem Vouched.record {run : RunSpace} {action : ActionName} {key : String}
    (h : Vouched run action key) :
    ∃ record ∈ run.epochReceipts, record.actionType = action ∧ record.idempotencyKey = key ∧
      record.status = .succeeded := by
  obtain ⟨record, found, succeeded⟩ := h
  obtain ⟨mem, epoch, same, under⟩ := RunSpace.mem_of_existing found
  refine ⟨record, ?_, same, under, succeeded⟩
  rw [RunSpace.epochReceipts, List.mem_filter]
  exact ⟨mem, decide_eq_true epoch⟩

/-- A receipt says what its record says. -/
theorem status_of_receipt {record : ActionReceiptRecord} {runId : String} {status : ActionStatus}
    (h : (record.toReceipt runId).toJson.get "status" = .str status.value) :
    record.status = status := by
  have said : (record.toReceipt runId).toJson.get "status" = .str record.status.value := rfl
  have same := Json.str.inj (said.symm.trans h)
  cases own : record.status <;> cases status <;> rw [own] at same <;>
    first | rfl | exact absurd same (by decide)

/-- A record of a reachable run is the one of its action and key. -/
theorem RunSpace.Reachable.existing_of_mem {run : RunSpace} (reachable : run.Reachable)
    {record : ActionReceiptRecord} (mem : record ∈ run.epochReceipts) :
    run.existing record.actionType record.idempotencyKey = some record := by
  cases found : run.existing record.actionType record.idempotencyKey with
  | none =>
    have missing := List.find?_eq_none.1 found record mem
    simp at missing
  | some other =>
    obtain ⟨mem', epoch, same, under⟩ := mem_of_existing found
    have listed : other ∈ run.epochReceipts := by
      rw [epochReceipts, List.mem_filter]
      exact ⟨mem', decide_eq_true epoch⟩
    rw [reachable.receipt_unique listed mem same under]

omit [Python] in
/-- The receipt of a lookup is the body of its response. -/
theorem RuntimeGate.object?_of_receipt [UnicodeTables] {key : String} {reply : HttpReply}
    {receipt : Json} (found : GuardAnswer.receipt? (retryCheck key reply) = some receipt) :
    reply.object? = some receipt := by
  cases reply with
  | response status body =>
    unfold retryCheck at found
    dsimp only at found
    split_ifs at found with missing failed
    · cases found
    · cases found
    · rw [HttpReply.object?, if_pos (not_ne_iff.1 failed)]
      cases read : body.filter Json.isObj with
      | none =>
        rw [read] at found
        cases found
      | some object =>
        rw [read] at found
        have isObj : object.isObj = true := (Option.filter_eq_some_iff.1 read).2
        have kept : (some object).filter Json.isObj = some receipt := found
        rw [Option.filter_some, if_pos isObj] at kept
        exact kept
  | timeout _ => cases found
  | httpError _ => cases found
  | raised _ => cases found

namespace Deployment

variable {traffic : Traffic} {d d' : Deployment}

/-- A success that is found under a key is that of a write under the key. -/
theorem Looks.vouched [UnicodeTables] {key : String} {reply : HttpReply}
    {receipt : Json} (reachable : d.run.Reachable) (looks : d.Looks key reply)
    (found : GuardAnswer.receipt? (RuntimeGate.retryCheck key reply) = some receipt)
    (succeeded : ReceiptSucceeded receipt) : ∃ action, Vouched d.run action key := by
  have body := RuntimeGate.object?_of_receipt found
  cases looks with
  | answered =>
    have response := object?_eq_some body
    rw [HttpResponse.reply, HttpReply.response.injEq] at response
    obtain ⟨record, mem, under, shown⟩ := d.run.of_showReceipt response.1
    obtain rfl := Option.some.inj (shown.symm.trans response.2)
    exact ⟨record.actionType, record, under ▸ reachable.existing_of_mem mem,
      status_of_receipt succeeded⟩
  | failed failed =>
    exact absurd (by simp) (failed 200 (some receipt) (object?_eq_some body))

/-- A success that a POST is answered with is that of its command. -/
theorem Posts.vouched {action : SimAction} {key : String} {reply : HttpReply} {receipt : Json}
    (keyed : action.idempotencyKey = some key)
    (posts : d.Posts traffic action.toHttpPayload reply d') (body : reply.object? = some receipt)
    (succeeded : ReceiptSucceeded receipt) : Vouched d'.run action.actionType key := by
  have response := object?_eq_some body
  have heard : ¬ reply.Lost := by
    rw [response]
    exact fun lost => absurd lost (by rw [HttpReply.Lost]; decide)
  cases posts with
  | @answered complaints now uuid =>
    rw [HttpResponse.reply, HttpReply.response.injEq] at response
    obtain ⟨ok, shown⟩ := response
    rcases d.run.executeAction_cases complaints action.toHttpPayload now uuid with
      ⟨command, read, same⟩ | ⟨-, status⟩
    · rw [same] at ok shown ⊢
      obtain ⟨answer, answered⟩ := Reply.toHttp_ok ok
      obtain ⟨type, -, sent, -⟩ := SimAction.command_of_payload read
      obtain ⟨record, found, rfl⟩ :=
        RunSpace.receipt_of_execute (sent.trans keyed) answered
      rw [answered] at shown
      obtain rfl := Option.some.inj shown
      exact ⟨record, type ▸ found, status_of_receipt succeeded⟩
    · rw [status] at ok
      cases ok
  | refused refusal =>
    cases response
    exact absurd rfl refusal.1
  | dropped lost => exact absurd lost heard
  | unacknowledged lost => exact absurd lost heard
  | delayed lost => exact absurd lost heard

end Deployment

/-! ## Calls -/

section Calls

variable [UnicodeTables] {traffic : Traffic} {gateway : ToolGateway} {action : SimAction}
  {key : String} {d d' : Deployment}

/-- Success is vouched for by the lookup that it comes from. -/
theorem Traffic.vouched_lookup {answer : GuardAnswer} {receipt : Json}
    (reachable : d.run.Reachable)
    (served : traffic.service d ⟨.retryCheck gateway.runId key, answer⟩ d')
    (found : answer.receipt? = some receipt) (succeeded : ReceiptSucceeded receipt) :
    ∃ name, Vouched d'.run name key := by
  obtain ⟨d₁, reachable₁, answers⟩ := Service.moving_keeps
    (I := fun d : Deployment => d.run.Reachable)
    (fun _ _ moves => moves.keeps fun _ command now uuid h => h.apply (.execute command uuid now))
    served reachable
  obtain ⟨-, rfl, reply, looks, rfl⟩ := answers
  exact looks.vouched reachable₁ found succeeded

omit [UnicodeTables] in
/-- Success is vouched for by the POST that it comes from. -/
theorem Traffic.vouched_post {sent : HttpReply} {receipt : Json} {path : String}
    (keyed : action.idempotencyKey = some key)
    (served : traffic.service d ⟨.post path action.toHttpPayload, sent⟩ d')
    (body : sent.object? = some receipt) (succeeded : ReceiptSucceeded receipt) :
    Vouched d'.run action.actionType key := by
  obtain ⟨d₁, -, answers⟩ := served
  exact answers.2.vouched keyed body succeeded

omit [UnicodeTables] in
theorem Traffic.vouched_chain {log : List (Exchange ToolAnswer)} {name : ActionName}
    (chain : Chain traffic.service d log d') (h : Vouched d.run name key) :
    Vouched d'.run name key :=
  chain.keeps (I := fun d : Deployment => Vouched d.run name key)
    (fun _ _ _ _ served h => Traffic.service_keeps (I := (Vouched · name key))
      (fun _ command now uuid h => h.execute command now uuid) served h) h

/-- The receipt of a guarded success is vouched for, that of the POST for the write itself. -/
theorem Traffic.vouched_received {sent : HttpReply} {recovery : List (Exchange ToolAnswer)}
    {path : String} {d₁ : Deployment} (reachable : d.run.Reachable)
    (keyed : action.idempotencyKey = some key)
    (posted : traffic.service d ⟨.post path action.toHttpPayload, sent⟩ d₁)
    (recovered : Chain traffic.service d₁ recovery d')
    (received : gateway.Received key sent recovery) : ∃ name, Vouched d'.run name key := by
  rcases received with ⟨rfl, receipt, body, succeeded⟩ |
    ⟨-, again, receipt, rfl, -, found, succeeded⟩
  · obtain rfl := chain_nil.1 recovered
    exact ⟨_, vouched_post keyed posted body succeeded⟩
  · obtain ⟨d₂, looked, rest⟩ := chain_cons.1 recovered
    obtain rfl := chain_nil.1 rest
    exact vouched_lookup (service_reachable posted reachable) looked found succeeded

namespace ToolGateway

omit [UnicodeTables] in
/-- A success of a write that is not guarded is vouched for. -/
theorem vouched_send {log : List (Exchange ToolAnswer)} {result : ToolResult}
    (keyed : action.idempotencyKey = some key)
    (sent : Runs (gateway.send action) log (.ok result)) (chain : Chain traffic.service d log d')
    (succeeded : result.succeeded) : Vouched d'.run action.actionType key := by
  obtain ⟨reply, rfl, said⟩ := runs_send sent
  obtain ⟨receipt, body, status⟩ := (said result rfl).1 (of_decide_eq_true succeeded)
  obtain ⟨d₁, posted, rest⟩ := chain_cons.1 chain
  obtain rfl := chain_nil.1 rest
  exact Traffic.vouched_post keyed posted body status

/-- A success of a guarded write is vouched for, under its key. -/
theorem vouched_guarded {log : List (Exchange ToolAnswer)} {result : ToolResult}
    {trace : GuardTrace} (reachable : d.run.Reachable) (keyed : action.idempotencyKey = some key)
    (dispatching : Runs (gateway.guardedDispatch action key {}) log (.ok (result, trace)))
    (chain : Chain traffic.service d log d') (succeeded : result.succeeded) :
    ∃ name, Vouched d'.run name key := by
  obtain ⟨-, ⟨-, replayed⟩ | ⟨cleared, sent, rest, rfl, -, -, success⟩⟩ :=
    runs_guardedDispatch dispatching
  · obtain ⟨retry, receipt, rfl, -, found, status⟩ := replayed result trace rfl succeeded
    obtain ⟨d₁, looked, rest⟩ := chain_cons.1 chain
    obtain rfl := chain_nil.1 rest
    exact Traffic.vouched_lookup reachable looked found status
  · obtain ⟨recovery, before, confirmation, rfl, received, -⟩ := success result trace rfl succeeded
    obtain ⟨d₁, first, chain⟩ := chain_append.1 chain
    obtain ⟨d₂, posted, chain⟩ := chain_cons.1 chain
    obtain ⟨d₃, recovered, last⟩ := chain_append.1 chain
    have reachable₁ : d₁.run.Reachable := first.keeps (I := fun d : Deployment => d.run.Reachable)
      (fun _ _ _ _ => Traffic.service_reachable) reachable
    obtain ⟨name, vouched⟩ := Traffic.vouched_received reachable₁ keyed posted recovered received
    exact ⟨name, Traffic.vouched_chain last vouched⟩

/-- A success of a write is vouched for: there is a receipt of success under its key in the current
    epoch, and unless the gateway is guarded and the key is also used for another action it is a
    receipt of this action. Whatever requests and responses are lost, whichever writes arrive late,
    and whatever other clients send. -/
theorem call_truthful (reachable : d.run.Reachable) (write : writes action)
    {calls calls' : List ToolCallRecord} {result : ToolResult}
    (served : Served traffic.service d (gateway.call action calls) d' (.ok (result, calls')))
    (succeeded : result.succeeded) :
    ∃ key, action.idempotencyKey = some key ∧
      (∃ record ∈ d'.run.epochReceipts, record.idempotencyKey = key ∧
        record.status = .succeeded) ∧
      (gateway.guarded = false ∨ (∀ record ∈ d'.run.epochReceipts,
          record.idempotencyKey = key → record.actionType = action.actionType) →
        ∃ record ∈ d'.run.epochReceipts, record.actionType = action.actionType ∧
          record.idempotencyKey = key ∧ record.status = .succeeded) := by
  obtain ⟨-, e, raised⟩ | ⟨keyless, r, ⟨log, dispatching, chain⟩, said⟩ := served_call served
  · cases raised
  obtain ⟨key, keyed⟩ : ∃ key, action.idempotencyKey = some key := by
    cases keyed : action.idempotencyKey with
    | none => exact absurd ⟨write, by rw [keyed]; rfl⟩ keyless
    | some key => exact ⟨key, rfl⟩
  refine ⟨key, keyed, ?_⟩
  obtain ⟨trace, rfl⟩ := said result calls' rfl
  by_cases guarded : gateway.guarded = true
  · rw [dispatch_guarded guarded write keyed] at dispatching
    obtain ⟨name, vouched⟩ := vouched_guarded reachable keyed dispatching chain succeeded
    obtain ⟨record, mem, type, under, status⟩ := vouched.record
    refine ⟨⟨record, mem, under, status⟩, fun own => ⟨record, mem, ?_, under, status⟩⟩
    rcases own with bare | own
    · rw [guarded] at bare
      cases bare
    · exact own record mem under
  · obtain ⟨r, sending, same⟩ := runs_dispatch_bare (.inl guarded) dispatching
    obtain rfl := same result trace rfl
    obtain ⟨record, mem, type, under, status⟩ :=
      (vouched_send keyed sending chain succeeded).record
    exact ⟨⟨record, mem, under, status⟩, fun _ => ⟨record, mem, type, under, status⟩⟩

/-- A guarded write whose receipt is found is answered with it, and not sent. -/
theorem served_repeated (guarded : gateway.guarded) (write : writes action)
    (bound : gateway.runId = d.run.id) (keyed : action.idempotencyKey = some key)
    (nonempty : key ≠ "") (upper : UnicodeTables.upper "ALLOW" = "ALLOW") {receipt : ActionReceipt}
    (found : d.run.getReceipt key = .ok receipt) (calls : List ToolCallRecord) :
    ∃ calls', Served traffic.service d (gateway.call action calls) d
      (.ok (fromReceipt receipt.toJson action, calls')) := by
  let answer := RuntimeGate.retryCheck key (d.run.showReceipt key).reply
  have object : receipt.toJson.isObj = true := rfl
  have shown : d.run.showReceipt key = ⟨200, some receipt.toJson⟩ := by
    rw [RunSpace.showReceipt, found]
  have verdict : verdictRead answer = .ok (some
      ⟨"ALLOW", "CACHED_RECEIPT", some receipt.toJson⟩) := by
    have kept : (some receipt.toJson).filter Json.isObj = some receipt.toJson := by
      rw [Option.filter_some, if_pos object]
    simp only [answer, shown, HttpResponse.reply, RuntimeGate.retryCheck, verdictRead, readVerdict,
      kept, upper, show ¬ (200 = 404) by decide, if_false, not_true, ne_eq]
  have asked : Runs (gateway.retryCheck key) [⟨.retryCheck gateway.runId key, answer⟩]
      (.ok (some ⟨"ALLOW", "CACHED_RECEIPT", some receipt.toJson⟩)) :=
    runs_retryCheck.2 ⟨answer, rfl, verdict.symm⟩
  have dispatched : Runs (gateway.guardedDispatch action key {})
      [⟨.retryCheck gateway.runId key, answer⟩]
      (.ok (fromReceipt receipt.toJson action, GuardTrace.noting (GuardTrace.counted {})
        ⟨"ALLOW", "CACHED_RECEIPT", some receipt.toJson⟩)) := by
    refine runs_bind.2 (.inl ⟨_, _, [], (List.append_nil _).symm, asked, ?_⟩)
    dsimp only
    rw [if_neg (not_not.2 rfl)]
    exact .done _
  have keyless : ¬ (writes action = true ∧ action.idempotencyKey.getD "" = "") := by
    rw [keyed]
    exact fun h => nonempty h.2
  obtain ⟨calls', called⟩ : ∃ calls', Runs (gateway.call action calls)
      [⟨.retryCheck gateway.runId key, answer⟩]
      (.ok (fromReceipt receipt.toJson action, calls')) := by
    unfold call
    rw [if_neg keyless, dispatch, if_neg (by rw [guarded, write]; decide), keyed]
    exact ⟨_, runs_bind.2 (.inl ⟨_, _, [], (List.append_nil _).symm, dispatched,
      runs_pure.2 ⟨rfl, rfl⟩⟩)⟩
  exact ⟨calls', _, called, .cons ⟨d, .refl, bound, rfl, _, .answered, rfl⟩ (.nil d)⟩

end ToolGateway

end Calls

end Vouched

/-! ## A receipt after a lost acknowledgement -/

/-- The refund whose acknowledgement was lost, once more. -/
def recalledRefund : SimAction := { keyedRefund with idempotencyKey := some "refund" }

/-- A guarded gateway is answered with the receipt. -/
theorem served_recalledRefund :
    let _ := Python.transparent
    let _ := UnicodeTables.ascii
    ∃ (receipt : ActionReceipt) (calls : List ToolCallRecord), receipt.status = .succeeded ∧
      Served (Traffic.service ⟨fun _ => False, False⟩) ⟨ackLostRun, []⟩
        (ToolGateway.call ⟨"run", true⟩ recalledRefund []) ⟨ackLostRun, []⟩
        (.ok (fromReceipt receipt.toJson recalledRefund, calls)) := by
  intro _ _
  have found : (ackLostRun.getReceipt "refund").toOption.isSome ∧
      (∀ receipt ∈ (ackLostRun.getReceipt "refund").toOption, receipt.status = .succeeded) ∧
      "run" = ackLostRun.id := by
    decide +kernel
  obtain ⟨there, status, bound⟩ := found
  cases read : ackLostRun.getReceipt "refund" with
  | error fault =>
    rw [read] at there
    cases there
  | ok receipt =>
    rw [read] at status
    have upper : UnicodeTables.upper "ALLOW" = "ALLOW" := by decide +kernel
    obtain ⟨calls, served⟩ := @ToolGateway.served_repeated _ _ ⟨fun _ => False, False⟩
      ⟨"run", true⟩ recalledRefund "refund" ⟨ackLostRun, []⟩ rfl rfl bound rfl (by decide) upper
      receipt read []
    exact ⟨receipt, calls, status receipt rfl, served⟩

theorem ackLostRun_reachable : @RunSpace.Reachable Python.transparent ackLostRun := by
  let _ := Python.transparent
  exact RunSpace.Reachable.after ⟨ackLostRequest, "run", paidHistory, rfl⟩ _

/-- A guarded gateway finds the receipt, and reports the success. -/
theorem ToolGateway.call_truthful_repeated :
    ∃ key, recalledRefund.idempotencyKey = some key ∧
      (∃ record ∈ ackLostRun.epochReceipts, record.idempotencyKey = key ∧
        record.status = .succeeded) ∧
      ((⟨"run", true⟩ : ToolGateway).guarded = false ∨ (∀ record ∈ ackLostRun.epochReceipts,
          record.idempotencyKey = key → record.actionType = .refundOrder) →
        ∃ record ∈ ackLostRun.epochReceipts, record.actionType = .refundOrder ∧
          record.idempotencyKey = key ∧ record.status = .succeeded) := by
  let _ := Python.transparent
  let _ := UnicodeTables.ascii
  obtain ⟨receipt, calls, status, served⟩ := served_recalledRefund
  refine ToolGateway.call_truthful ackLostRun_reachable rfl served ?_
  rw [succeeded_fromReceipt]
  exact congrArg Json.str (congrArg ActionStatus.value status)

end RuleArena
