import RuleArena.Refund.Agent
import RuleArena.Refund.Budget

/-!
# One refund for a ticket

An agent tries again only after a failure or a timeout. Behind the gate a failure means that
the write has no receipt or one of a rejection, and a timeout stays one only if the
lookup after it found no receipt. So unless a write arrives late the write of an attempt
that is followed by another has not succeeded (`ToolGateway.call_tried`), and all attempts
for a ticket together refund once at most (`RefundAgent.handle_once`).

Where a deployment answers at once a refund whose acknowledgement is lost is not tried
again, but comes to its receipt (`serving_recovered`).
-/

namespace RuleArena

open Interaction

/-! ## Results that invite another attempt -/

namespace ToolGateway

variable [Python] [UnicodeTables] {gateway : ToolGateway} {action : SimAction} {key : String}
  {log : List (Exchange ToolAnswer)}

/-- The response says that a write has failed: by a receipt, or in the place of one. -/
def Denied (sent : HttpReply) : Prop :=
  ∃ status body, sent = .response status body ∧ status < 500 ∧
    (status = 200 → ∃ receipt, body = some receipt ∧ receipt.get "status" = .str "REJECTED")

/-- The lookup after a timeout, if it does not end the matter: it finds no receipt, or that of a
    rejection. -/
def Unsettled (key : String) (recovery : List (Exchange ToolAnswer)) : Prop :=
  ∃ again, recovery = [⟨.retryCheck gateway.runId key, again⟩] ∧ GuardAnswer.Allows again ∧
    ∀ receipt, GuardAnswer.receipt? again = some receipt → receipt.get "status" = .str "REJECTED"

/-- The questions of a write that may be tried again. -/
def Repeatable (key : String) (action : SimAction) (log : List (Exchange ToolAnswer)) : Prop :=
  Quiet log ∨ ∃ cleared sent rest,
    log = cleared ++ ⟨.post gateway.actionsPath action.toHttpPayload, sent⟩ :: rest ∧
      Quiet cleared ∧ (rest = [] ∧ Denied sent ∨ gateway.Unsettled key rest)

omit [Python] [UnicodeTables] in
theorem receiptOutcome_eq_failed {status : Json} (h : receiptOutcome status = .failed) :
    status = .str "REJECTED" := by
  unfold receiptOutcome at h
  split_ifs at h with succeeded rejected
  exact rejected

omit [UnicodeTables] in
/-- What a receipt says is final, or a rejection. -/
theorem rejected_of_retryable {receipt : Json} (h : (fromReceipt receipt action).retryable) :
    receipt.get "status" = .str "REJECTED" := by
  have outcome : receiptOutcome (receipt.get "status") ∈ [ToolOutcome.failed, .timeout] :=
    of_decide_eq_true h
  rcases List.mem_cons.1 outcome with failed | timeout
  · exact receiptOutcome_eq_failed failed
  · exact absurd (List.mem_singleton.1 timeout) receiptOutcome_ne_timeout

omit [UnicodeTables] in
/-- A failure is a response that says so. -/
theorem denied_of_failed {status : Nat} {body : Option Json}
    (h : (interpret status body action).outcome = .failed) :
    Denied (.response status body) := by
  unfold interpret at h
  dsimp only at h
  split_ifs at h with ok answered broken
  · refine ⟨status, body, rfl, by omega, fun _ => ?_⟩
    split at h
    · next receipt => exact ⟨.obj receipt, rfl, receiptOutcome_eq_failed h⟩
    · cases h
  · cases h
  · cases h
  · exact ⟨status, body, rfl, not_le.1 broken, fun success => absurd success ok⟩

omit [UnicodeTables] in
theorem runs_send_failed {result : ToolResult}
    (sent : Runs (gateway.send action) log (.ok result)) :
    ∃ reply, log = [⟨.post gateway.actionsPath action.toHttpPayload, reply⟩] ∧
      (result.outcome = .failed → Denied reply) := by
  obtain ⟨reply, log', rfl, h⟩ := runs_query.1 sent
  refine ⟨reply, ?_⟩
  cases reply with
  | response status body =>
    obtain ⟨rfl, same⟩ := runs_pure.1 h
    obtain rfl := Except.ok.inj same
    exact ⟨rfl, denied_of_failed⟩
  | timeout name | httpError name =>
    obtain ⟨rfl, same⟩ := runs_pure.1 h
    obtain rfl := Except.ok.inj same
    exact ⟨rfl, fun same => by cases same⟩
  | raised e =>
    obtain ⟨-, same⟩ := runs_raise.1 h
    cases same

theorem runs_settle_retryable {result settled : ToolResult} {trace trace' : GuardTrace}
    (settling : Runs (gateway.settle action key result trace) log (.ok (settled, trace')))
    (retryable : settled.retryable) :
    log = [] ∧ settled = result ∧ result.outcome = .failed ∨ gateway.Unsettled key log := by
  unfold settle at settling
  split_ifs at settling with timeout
  · obtain ⟨recovered, first, rest, rfl, asked, returned⟩ | ⟨e, -, same⟩ := runs_bind.1 settling
    swap
    · cases same
    obtain ⟨rfl, same⟩ := runs_pure.1 returned
    obtain ⟨rfl, -⟩ := Prod.mk.inj (Except.ok.inj same)
    rw [List.append_nil]
    obtain ⟨verdict, first, rest, rfl, checked, h⟩ | ⟨e, -, same⟩ := runs_bind.1 asked
    swap
    · cases same
    obtain ⟨again, rfl, read⟩ := runs_retryCheck.1 checked
    have read := verdictRead_eq_ok read
    cases verdict with
    | none =>
      obtain ⟨-, same⟩ := runs_pure.1 h
      obtain rfl := Except.ok.inj same
      cases retryable
    | some verdict =>
      dsimp only at h
      split_ifs at h with stopped
      · obtain ⟨-, same⟩ := runs_pure.1 h
        obtain rfl := Except.ok.inj same
        cases retryable
      · obtain ⟨rfl, same⟩ := runs_pure.1 h
        obtain rfl := Except.ok.inj same
        refine .inr ⟨again, rfl, ⟨verdict, read, not_ne_iff.1 stopped⟩, fun receipt found => ?_⟩
        have cached : verdict.cachedReceipt = some receipt := by
          rw [GuardAnswer.receipt?, read] at found
          exact found
        have same : (Option.map (fromReceipt · action) verdict.cachedReceipt).getD result =
            fromReceipt receipt action := by rw [cached]; rfl
        rw [same] at retryable
        exact rejected_of_retryable retryable
  · obtain ⟨rfl, same⟩ := runs_pure.1 settling
    obtain ⟨rfl, -⟩ := Prod.mk.inj (Except.ok.inj same)
    have outcome : settled.outcome ∈ [ToolOutcome.failed, .timeout] := of_decide_eq_true retryable
    rcases List.mem_cons.1 outcome with failed | again
    · exact .inl ⟨rfl, rfl, failed⟩
    · exact absurd (List.mem_singleton.1 again) timeout

omit [Python] in
/-- After a success another attempt is never invited. -/
theorem runs_confirm_retryable {before : Json} {result result' : ToolResult}
    {trace trace' : GuardTrace} (succeeded : result.succeeded)
    (h : Runs (gateway.confirm action before result trace) log (.ok (result', trace'))) :
    result'.retryable = false := by
  have kept : result.retryable = false := by
    rw [ToolResult.retryable, of_decide_eq_true succeeded]
    rfl
  obtain ⟨after, first, rest, rfl, -, h⟩ | ⟨e, -, same⟩ := runs_bind.1 h
  swap
  · cases same
  cases after with
  | none =>
    obtain ⟨-, same⟩ := runs_pure.1 h
    obtain rfl := (Prod.mk.inj (Except.ok.inj same)).1
    rfl
  | some after =>
    obtain ⟨verdict, first, rest, rfl, -, h⟩ | ⟨e, -, same⟩ := runs_bind.1 h
    swap
    · cases same
    cases verdict with
    | none =>
      obtain ⟨-, same⟩ := runs_pure.1 h
      obtain rfl := (Prod.mk.inj (Except.ok.inj same)).1
      rfl
    | some verdict =>
      dsimp only at h
      split_ifs at h
      · obtain ⟨-, same⟩ := runs_pure.1 h
        obtain rfl := (Prod.mk.inj (Except.ok.inj same)).1
        rfl
      · obtain ⟨-, same⟩ := runs_pure.1 h
        obtain rfl := (Prod.mk.inj (Except.ok.inj same)).1
        exact kept

theorem runs_finish_retryable {before : Json} {sent result : ToolResult} {trace trace' : GuardTrace}
    (finishing : Runs (gateway.finish action key before sent trace) log (.ok (result, trace')))
    (retryable : result.retryable) :
    log = [] ∧ sent.outcome = .failed ∨ gateway.Unsettled key log := by
  obtain ⟨settled, first, rest, rfl, settling, h⟩ | ⟨e, -, same⟩ := runs_bind.1 finishing
  swap
  · cases same
  split_ifs at h with succeeded
  · exact absurd retryable (ne_true_of_eq_false (runs_confirm_retryable succeeded h))
  · obtain ⟨rfl, same⟩ := runs_pure.1 h
    obtain rfl := Except.ok.inj same
    rw [List.append_nil]
    refine (runs_settle_retryable settling retryable).imp_left ?_
    rintro ⟨none, -, outcome⟩
    exact ⟨none, outcome⟩

theorem runs_perform_retryable {trace trace' : GuardTrace} {result : ToolResult}
    (performing : Runs (gateway.perform action key trace) log (.ok (result, trace')))
    (retryable : result.retryable) : gateway.Repeatable key action log := by
  obtain ⟨before, first, rest, rfl, asked, h⟩ | ⟨e, -, same⟩ := runs_bind.1 performing
  swap
  · cases same
  obtain ⟨reply, rfl, -⟩ := runs_snapshotOrNone asked
  cases before with
  | none =>
    obtain ⟨-, same⟩ := runs_pure.1 h
    obtain rfl := (Prod.mk.inj (Except.ok.inj same)).1
    cases retryable
  | some before =>
    obtain ⟨sent, first, rest, rfl, sending, finishing⟩ | ⟨e, -, same⟩ := runs_bind.1 h
    swap
    · cases same
    obtain ⟨posted, rfl, failed⟩ := runs_send_failed sending
    refine .inr ⟨[⟨.get gateway.snapshotPath, reply⟩], posted, rest, rfl,
      List.forall_mem_singleton.2 rfl, ?_⟩
    exact (runs_finish_retryable finishing retryable).imp_left (And.imp_right failed)

omit [Python] [UnicodeTables] in
theorem refusal_not_retryable {verdict : Option GuardVerdict} {trace : GuardTrace}
    {result : ToolResult} (h : (refusal verdict action trace).1 = some result) :
    result.retryable = false := by
  unfold refusal at h
  cases verdict with
  | none =>
    cases h
    rfl
  | some verdict =>
    dsimp only at h
    split_ifs at h <;> cases h <;> rfl

theorem runs_checkedDispatch_retryable {trace trace' : GuardTrace} {result : ToolResult}
    (dispatching : Runs (gateway.checkedDispatch action key trace) log (.ok (result, trace')))
    (retryable : result.retryable) : gateway.Repeatable key action log := by
  obtain ⟨verdict, first, rest, rfl, checked, h⟩ | ⟨e, -, same⟩ := runs_bind.1 dispatching
  swap
  · cases same
  obtain ⟨check, rfl, -⟩ := runs_preCheck.1 checked
  cases refused : (refusal verdict action trace.counted).1 with
  | some answer =>
    simp only [refused] at h
    obtain ⟨-, same⟩ := runs_pure.1 h
    obtain rfl := (Prod.mk.inj (Except.ok.inj same)).1
    exact absurd retryable (ne_true_of_eq_false (refusal_not_retryable refused))
  | none =>
    simp only [refused] at h
    rcases runs_perform_retryable h retryable with quiet | ⟨cleared, sent, rest, rfl, clear, last⟩
    · exact .inl (List.forall_mem_cons.2 ⟨rfl, quiet⟩)
    · exact .inr ⟨_ :: cleared, sent, rest, rfl, List.forall_mem_cons.2 ⟨rfl, clear⟩, last⟩

/-- A guarded write that may be tried again was not sent, or has been denied, or was looked for and
    not found to have succeeded. -/
theorem runs_guardedDispatch_retryable {trace : GuardTrace} {result : ToolResult}
    (dispatching : Runs (gateway.guardedDispatch action key {}) log (.ok (result, trace)))
    (retryable : result.retryable) : gateway.Repeatable key action log := by
  obtain ⟨existing, first, rest, rfl, asked, h⟩ | ⟨e, -, same⟩ := runs_bind.1 dispatching
  swap
  · cases same
  obtain ⟨retry, rfl, -⟩ := runs_retryCheck.1 asked
  cases existing with
  | none =>
    obtain ⟨-, same⟩ := runs_pure.1 h
    obtain rfl := (Prod.mk.inj (Except.ok.inj same)).1
    cases retryable
  | some existing =>
    dsimp only at h
    split_ifs at h with stopped
    · obtain ⟨-, same⟩ := runs_pure.1 h
      obtain rfl := (Prod.mk.inj (Except.ok.inj same)).1
      cases retryable
    cases cached : existing.cachedReceipt with
    | some receipt =>
      simp only [cached] at h
      obtain ⟨rfl, -⟩ := runs_pure.1 h
      exact .inl (List.forall_mem_singleton.2 rfl)
    | none =>
      simp only [cached] at h
      rcases runs_checkedDispatch_retryable h retryable with
        quiet | ⟨cleared, sent, rest, rfl, clear, last⟩
      · exact .inl (List.forall_mem_cons.2 ⟨rfl, quiet⟩)
      · exact .inr ⟨_ :: cleared, sent, rest, rfl, List.forall_mem_cons.2 ⟨rfl, clear⟩, last⟩

end ToolGateway

/-! ## The keys of a ticket -/

namespace Ticket

variable (ticket : Ticket)

/-- The key of an attempt. -/
def refundKey (attempt : Nat) : String := ticket.ticketId ++ ":refund:" ++ toString attempt

theorem refundKey_injective : Function.Injective ticket.refundKey := by
  intro m n same
  rw [refundKey, refundKey, String.append_right_inj] at same
  exact Nat.repr_injective same

/-- A ticket whose keys are not those that inspections get. -/
def Named : Prop := ¬ "inspect".toList <+: ticket.ticketId.toList

variable {ticket}

theorem Named.apart (named : ticket.Named) (uuid : String) (n : Nat) :
    "inspect:" ++ uuid ≠ ticket.refundKey n := by
  intro same
  have texts : "inspect".toList ++ ':' :: uuid.toList =
      ticket.ticketId.toList ++ ':' :: ("refund:".toList ++ (toString n).toList) := by
    simpa [refundKey, String.toList_append] using congrArg String.toList same
  rcases le_or_gt 7 ticket.ticketId.toList.length with long | short
  · exact named (List.prefix_of_prefix_length_le (List.prefix_append _ (':' :: uuid.toList))
      (texts ▸ List.prefix_append _ _) long)
  · -- The name of the ticket ends within the word, and a colon follows it.
    have colon : ("inspect".toList ++ ':' :: uuid.toList)[ticket.ticketId.toList.length]? =
        some ':' := by
      rw [texts]
      simp
    rw [List.getElem?_append_left short] at colon
    revert colon
    generalize ticket.ticketId.toList.length = k at short
    interval_cases k <;> decide

variable (ticket)

/-- A command that is not under the key of an attempt. -/
def Foreign (command : ActionCommand) : Prop :=
  ∀ n, command.idempotencyKey ≠ some (ticket.refundKey n)

/-- Attempts have been made up to a number, and all before the last one have been rejected. -/
structure Tried [Python] (n : Nat) (run : RunSpace) : Prop where
  reachable : run.Reachable
  attempts : ∀ record ∈ run.epochReceipts, ∀ m, record.idempotencyKey = ticket.refundKey m →
    record.actionType = .refundOrder ∧ m ≤ n ∧ (m < n → record.status = .rejected)

/-- The attempt of a number is next. -/
structure Next [Python] (n : Nat) (run : RunSpace) : Prop extends ticket.Tried n run where
  unused : ∀ record ∈ run.epochReceipts, record.idempotencyKey ≠ ticket.refundKey n

variable {ticket} [Python] {n : Nat} {run : RunSpace} {command : ActionCommand}

/-- When the last attempt has not succeeded another one is next. -/
theorem Tried.next (h : ticket.Tried n run)
    (rejected : ∀ record ∈ run.epochReceipts, record.idempotencyKey = ticket.refundKey n →
      record.status = .rejected) : ticket.Next (n + 1) run where
  reachable := h.reachable
  attempts record mem m under := by
    obtain ⟨type, bound, before⟩ := h.attempts record mem m under
    refine ⟨type, by omega, fun _ => ?_⟩
    rcases Nat.lt_or_eq_of_le bound with earlier | rfl
    · exact before earlier
    · exact rejected record mem under
  unused record mem under := by
    obtain ⟨-, bound, -⟩ := h.attempts record mem _ under
    omega

/-- The attempts of a ticket have one success at most. -/
theorem Tried.once (h : ticket.Tried n run) {a b : ActionReceiptRecord}
    (ha : a ∈ run.epochReceipts) (hb : b ∈ run.epochReceipts) {i j : Nat}
    (under : a.idempotencyKey = ticket.refundKey i) (under' : b.idempotencyKey = ticket.refundKey j)
    (succeeded : a.status = .succeeded) (succeeded' : b.status = .succeeded) : a = b := by
  have last {record : ActionReceiptRecord} (mem : record ∈ run.epochReceipts) {m : Nat}
      (under : record.idempotencyKey = ticket.refundKey m)
      (succeeded : record.status = .succeeded) :
      record.actionType = .refundOrder ∧ m = n := by
    obtain ⟨type, bound, before⟩ := h.attempts record mem m under
    refine ⟨type, (Nat.lt_or_eq_of_le bound).resolve_left fun earlier => ?_⟩
    rw [before earlier] at succeeded
    cases succeeded
  obtain ⟨type, rfl⟩ := last ha under succeeded
  obtain ⟨type', rfl⟩ := last hb under' succeeded'
  exact h.reachable.receipt_unique ha hb (type.trans type'.symm) (under.trans under'.symm)

end Ticket

/-- A command adds one receipt at most, under its own key. -/
theorem RunSpace.epochReceipts_execute [Python] (run : RunSpace) (command : ActionCommand)
    (now : Nat) (uuid : String) :
    (run.execute command now uuid).1.epochReceipts = run.epochReceipts ∨
      ∃ record, (run.execute command now uuid).1.epochReceipts = run.epochReceipts ++ [record] ∧
        record.actionType = command.action ∧
        record.idempotencyKey = effectiveKey command uuid := by
  rcases execute_cases run command now uuid with same | ⟨record, -, performed, -⟩
  · exact .inl (by rw [same])
  · refine .inr ⟨record, perform_receipts performed, ?_⟩
    rcases perform_ok performed with ⟨-, ⟨_, _, -, rfl, -⟩ | ⟨_, -, rfl, -⟩⟩ <;> exact ⟨rfl, rfl⟩

/-- A command for which the application answers that it has failed changes nothing. -/
theorem RunSpace.execute_of_denied [Python] {run : RunSpace} {command : ActionCommand} {now : Nat}
    {uuid : String} (bound : (run.execute command now uuid).2.toHttp.status < 500)
    (denied : (run.execute command now uuid).2.toHttp.status ≠ 200) :
    (run.execute command now uuid).1 = run := by
  rcases execute_cases run command now uuid with same | ⟨record, -, -, reply⟩
  · exact same
  · rw [reply] at bound denied
    unfold acknowledge at bound denied
    split_ifs at bound denied
    · exact absurd bound (by rw [Reply.toHttp]; decide)
    · exact absurd rfl denied

namespace Ticket

variable {ticket : Ticket} [Python] {n : Nat} {run : RunSpace} {command : ActionCommand}

omit [Python] in
/-- A command with another key is not executed under the key of an attempt. -/
theorem Foreign.effectiveKey_ne (foreign : ticket.Foreign command) (named : ticket.Named)
    (uuid : String) (m : Nat) : RunSpace.effectiveKey command uuid ≠ ticket.refundKey m := by
  unfold RunSpace.effectiveKey
  cases keyed : command.idempotencyKey with
  | none => exact named.apart uuid m
  | some key => exact fun same => foreign m (keyed.trans (congrArg some same))

/-- Commands with other keys keep it. -/
def Kept (ticket : Ticket) (P : RunSpace → Prop) : Prop :=
  ∀ run command now uuid, ticket.Foreign command → P run → P (run.execute command now uuid).1

theorem Tried.foreign (h : ticket.Tried n run) (named : ticket.Named)
    (foreign : ticket.Foreign command) (now : Nat) (uuid : String) :
    ticket.Tried n (run.execute command now uuid).1 where
  reachable := h.reachable.apply (.execute command uuid now)
  attempts record mem m under := by
    rcases run.epochReceipts_execute command now uuid with same | ⟨added, same, -, key⟩
    · exact h.attempts record (same ▸ mem) m under
    · rw [same] at mem
      rcases List.mem_append.1 mem with mem | mem
      · exact h.attempts record mem m under
      · obtain rfl := List.mem_singleton.1 mem
        exact absurd (key.symm.trans under) (foreign.effectiveKey_ne named uuid m)

theorem Next.foreign (h : ticket.Next n run) (named : ticket.Named)
    (foreign : ticket.Foreign command) (now : Nat) (uuid : String) :
    ticket.Next n (run.execute command now uuid).1 where
  toTried := h.toTried.foreign named foreign now uuid
  unused record mem under := by
    rcases run.epochReceipts_execute command now uuid with same | ⟨added, same, -, key⟩
    · exact h.unused record (same ▸ mem) under
    · rw [same] at mem
      rcases List.mem_append.1 mem with mem | mem
      · exact h.unused record mem under
      · obtain rfl := List.mem_singleton.1 mem
        exact absurd (key.symm.trans under) (foreign.effectiveKey_ne named uuid n)

theorem Named.kept_tried (named : ticket.Named) (n : Nat) : ticket.Kept (ticket.Tried n) :=
  fun _ _ now uuid foreign h => h.foreign named foreign now uuid

theorem Named.kept_next (named : ticket.Named) (n : Nat) : ticket.Kept (ticket.Next n) :=
  fun _ _ now uuid foreign h => h.foreign named foreign now uuid

/-- The command of the attempt itself. -/
theorem Tried.own (h : ticket.Tried n run) (refund : command.action = .refundOrder)
    (keyed : command.idempotencyKey = some (ticket.refundKey n)) (now : Nat) (uuid : String) :
    ticket.Tried n (run.execute command now uuid).1 where
  reachable := h.reachable.apply (.execute command uuid now)
  attempts record mem m under := by
    rcases run.epochReceipts_execute command now uuid with same | ⟨added, same, type, key⟩
    · exact h.attempts record (same ▸ mem) m under
    · rw [same] at mem
      rcases List.mem_append.1 mem with mem | mem
      · exact h.attempts record mem m under
      · obtain rfl := List.mem_singleton.1 mem
        rw [RunSpace.effectiveKey, keyed] at key
        obtain rfl := ticket.refundKey_injective (under.symm.trans key)
        exact ⟨type.trans refund, le_rfl, fun earlier => absurd earlier (lt_irrefl m)⟩

end Ticket

/-! ## The exchanges of an attempt -/

/-- What holds of a run, where only commands under other keys are late. -/
structure Ticket.Holds (ticket : Ticket) (P : RunSpace → Prop) (d : Deployment) : Prop where
  run : P d.run
  late : ∀ command ∈ d.late, ticket.Foreign command

section Exchanges

variable [Python] {ticket : Ticket} {traffic : Traffic} {d d' : Deployment} {n : Nat}
  {P : RunSpace → Prop}

/-- Other commands keep it. -/
theorem Ticket.Holds.moves (others : ∀ command, traffic.others command → ticket.Foreign command)
    (kept : ticket.Kept P) (moves : Deployment.Moves traffic d d') (h : ticket.Holds P d) :
    ticket.Holds P d' := by
  cases moves with
  | arrives sent => exact ⟨kept _ _ _ _ (sent.elim (others _) (h.late _)) h.run, h.late⟩

/-- Checks keep it. -/
theorem Ticket.Holds.quiet (others : ∀ command, traffic.others command → ticket.Foreign command)
    (kept : ticket.Kept P) {log : List (Exchange ToolAnswer)} (quiet : Quiet log)
    (chain : Chain traffic.service d log d') (h : ticket.Holds P d) : ticket.Holds P d' := by
  refine chain.keeps (fun exchange mem d d' served h => ?_) h
  obtain ⟨d₁, h₁, answers⟩ := Service.moving_keeps
    (fun _ _ moves => Ticket.Holds.moves others kept moves) served h
  exact answers.unchanged (quiet exchange mem) ▸ h₁

namespace Deployment

variable {action : SimAction} {reply : HttpReply}

/-- A POST under another key keeps it. -/
theorem Posts.foreign
    (kept : ticket.Kept P) (prompt : ¬ traffic.delays)
    (foreign : ∀ m, action.idempotencyKey ≠ some (ticket.refundKey m))
    (posts : d.Posts traffic action.toHttpPayload reply d') (h : ticket.Holds P d) :
    ticket.Holds P d' := by
  obtain rfl | ⟨command, read, ⟨now, uuid, rfl⟩ | ⟨delays, -⟩⟩ := posts.cases
  · exact h
  · obtain ⟨-, -, key, -⟩ := SimAction.command_of_payload read
    exact ⟨kept _ _ _ _ (fun m => key ▸ foreign m) h.run, h.late⟩
  · exact absurd delays prompt

variable (refund : action.actionType = .refundOrder)
  (keyed : action.idempotencyKey = some (ticket.refundKey n))

include refund keyed

/-- The POST of an attempt. -/
theorem Posts.tried (prompt : ¬ traffic.delays)
    (posts : d.Posts traffic action.toHttpPayload reply d') (h : ticket.Holds (ticket.Tried n) d) :
    ticket.Holds (ticket.Tried n) d' := by
  obtain rfl | ⟨command, read, ⟨now, uuid, rfl⟩ | ⟨delays, -⟩⟩ := posts.cases
  · exact h
  · obtain ⟨type, -, key, -⟩ := SimAction.command_of_payload read
    exact ⟨h.run.own (type.trans refund) (key.trans keyed) now uuid, h.late⟩
  · exact absurd delays prompt

/-- When it is denied, another attempt is next. -/
theorem Posts.denied (prompt : ¬ traffic.delays)
    (posts : d.Posts traffic action.toHttpPayload reply d') (denied : ToolGateway.Denied reply)
    (h : ticket.Holds (ticket.Next n) d) : ticket.Holds (ticket.Next (n + 1)) d' := by
  obtain ⟨status, body, rfl, bound, rejected⟩ := denied
  have tried : ticket.Holds (ticket.Tried n) d' :=
    posts.tried refund keyed prompt ⟨h.run.toTried, h.late⟩
  refine ⟨tried.run.next ?_, tried.late⟩
  -- Nothing is executed, or what is executed is answered.
  have unchanged (same : d' = d) : ∀ record ∈ d'.run.epochReceipts,
      record.idempotencyKey = ticket.refundKey n → record.status = .rejected :=
    fun record mem under => absurd under (h.run.unused record (same ▸ mem))
  cases posts with
  | refused _ => exact unchanged rfl
  | dropped lost | unacknowledged lost | delayed lost => exact absurd lost (not_le.2 bound)
  | @answered complaints now uuid =>
    rcases d.run.executeAction_cases complaints action.toHttpPayload now uuid with
      ⟨command, read, same⟩ | ⟨same, -⟩
    swap
    · exact unchanged (by rw [same])
    rw [same] at bound rejected
    by_cases ok : (d.run.execute command now uuid).2.toHttp.status = 200
    · obtain ⟨receipt, body, status⟩ := rejected ok
      obtain ⟨answer, answered⟩ := Reply.toHttp_ok ok
      obtain ⟨type, -, key, -⟩ := SimAction.command_of_payload read
      obtain ⟨record, found, rfl⟩ := RunSpace.receipt_of_execute (key.trans keyed) answered
      rw [answered] at body
      obtain rfl := Option.some.inj body
      intro other mem under
      have own := tried.run.reachable.existing_of_mem mem
      rw [(tried.run.attempts other mem n under).1, under] at own
      rw [same, ← refund, ← type, found] at own
      obtain rfl := Option.some.inj own
      exact status_of_receipt status
    · exact unchanged (by rw [same, RunSpace.execute_of_denied bound ok])

omit refund keyed in
/-- When no success is found under the key of an attempt, another one is next. -/
theorem Looks.next [UnicodeTables] (unknown : UnicodeTables.upper "UNKNOWN" ≠ "ALLOW")
    (looks : d.Looks (ticket.refundKey n) reply)
    (allows : (RuntimeGate.retryCheck (ticket.refundKey n) reply).Allows)
    (rejected : ∀ receipt,
      GuardAnswer.receipt? (RuntimeGate.retryCheck (ticket.refundKey n) reply) = some receipt →
      receipt.get "status" = .str "REJECTED")
    (h : ticket.Tried n d.run) : ticket.Next (n + 1) d.run := by
  -- A lookup that has failed does not allow another attempt.
  have failed (cause : String × Json) :
      ¬ (RuntimeGate.lookupFailed (ticket.refundKey n) cause).Allows := by
    rintro ⟨verdict, read, allow⟩
    obtain rfl := Option.some.inj read
    exact unknown allow
  refine h.next fun record mem under => ?_
  cases looks with
  | answered =>
    rw [HttpResponse.reply] at allows rejected
    unfold RuntimeGate.retryCheck at allows rejected
    dsimp only at allows rejected
    split_ifs at allows rejected with missing answered
    · exact absurd under (d.run.of_showReceipt_missing missing record mem)
    · exact absurd allows (failed _)
    · obtain ⟨own, mem', under', shown⟩ := d.run.of_showReceipt (not_ne_iff.1 answered)
      have type := (h.attempts record mem n under).1
      have type' := (h.attempts own mem' n under').1
      obtain rfl := h.reachable.receipt_unique mem mem' (type.trans type'.symm)
        (under.trans under'.symm)
      rw [shown] at rejected
      exact status_of_receipt (rejected _ rfl)
  | failed failure =>
    cases reply with
    | response status body =>
      obtain ⟨other, missing⟩ : status ≠ 200 ∧ status ≠ 404 := by
        have := failure status body rfl
        simp only [List.mem_cons, List.not_mem_nil, or_false, not_or] at this
        exact this
      unfold RuntimeGate.retryCheck at allows
      dsimp only at allows
      rw [if_neg missing, if_pos other] at allows
      exact absurd allows (failed _)
    | timeout _ | httpError _ => exact absurd allows (failed _)
    | raised _ =>
      obtain ⟨_, none, -⟩ := allows
      cases none

end Deployment

end Exchanges

/-! ## The attempts -/

namespace ToolGateway

variable [Python] [UnicodeTables] {gateway : ToolGateway} {ticket : Ticket} {traffic : Traffic}
  {d d' : Deployment} {n : Nat} {action : SimAction}

/-- A guarded attempt is the one of its number. -/
theorem dispatch_tried (named : ticket.Named) (prompt : ¬ traffic.delays)
    (others : ∀ command, traffic.others command → ticket.Foreign command)
    (refund : action.actionType = .refundOrder)
    (keyed : action.idempotencyKey = some (ticket.refundKey n)) {log : List (Exchange ToolAnswer)}
    {r : Except ToolException (ToolResult × GuardTrace)}
    (dispatching : Runs (gateway.guardedDispatch action (ticket.refundKey n) {}) log r)
    (chain : Chain traffic.service d log d') (h : ticket.Holds (ticket.Tried n) d) :
    ticket.Holds (ticket.Tried n) d' := by
  have kept := named.kept_tried n
  obtain ⟨-, ⟨quiet, -⟩ | ⟨cleared, sent, rest, rfl, clear, quiet, -⟩⟩ :=
    runs_guardedDispatch dispatching
  · exact h.quiet others kept quiet chain
  · obtain ⟨d₁, checks, chain⟩ := chain_append.1 chain
    obtain ⟨d₂, posted, chain⟩ := chain_cons.1 chain
    obtain ⟨d₃, h, answers⟩ := Service.moving_keeps
      (fun _ _ moves => Ticket.Holds.moves others kept moves) posted
      (h.quiet others kept clear.quiet checks)
    exact (answers.2.tried refund keyed prompt h).quiet others kept quiet chain

/-- When it may be tried again, another attempt is next. -/
theorem dispatch_next (unknown : UnicodeTables.upper "UNKNOWN" ≠ "ALLOW") (named : ticket.Named)
    (prompt : ¬ traffic.delays)
    (others : ∀ command, traffic.others command → ticket.Foreign command)
    (refund : action.actionType = .refundOrder)
    (keyed : action.idempotencyKey = some (ticket.refundKey n)) {log : List (Exchange ToolAnswer)}
    {result : ToolResult} {trace : GuardTrace}
    (dispatching : Runs (gateway.guardedDispatch action (ticket.refundKey n) {}) log
      (.ok (result, trace)))
    (retryable : result.retryable) (chain : Chain traffic.service d log d')
    (h : ticket.Holds (ticket.Next n) d) : ticket.Holds (ticket.Next (n + 1)) d' := by
  have kept := named.kept_next n
  rcases runs_guardedDispatch_retryable dispatching retryable with
    quiet | ⟨cleared, sent, rest, rfl, clear, last⟩
  · have h := h.quiet others kept quiet chain
    refine ⟨h.run.toTried.next fun record mem under => ?_, h.late⟩
    exact absurd under (h.run.unused record mem)
  obtain ⟨d₁, checks, chain⟩ := chain_append.1 chain
  obtain ⟨d₂, posted, chain⟩ := chain_cons.1 chain
  obtain ⟨d₃, h, answers⟩ := Service.moving_keeps
    (fun _ _ moves => Ticket.Holds.moves others kept moves) posted
    (h.quiet others kept clear checks)
  rcases last with ⟨rfl, denied⟩ | ⟨again, rfl, allows, rejected⟩
  · obtain rfl := chain_nil.1 chain
    exact answers.2.denied refund keyed prompt denied h
  · obtain ⟨d₄, looked, chain⟩ := chain_cons.1 chain
    obtain rfl := chain_nil.1 chain
    have tried := answers.2.tried refund keyed prompt ⟨h.run.toTried, h.late⟩
    obtain ⟨d₅, tried, -, rfl, reply, looks, rfl⟩ := Service.moving_keeps
      (fun _ _ moves => Ticket.Holds.moves others (named.kept_tried n) moves) looked tried
    exact ⟨looks.next unknown allows rejected tried.run, tried.late⟩

/-- What holds of one attempt, however it ends. -/
theorem call_attempt (unknown : UnicodeTables.upper "UNKNOWN" ≠ "ALLOW") (named : ticket.Named)
    (prompt : ¬ traffic.delays)
    (others : ∀ command, traffic.others command → ticket.Foreign command)
    (guarded : gateway.guarded) (refund : action.actionType = .refundOrder)
    (keyed : action.idempotencyKey = some (ticket.refundKey n)) {calls : List ToolCallRecord}
    {outcome : Except ToolException (ToolResult × List ToolCallRecord)}
    (served : Served traffic.service d (gateway.call action calls) d' outcome)
    (h : ticket.Holds (ticket.Next n) d) :
    ticket.Holds (ticket.Tried n) d' ∧
      ∀ result calls', outcome = .ok (result, calls') →
        (result.succeeded → ∃ record ∈ d'.run.epochReceipts,
          record.idempotencyKey = ticket.refundKey n ∧ record.status = .succeeded) ∧
        (result.retryable → ticket.Holds (ticket.Next (n + 1)) d') := by
  have first : ticket.Holds (ticket.Tried n) d := ⟨h.run.toTried, h.late⟩
  obtain ⟨rfl, e, rfl⟩ | ⟨-, r, ⟨log, dispatching, chain⟩, said⟩ := served_call served
  · exact ⟨first, fun _ _ same => by cases same⟩
  have write : writes action = true := by
    rw [writes, refund]
    decide
  rw [dispatch_guarded guarded write keyed] at dispatching
  refine ⟨dispatch_tried named prompt others refund keyed dispatching chain first,
    fun result calls' same => ?_⟩
  obtain ⟨trace, rfl⟩ := said result calls' same
  refine ⟨fun succeeded => ?_, fun retryable =>
    dispatch_next unknown named prompt others refund keyed dispatching retryable chain h⟩
  obtain ⟨name, vouched⟩ := vouched_guarded h.run.reachable keyed dispatching chain succeeded
  obtain ⟨record, mem, -, under, status⟩ := vouched.record
  exact ⟨record, mem, under, status⟩

end ToolGateway

namespace RefundAgent

variable [Python] [UnicodeTables] {agent : RefundAgent} {ticket : Ticket} {traffic : Traffic}
  {d d' : Deployment}

/-- What the agent decides to do. -/
theorem decideTicket_action {snapshot : Json} {action : AgentAction}
    (decided : decideTicket ticket snapshot = .ok (.action action)) :
    ∃ request orders order, parseRefundRequest ticket.text = some request ∧
      ordersById snapshot = some orders ∧ orders.lookup request.orderId = some order ∧
      action.actionType = .refundOrder ∧ action.arguments = [("amount",
        .str ((request.amount.map Json.str).getD (order.get "paid_amount")).toStr)] := by
  have escalates {reason : String} : escalation reason ≠ .ok (.action action) := by
    unfold escalation AgentDecision.checked
    split_ifs
    · exact fun same => by cases same
    · exact fun same => by cases same
  unfold decideTicket at decided
  split at decided
  · exact absurd decided escalates
  next request parsed =>
  split at decided
  · exact absurd decided escalates
  next orders read =>
  split at decided
  · exact absurd decided escalates
  next order found =>
  split at decided
  · cases decided
  · exact absurd decided escalates
  unfold decideAmount at decided
  dsimp only at decided
  split_ifs at decided
  · exact absurd decided escalates
  · unfold AgentDecision.checked at decided
    split_ifs at decided
    obtain rfl := AgentDecision.action.inj (Except.ok.inj decided)
    exact ⟨request, orders, order, parsed, read, found, rfl, rfl⟩

theorem refund_of_decideTicket {snapshot : Json} {action : AgentAction}
    (decided : decideTicket ticket snapshot = .ok (.action action)) :
    action.actionType = .refundOrder := by
  obtain ⟨_, _, _, -, -, -, refund, -⟩ := decideTicket_action decided
  exact refund

/-- What holds at the end of the attempts for a ticket. -/
structure Settled (ticket : Ticket) (d : Deployment)
    (outcome : Except ToolException (AgentReport × List ToolCallRecord)) : Prop where
  tried : ∃ n, ticket.Tried n d.run
  claimed : ∀ report calls, outcome = .ok (report, calls) → report.claimedComplete →
    ∃ record ∈ d.run.epochReceipts, ∃ n, record.idempotencyKey = ticket.refundKey n ∧
      record.actionType = .refundOrder ∧ record.status = .succeeded

omit [UnicodeTables] in
theorem Settled.escalated {steps : List AgentStep} {reason : String} {calls : List ToolCallRecord}
    {n : Nat} (h : ticket.Tried n d.run) :
    Settled ticket d (.ok (escalated ticket steps reason, calls)) where
  tried := ⟨n, h⟩
  claimed report calls' same claims := by
    obtain ⟨rfl, -⟩ := Prod.mk.inj (Except.ok.inj same)
    cases claims

omit [UnicodeTables] in
theorem Settled.raised {e : ToolException} {n : Nat} (h : ticket.Tried n d.run) :
    Settled ticket d (.error e) where
  tried := ⟨n, h⟩
  claimed _ _ same := by cases same

theorem tryAttempts_settled (unknown : UnicodeTables.upper "UNKNOWN" ≠ "ALLOW")
    (named : ticket.Named) (prompt : ¬ traffic.delays)
    (others : ∀ command, traffic.others command → ticket.Foreign command)
    (guarded : agent.gateway.guarded) {action : SimAction}
    (refund : action.actionType = .refundOrder) {attempts n : Nat} {steps : List AgentStep}
    {calls : List ToolCallRecord}
    {outcome : Except ToolException (AgentReport × List ToolCallRecord)}
    (served : Served traffic.service d
      (agent.tryAttempts ticket action (List.range' n attempts) steps calls) d' outcome)
    (h : ticket.Holds (ticket.Next n) d) : Settled ticket d' outcome := by
  induction attempts generalizing n d steps calls with
  | zero =>
    obtain ⟨rfl, rfl⟩ := served_pure.1 served
    exact .escalated h.run.toTried
  | succ attempts ih =>
    rw [List.range'_succ, tryAttempts] at served
    have attempt {d₁ : Deployment}
        {called : Except ToolException (ToolResult × List ToolCallRecord)}
        (calling : Served traffic.service d
          (agent.gateway.call (keyedAction ticket action n) calls) d₁ called) :=
      ToolGateway.call_attempt unknown named prompt others guarded
        (show (keyedAction ticket action n).actionType = .refundOrder from refund) rfl calling h
    obtain ⟨called, d₁, calling, rest⟩ | ⟨e, calling, rfl⟩ := served_bind.1 served
    swap
    · exact .raised (attempt calling).1.run
    obtain ⟨tried, said⟩ := attempt calling
    obtain ⟨success, again⟩ := said called.1 called.2 rfl
    dsimp only at rest
    split_ifs at rest with succeeded final
    · obtain ⟨rfl, rfl⟩ := served_pure.1 rest
      obtain ⟨record, mem, under, status⟩ := success succeeded
      exact ⟨⟨n, tried.run⟩, fun _ _ _ _ => ⟨record, mem, n, under,
        (tried.run.attempts record mem n under).1, status⟩⟩
    · exact ih rest (again final)
    · obtain ⟨rfl, rfl⟩ := served_pure.1 rest
      exact .escalated tried.run

/-- The inspection changes nothing for a ticket. -/
theorem readState_next (named : ticket.Named) (prompt : ¬ traffic.delays)
    (others : ∀ command, traffic.others command → ticket.Foreign command) {n : Nat}
    {calls : List ToolCallRecord}
    {outcome : Except ToolException ((Option Json × AgentStep) × List ToolCallRecord)}
    (served : Served traffic.service d (agent.readState calls) d' outcome)
    (h : ticket.Holds (ticket.Next n) d) : ticket.Holds (ticket.Next n) d' := by
  have kept := named.kept_next n
  have call {d₁ : Deployment} {called : Except ToolException (ToolResult × List ToolCallRecord)}
      (calling : Served traffic.service d (agent.gateway.call inspection calls) d₁ called) :
      ticket.Holds (ticket.Next n) d₁ := by
    obtain ⟨rfl, -⟩ | ⟨-, r, ⟨log, dispatching, chain⟩, -⟩ := ToolGateway.served_call calling
    · exact h
    have reads : ¬ ToolGateway.writes inspection := by decide
    obtain ⟨r', sending, -⟩ := ToolGateway.runs_dispatch_bare (.inr reads) dispatching
    obtain ⟨reply, rfl, -⟩ := ToolGateway.runs_send sending
    obtain ⟨d₂, posted, chain⟩ := chain_cons.1 chain
    obtain rfl := chain_nil.1 chain
    obtain ⟨d₃, h, answers⟩ := Service.moving_keeps
      (fun _ _ moves => Ticket.Holds.moves others kept moves) posted h
    have keyless (m : Nat) : inspection.idempotencyKey ≠ some (ticket.refundKey m) :=
      fun same => by cases same
    exact answers.2.foreign kept prompt keyless h
  obtain ⟨called, d₁, calling, returned⟩ | ⟨e, calling, -⟩ := served_bind.1 served
  · obtain ⟨rfl, -⟩ := served_pure.1 returned
    exact call calling
  · exact call calling

theorem handle_settled (unknown : UnicodeTables.upper "UNKNOWN" ≠ "ALLOW")
    (named : ticket.Named) (prompt : ¬ traffic.delays)
    (others : ∀ command, traffic.others command → ticket.Foreign command)
    (guarded : agent.gateway.guarded) {calls : List ToolCallRecord}
    {outcome : Except ToolException (AgentReport × List ToolCallRecord)}
    (served : Served traffic.service d (agent.handle ticket calls) d' outcome)
    (h : ticket.Holds (ticket.Next 1) d) : Settled ticket d' outcome := by
  obtain ⟨state, d₁, reading, rest⟩ | ⟨e, reading, rfl⟩ := served_bind.1 served
  swap
  · exact .raised (readState_next named prompt others reading h).run.toTried
  have h := readState_next named prompt others reading h
  cases read : state.1.1 with
  | none =>
    rw [read] at rest
    obtain ⟨rfl, rfl⟩ := served_pure.1 rest
    exact .escalated h.run.toTried
  | some snapshot =>
    rw [read] at rest
    dsimp only at rest
    cases decided : decideTicket ticket snapshot with
    | error e =>
      rw [decided] at rest
      obtain ⟨rfl, rfl⟩ := served_raise.1 rest
      exact .raised h.run.toTried
    | ok decision =>
      rw [decided] at rest
      cases decision with
      | escalate reason =>
        obtain ⟨rfl, rfl⟩ := served_pure.1 rest
        exact .escalated h.run.toTried
      | action action =>
        exact tryAttempts_settled unknown named prompt others guarded
          (refund_of_decideTicket decided) rest h

/-- Handling a ticket refunds once at most, however it ends: if no receipt and no late write is
    under a key of the ticket before, other clients do not use these keys, and no write arrives
    late, then at most one refund under these keys has succeeded afterwards, and if the agent
    claims completion then one has. -/
theorem handle_once (unknown : UnicodeTables.upper "UNKNOWN" ≠ "ALLOW") (named : ticket.Named)
    (prompt : ¬ traffic.delays)
    (others : ∀ command, traffic.others command ∨ command ∈ d.late → ticket.Foreign command)
    (guarded : agent.gateway.guarded) (reachable : d.run.Reachable)
    (fresh : ∀ record ∈ d.run.epochReceipts, ∀ n, record.idempotencyKey ≠ ticket.refundKey n)
    {calls : List ToolCallRecord}
    {outcome : Except ToolException (AgentReport × List ToolCallRecord)}
    (served : Served traffic.service d (agent.handle ticket calls) d' outcome) :
    (∀ a ∈ d'.run.epochReceipts, ∀ b ∈ d'.run.epochReceipts, ∀ i j,
      a.idempotencyKey = ticket.refundKey i → b.idempotencyKey = ticket.refundKey j →
      a.status = .succeeded → b.status = .succeeded → a = b) ∧
    ∀ report calls', outcome = .ok (report, calls') → report.claimedComplete →
      ∃ record ∈ d'.run.epochReceipts, ∃ n, record.idempotencyKey = ticket.refundKey n ∧
        record.actionType = .refundOrder ∧ record.status = .succeeded := by
  have first : ticket.Next 1 d.run :=
    ⟨⟨reachable, fun record mem m under => absurd under (fresh record mem m)⟩,
      fun record mem => fresh record mem 1⟩
  obtain ⟨⟨n, tried⟩, claimed⟩ := handle_settled unknown named prompt
    (fun command sent => others command (.inl sent)) guarded served
    ⟨first, fun command late => others command (.inr late)⟩
  exact ⟨fun a ha b hb i j under under' succeeded succeeded' =>
    tried.once ha hb under under' succeeded succeeded', claimed⟩

end RefundAgent

/-- The action that is decided on. -/
def decidedAction [Python] [UnicodeTables] (ticket : Ticket) (snapshot : Json) : Option SimAction :=
  match decideTicket ticket snapshot with
  | .ok (.action action) => some action.toSimAction
  | _ => none

theorem decidedAction_eq_some [Python] [UnicodeTables] {ticket : Ticket} {snapshot : Json}
    {refund : SimAction} : decidedAction ticket snapshot = some refund ↔
      ∃ action, decideTicket ticket snapshot = .ok (.action action) ∧
        action.toSimAction = refund := by
  unfold decidedAction
  cases decideTicket ticket snapshot with
  | error e => simp
  | ok decision => cases decision <;> simp

/-! ## An agent that is answered at once -/

namespace RefundAgent

section Serving

variable [Python] [UnicodeTables] {clock : RunSpace → Nat} {uuid : RunSpace → String}
  {d d₁ : Deployment} {ticket : Ticket} {action : SimAction} {n : Nat}

/-- The inspection is a POST. -/
theorem serving_readState {agent : RefundAgent} (bound : agent.gateway.runId = d.run.id)
    (calls : List ToolCallRecord) :
    ∃ step calls', d.serving clock uuid (agent.readState calls) =
      some (d.posted clock uuid inspection,
        .ok ((inspectedSnapshot (d.result clock uuid inspection), step), calls')) := by
  have reads : ¬ ToolGateway.writes inspection := by decide
  obtain ⟨calls', called⟩ := @serving_bare _ _ clock uuid d agent.gateway inspection calls bound
    (.inr reads) fun h => reads h.1
  exact ⟨_, calls', (serve_bind called).trans serve_pure⟩

/-- An attempt ends the handling of the ticket, or is followed by the next one. -/
theorem serving_attempt {agent : RefundAgent} {result : ToolResult}
    {calls calls' : List ToolCallRecord}
    (called : d.serving clock uuid (agent.gateway.call (keyedAction ticket action n) calls) =
      some (d₁, .ok (result, calls'))) (attempts : List Nat) (steps : List AgentStep) :
    ∃ steps', d.serving clock uuid (agent.tryAttempts ticket action (n :: attempts) steps calls) =
      if result.succeeded then some (d₁, .ok (completed ticket steps', calls'))
      else if result.retryable then
        d₁.serving clock uuid (agent.tryAttempts ticket action attempts steps' calls')
      else some (d₁, .ok (escalated ticket steps' (stopReason result), calls')) := by
  refine ⟨steps ++ [stepOf (keyedAction ticket action n) result], ?_⟩
  rw [tryAttempts]
  refine (serve_bind called).trans ?_
  dsimp only
  by_cases succeeded : result.succeeded = true
  · rw [if_pos succeeded, if_pos succeeded]
    rfl
  · rw [if_neg succeeded, if_neg succeeded]
    by_cases retryable : result.retryable = true
    · rw [if_neg (not_not.2 retryable), if_pos retryable]
      rfl
    · rw [if_pos retryable, if_neg retryable]
      rfl

end Serving

end RefundAgent

section Recovered

variable [Python] [UnicodeTables] {clock : RunSpace → Nat} {uuid : RunSpace → String}
  {d d₁ : Deployment} {gateway : ToolGateway} {action : SimAction} {key : String}
  {decision : GateDecision} {receipt : Json}

/-- A refund that the gate lets pass and whose acknowledgement is lost comes to the receipt that
    is found afterwards, if its effect is seen. -/
theorem serving_recovered
    (upper : ∀ decision : GateDecisionType, UnicodeTables.upper decision.value = decision.value)
    (guarded : gateway.guarded) (write : ToolGateway.writes action)
    (keyed : action.idempotencyKey = some key) (named : key ≠ "")
    (posted : d.posted clock uuid action = d₁) (bound : gateway.runId = d.run.id)
    (bound₁ : gateway.runId = d₁.run.id) (free : (d.run.showReceipt key).status = 404)
    (decides : RuntimeGate.preCheck (some (d.run.snapshot (clock d.run))) d.run.id
      (.ofSim action) = .ok decision) (allows : decision.decision = .allow)
    (lost : (d.result clock uuid action).outcome = .timeout)
    (found : d₁.run.showReceipt key = ⟨200, some receipt⟩) (object : receipt.isObj)
    (succeeded : ReceiptSucceeded receipt)
    (effect : (RuntimeGate.postCheck (some (d₁.run.snapshot (clock d₁.run))) d₁.run.id
      (d.run.snapshot (clock d.run)) (d₁.run.snapshot (clock d₁.run))).decision = .allow)
    (calls : List ToolCallRecord) :
    ∃ calls', d.serving clock uuid (gateway.call action calls) =
      some (d₁, .ok (fromReceipt receipt action, calls')) := by
  -- The receipt is looked up before the write and after it.
  have unused : RuntimeGate.retryCheck key (d.run.showReceipt key).reply =
      .object {
        decision := some GateDecisionType.allow.value, reasonCode := some "RETRY_SAFE"
        detail := [("idempotency_key", .str key)] } := by
    rw [HttpResponse.reply, RuntimeGate.retryCheck, if_pos free]
    rfl
  have cached : RuntimeGate.retryCheck key (d₁.run.showReceipt key).reply =
      .object {
        decision := some GateDecisionType.allow.value, reasonCode := some "CACHED_RECEIPT"
        detail := [("idempotency_key", .str key)], cachedReceipt := some receipt } := by
    have whole : (some receipt).filter Json.isObj = some receipt := by
      rw [Option.filter_some, if_pos object]
    rw [found, HttpResponse.reply, RuntimeGate.retryCheck, whole]
    rfl
  have first : d.serving clock uuid (gateway.retryCheck key) = some (d, .ok (some {
      decision := GateDecisionType.allow.value, reasonCode := "RETRY_SAFE" })) := by
    rw [serving_retryCheck bound unused, readVerdict]
    simp only [upper]
    rfl
  have second : d₁.serving clock uuid (gateway.retryCheck key) = some (d₁, .ok (some {
      decision := GateDecisionType.allow.value, reasonCode := "CACHED_RECEIPT"
      cachedReceipt := some receipt })) := by
    rw [serving_retryCheck bound₁ cached, readVerdict]
    simp only [upper, Option.filter_some, object]
    rfl
  have checked : d.serving clock uuid (gateway.preCheck action) = some (d, .ok (some {
      decision := GateDecisionType.allow.value, reasonCode := decision.reasonCode.value })) := by
    rw [serving_preCheck bound rfl decides, readVerdict_toObject upper, allows]
  have sent : d.serving clock uuid (gateway.send action) =
      some (d₁, .ok (d.result clock uuid action)) := posted ▸ serving_send bound
  have allowed : ¬ GateDecisionType.allow.value ≠ "ALLOW" := not_not.2 rfl
  have whole : (fromReceipt receipt action).succeeded = true := succeeded_fromReceipt.2 succeeded
  -- What the parts of the dispatch come to, from the last to the first.
  have recovered (trace : GuardTrace) : ∃ trace', d₁.serving clock uuid
      (gateway.recover action key trace) =
        some (d₁, .ok (some (fromReceipt receipt action), trace')) := by
    refine ⟨trace.counted.noting {
      decision := GateDecisionType.allow.value, reasonCode := "CACHED_RECEIPT"
      cachedReceipt := some receipt }, (serve_bind second).trans ?_⟩
    dsimp only
    rw [if_neg allowed]
    rfl
  have confirmed (trace : GuardTrace) : ∃ trace', d₁.serving clock uuid
      (gateway.confirm action (d.run.snapshot (clock d.run)) (fromReceipt receipt action) trace) =
        some (d₁, .ok (fromReceipt receipt action, trace')) := by
    refine ⟨trace.counted.counted, (serve_bind (serving_snapshotOrNone bound₁)).trans
      ((serve_bind (serving_postCheck bound₁)).trans ?_)⟩
    rw [readVerdict_toObject upper, effect]
    dsimp only
    rw [if_neg allowed]
    rfl
  have finished (trace : GuardTrace) : ∃ trace', d₁.serving clock uuid
      (gateway.finish action key (d.run.snapshot (clock d.run)) (d.result clock uuid action)
        trace) = some (d₁, .ok (fromReceipt receipt action, trace')) := by
    obtain ⟨trace₁, recovers⟩ := recovered trace
    obtain ⟨trace₂, confirms⟩ := confirmed trace₁
    have settled : d₁.serving clock uuid (gateway.settle action key (d.result clock uuid action)
        trace) = some (d₁, .ok (fromReceipt receipt action, trace₁)) := by
      rw [ToolGateway.settle, if_pos lost]
      exact (serve_bind recovers).trans serve_pure
    refine ⟨trace₂, (serve_bind settled).trans ?_⟩
    dsimp only
    rw [if_neg (not_not.2 whole)]
    exact confirms
  have performed (trace : GuardTrace) : ∃ trace', d.serving clock uuid
      (gateway.perform action key trace) =
        some (d₁, .ok (fromReceipt receipt action, trace')) := by
    obtain ⟨trace', finishes⟩ := finished trace.counted
    exact ⟨trace', (serve_bind (serving_snapshotOrNone bound)).trans
      ((serve_bind sent).trans finishes)⟩
  have dispatched : ∃ trace, d.serving clock uuid
      (gateway.dispatch action (ToolGateway.writes action) {}) =
        some (d₁, .ok (fromReceipt receipt action, trace)) := by
    rw [ToolGateway.dispatch_guarded guarded write keyed]
    obtain ⟨trace, performs⟩ := performed _
    refine ⟨trace, (serve_bind first).trans ?_⟩
    dsimp only
    rw [if_neg allowed]
    exact (serve_bind checked).trans performs
  obtain ⟨trace, dispatches⟩ := dispatched
  refine serving_call (fun keyless => named ?_) dispatches
  rw [← keyless.2, keyed, Option.getD_some]

end Recovered

/-! ## A ticket with a lost acknowledgement -/

/-- An agent whose gateway is guarded. -/
def guardedAgent : RefundAgent := ⟨⟨"run", true⟩, 2, by decide⟩

def refundTicket : Ticket := ⟨"ticket-1", "user-1", "订单 order-1 退款 10.00"⟩

/-- An environment that loses the acknowledgement of refunds, after the order has been paid for. -/
def ackLostPaidRun : RunSpace :=
  letI := Python.transparent
  (createRun ackLostRequest "run").after paidHistory

/-- The deployment when the agent has inspected the run, and after the first attempt. -/
def inspectedDeployment : Deployment :=
  letI := Python.transparent
  Deployment.posted (fun _ => 4) (fun _ => "uuid") ⟨ackLostPaidRun, []⟩ inspection

/-- The first attempt at the refund that the ticket asks for. -/
def firstAttempt : SimAction :=
  keyedAction refundTicket
    (.build .refundOrder (some "order-1") [("amount", .str "10.00")]) 1

def attemptedDeployment : Deployment :=
  letI := Python.transparent
  inspectedDeployment.posted (fun _ => 4) (fun _ => "uuid") firstAttempt

/-- What comes of the ticket there. -/
def handledTicket :
    Option (Deployment × Except ToolException (AgentReport × List ToolCallRecord)) :=
  letI := Python.transparent
  letI := UnicodeTables.ascii
  serve (fun d => d.prompt (fun _ => 4) (fun _ => "uuid")) ⟨ackLostPaidRun, []⟩
    (guardedAgent.handle refundTicket [])

theorem inspected_decides :
    let _ := Python.transparent
    let _ := UnicodeTables.ascii
    ((inspectedSnapshot (Deployment.result (fun _ => 4) (fun _ => "uuid") ⟨ackLostPaidRun, []⟩
      inspection)).bind (decidedAction refundTicket)) =
        some (.build .refundOrder (some "order-1") [("amount", .str "10.00")]) := by
  decide +kernel

theorem inspected_allows :
    let _ := Python.transparent
    let _ := UnicodeTables.ascii
    (inspectedDeployment.run.showReceipt (refundTicket.refundKey 1)).status = 404 ∧
      (RuntimeGate.preCheck (some (inspectedDeployment.run.snapshot 4)) inspectedDeployment.run.id
        (.ofSim firstAttempt)).toOption.map GateDecision.decision = some .allow := by
  decide +kernel

theorem attempt_lost :
    let _ := Python.transparent
    (inspectedDeployment.result (fun _ => 4) (fun _ => "uuid") firstAttempt).outcome = .timeout ∧
      (attemptedDeployment.run.showReceipt (refundTicket.refundKey 1)).status = 200 ∧
      ((attemptedDeployment.run.showReceipt (refundTicket.refundKey 1)).body.filter fun receipt =>
        receipt.isObj ∧ receipt.get "status" = .str "SUCCEEDED").isSome := by
  decide +kernel

theorem attempt_seen :
    attemptedDeployment.run.stateJson.sortKeys.render ≠
      inspectedDeployment.run.stateJson.sortKeys.render := by
  decide +kernel

theorem lost_bound : "run" = ackLostPaidRun.id ∧ "run" = inspectedDeployment.run.id ∧
    "run" = attemptedDeployment.run.id := by
  decide +kernel

theorem handledTicket_completed :
    ∃ d' report calls, handledTicket = some (d', .ok (report, calls)) ∧ report.claimedComplete := by
  let _ := Python.transparent
  let _ := UnicodeTables.ascii
  have upper (decision : GateDecisionType) :
      UnicodeTables.upper decision.value = decision.value := by
    cases decision <;> decide +kernel
  have filled (text : String) : Python.sha256 text ≠ "" := by
    intro empty
    have length := congrArg String.length (show "sha256:" ++ text = "" from empty)
    rw [String.length_append] at length
    exact absurd (Nat.eq_zero_of_add_eq_zero_right length) (by decide)
  obtain ⟨bound, bound₁, bound₂⟩ := lost_bound
  obtain ⟨step, calls, state⟩ := @RefundAgent.serving_readState _ _ (fun _ => 4) (fun _ => "uuid")
    ⟨ackLostPaidRun, []⟩ guardedAgent bound []
  -- The agent reads the order and decides on the refund.
  obtain ⟨snapshot, shown, decided⟩ := Option.bind_eq_some_iff.1 inspected_decides
  obtain ⟨action, decides, same⟩ := decidedAction_eq_some.1 decided
  rw [shown] at state
  -- The first attempt is lost, and its receipt found.
  obtain ⟨free, allows⟩ := inspected_allows
  obtain ⟨decision, answered, allow⟩ := Option.map_eq_some_iff.1 allows
  have checks : RuntimeGate.preCheck (some (inspectedDeployment.run.snapshot 4))
      inspectedDeployment.run.id (.ofSim firstAttempt) = .ok decision := by
    cases h : RuntimeGate.preCheck (some (inspectedDeployment.run.snapshot 4))
        inspectedDeployment.run.id (.ofSim firstAttempt) with
    | error e =>
      rw [h] at answered
      cases answered
    | ok _ =>
      rw [h] at answered
      exact congrArg Except.ok (Option.some.inj answered)
  obtain ⟨lost, status, some⟩ := attempt_lost
  obtain ⟨receipt, found⟩ := Option.isSome_iff_exists.1 some
  obtain ⟨body, kept⟩ := Option.filter_eq_some_iff.1 found
  obtain ⟨object, succeeded⟩ := of_decide_eq_true kept
  have effect : attemptedDeployment.run.stateHash ≠ inspectedDeployment.run.stateHash := by
    intro same
    have texts := String.ofList_injective ((String.append_right_inj _).1 same)
    exact attempt_seen texts
  obtain ⟨calls', called⟩ := @serving_recovered _ _ (fun _ => 4) (fun _ => "uuid")
    inspectedDeployment attemptedDeployment guardedAgent.gateway firstAttempt
    (refundTicket.refundKey 1) decision receipt upper rfl rfl rfl (by decide) rfl bound₁ bound₂ free
    checks allow lost
    (by rw [← status, ← body]) object succeeded
    ((RuntimeGate.postCheck_allow filled _ _ _ _ _ _).2 effect) calls
  obtain ⟨steps, attempted⟩ := RefundAgent.serving_attempt called [2] [step]
  refine ⟨attemptedDeployment, completed refundTicket steps, calls', ?_, rfl⟩
  refine (serve_bind state).trans ?_
  dsimp only
  rw [decides, RefundAgent.carryOut, same]
  exact attempted.trans (if_pos (succeeded_fromReceipt.2 succeeded))

/-- The receipt is recovered, and the order is refunded once. -/
theorem RefundAgent.handle_once_ackLost :
    ∃ d' report calls, handledTicket = some (d', .ok (report, calls)) ∧
      (∀ a ∈ d'.run.epochReceipts, ∀ b ∈ d'.run.epochReceipts, ∀ i j,
        a.idempotencyKey = refundTicket.refundKey i → b.idempotencyKey = refundTicket.refundKey j →
        a.status = .succeeded → b.status = .succeeded → a = b) ∧
      ∃ record ∈ d'.run.epochReceipts, ∃ n, record.idempotencyKey = refundTicket.refundKey n ∧
        record.actionType = .refundOrder ∧ record.status = .succeeded := by
  let _ := Python.transparent
  let _ := UnicodeTables.ascii
  obtain ⟨d', report, calls, handled, claims⟩ := handledTicket_completed
  have served : Served (Traffic.service ⟨fun _ => False, False⟩) ⟨ackLostPaidRun, []⟩
      (guardedAgent.handle refundTicket []) d' (.ok (report, calls)) :=
    served_serve (fun d => d.prompt_service _) handled
  have keys : ∀ record ∈ ackLostPaidRun.epochReceipts,
      ¬ (":".toList <:+: record.idempotencyKey.toList) := by
    decide +kernel
  have fresh : ∀ record ∈ ackLostPaidRun.epochReceipts, ∀ n,
      record.idempotencyKey ≠ refundTicket.refundKey n := by
    intro record mem n under
    refine keys record mem ⟨"ticket-1".toList, "refund:".toList ++ (toString n).toList, ?_⟩
    rw [under, Ticket.refundKey, refundTicket, String.toList_append, String.toList_append]
    rfl
  have others (command : ActionCommand) (sent : False ∨ command ∈ []) :
      refundTicket.Foreign command := sent.elim False.elim fun mem => by cases mem
  have reachable : ackLostPaidRun.Reachable :=
    RunSpace.Reachable.after ⟨ackLostRequest, "run", [], rfl⟩ paidHistory
  have unknown : UnicodeTables.upper "UNKNOWN" ≠ "ALLOW" := by decide +kernel
  have named : refundTicket.Named := by
    rw [Ticket.Named]
    decide +kernel
  obtain ⟨once, claimed⟩ := RefundAgent.handle_once unknown named not_false others rfl reachable
    fresh served
  exact ⟨d', report, calls, handled, once, claimed report calls rfl claims⟩

end RuleArena
