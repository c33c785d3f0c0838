import RuleArena.Refund.Truth

/-!
# Refunds behind the gate

An environment that judges refunds by the original amount lets an order be refunded more
than was paid for it. Behind the gate that does not happen: a refund is sent only if it
fits into what is left of the payment in a snapshot, and if nobody else refunds and no
write is late it still fits when it is executed (`ToolGateway.calls_covered`). Whatever
else other clients do, an order that is paid for only changes by refunds
(`RunSpace.Spares`).
-/

namespace RuleArena

open Interaction

/-! ## Orders that are paid for -/

namespace RunSpace

variable {run run' : RunSpace} {command : ActionCommand} {key : String} {now : Nat}
  {outcome : Outcome}

/-- No order is refunded more than was paid for it. -/
def Covered (run : RunSpace) : Prop :=
  ∀ order ∈ run.orders, order.refundedAmount ≤ order.paidAmount

/-- What is done to orders leaves those that can be refunded as they are, and refunds nothing. -/
structure Spares (before after : List Order) : Prop where
  kept : ∀ id order, Table.find? Order.id before id = some order →
    order.status = .paid ∨ order.status = .partiallyRefunded →
    Table.find? Order.id after id = some order
  covered : (∀ order ∈ before, order.refundedAmount ≤ order.paidAmount) →
    ∀ order ∈ after, order.refundedAmount ≤ order.paidAmount

theorem Spares.rfl {orders : List Order} : Spares orders orders :=
  ⟨fun _ _ found _ => found, fun covered => covered⟩

/-- A new order that nothing has been paid for. -/
theorem Spares.append {orders : List Order} {order : Order}
    (covered : order.refundedAmount ≤ order.paidAmount) : Spares orders (orders ++ [order]) where
  kept id old found _ := by
    rw [Table.find?_append, found, Option.some_or]
  covered all o mem := by
    rcases List.mem_append.1 mem with mem | mem
    · exact all o mem
    · rw [List.mem_singleton.1 mem]
      exact covered

/-- An order that cannot be refunded is replaced. -/
theorem Spares.update {orders : List Order} {old row : Order}
    (found : Table.find? Order.id orders old.id = some old) (id : row.id = old.id)
    (other : old.status ≠ .paid ∧ old.status ≠ .partiallyRefunded)
    (covered : old.refundedAmount ≤ old.paidAmount → row.refundedAmount ≤ row.paidAmount) :
    Spares orders (Table.update Order.id orders row) where
  kept key order there refundable := by
    rw [Table.find?_update, if_neg]
    · exact there
    · rintro rfl
      rw [id, found] at there
      obtain rfl := Option.some.inj there
      rcases refundable with same | same
      · exact other.1 same
      · exact other.2 same
  covered all order mem := by
    rcases Table.mem_update mem with rfl | ⟨mem, -⟩
    · exact covered (all old (Table.mem_of_find? found))
    · exact all order mem

/-- Only a refund touches orders that can be refunded. -/
theorem handler_spares [Python] (formed : ∀ order ∈ run.orders, order.WellFormed)
    (h : run.handler command key now = .ok (run', outcome))
    (other : command.action ≠ .refundOrder) : Spares run.orders run'.orders := by
  unfold handler at h
  split at h
  · obtain ⟨_, _, -, -, rfl⟩ := createUser_ok h
    exact .rfl
  · obtain ⟨_, _, _, _, -, -, -, rfl⟩ := issueCoupon_ok h
    exact .rfl
  · obtain ⟨_, _, _, -, -, rfl⟩ := createOrder_ok h
    exact .append (le_refl 0)
  · obtain ⟨old, coupon, found, -, -, pending, -, rfl⟩ := applyCoupon_ok h
    exact .update found rfl (by rw [pending]; decide) fun covered => covered
  · obtain ⟨old, _, r, -, found, pending, -, positive, -, used, h⟩ := payOrder_ok h
    have orders := (useCoupon_rows used).2.1
    have nothing := ((formed old (Table.mem_of_find? found)).of_pending pending).2.1
    have paid : old.captured.refundedAmount ≤ old.captured.paidAmount := by
      rw [Order.captured_refundedAmount, Order.captured_paidAmount, nothing]
      exact positive.le
    rcases h with ⟨-, rfl⟩ | ⟨-, h⟩
    · rw [addEvent_orders, orders]
      exact .update found rfl (by rw [pending]; decide) fun _ => paid
    · -- The order is written twice, the second time with its points.
      rw [(grantPoints_rows h).2.1]
      simp only [setOrder_orders, addEvent_orders, orders]
      rw [Table.update_update (by rfl)]
      exact .update found rfl (by rw [pending]; decide) fun _ => paid
  · obtain ⟨old, r, found, open', released, rfl⟩ := cancelOrder_ok h
    rw [addEvent_orders, setOrder_orders, (releaseCoupon_rows released).2.1]
    exact .update found rfl (by rcases open' with same | same <;> rw [same] <;> decide)
      fun covered => covered
  · exact absurd ‹_› other
  · obtain ⟨_, _, -, -, -, rfl⟩ := redeemPoints_ok h
    exact .rfl
  · obtain ⟨_, _, _, _, -, -, -, -, -, rfl⟩ := activateMembership_ok h
    exact .rfl
  · obtain ⟨_, _, -, -, -, -, -, rfl⟩ := consumeEntitlement_ok h
    exact .rfl
  · obtain ⟨_, _, _, r, -, -, -, -, ⟨-, revoked, rfl⟩ | ⟨revoked, rfl⟩⟩ := cancelMembership_ok h
    all_goals
      have orders := (revokeEntitlement_rows revoked).2.1
      simp only [addEvent_orders, orders]
      exact .rfl
  · rw [inspectState_ok h]
    exact .rfl

/-- What a command does to the orders its handler does, or nothing. -/
theorem execute_orders [Python] (run : RunSpace) (command : ActionCommand) (now : Nat)
    (uuid : String) :
    (run.execute command now uuid).1.orders = run.orders ∨
      ∃ key r outcome, run.handler command key now = .ok (r, outcome) ∧
        (run.execute command now uuid).1.orders = r.orders := by
  rcases execute_cases run command now uuid with same | ⟨record, -, performed, -⟩
  · exact .inl (by rw [same])
  · rcases perform_ok performed with
      ⟨-, ⟨r, outcome, dispatched, -, -, same⟩ | ⟨error, -, -, same⟩⟩
    · exact .inr ⟨_, r, outcome, (dispatch_ok dispatched).1, by rw [same]; rfl⟩
    · exact .inl (by rw [same]; rfl)

/-- Commands that are no refunds spare the orders. -/
theorem execute_spares [Python] (reachable : run.Reachable) (other : command.action ≠ .refundOrder)
    (now : Nat) (uuid : String) : Spares run.orders (run.execute command now uuid).1.orders := by
  rcases execute_orders run command now uuid with same | ⟨key, r, outcome, handled, same⟩ <;>
    rw [same]
  · exact .rfl
  · exact handler_spares reachable.orders_wellFormed handled other

/-- A refund that fits leaves nothing refunded beyond its payment. -/
theorem execute_refund_covered [Python] (covered : run.Covered)
    (refund : command.action = .refundOrder) {amount : Amount}
    (read : RuntimeGate.money (command.argument "amount") = .ok (some amount))
    (payable : RuntimeGate.Payable run command.targetId (some amount)) (now : Nat) (uuid : String) :
    (run.execute command now uuid).1.Covered := by
  rcases execute_orders run command now uuid with same | ⟨key, r, outcome, handled, same⟩ <;>
    rw [Covered, same]
  · exact covered
  unfold handler at handled
  rw [refund] at handled
  obtain ⟨order, user, amount', r', target, found, -, ⟨currency, parsed⟩, positive, -, -, points,
    coupon, -⟩ := refundOrder_ok handled
  -- The gate has read the same amount of the same order.
  have amounts := read.symm.trans (RuntimeGate.money_of_ok parsed)
  rw [if_pos positive] at amounts
  obtain rfl := Option.some.inj (Except.ok.inj amounts)
  obtain ⟨order', _, target', ⟨⟩, found', -, fits⟩ := payable
  have id : order.id = order'.id := Option.some.inj (target.symm.trans target')
  rw [id, found'] at found
  obtain rfl := Option.some.inj found
  rw [(restoreCoupon_rows coupon).2.1, (refundPoints_rows points (by simp [refunded])).2.1]
  intro o mem
  rcases Table.mem_update mem with rfl | ⟨mem, -⟩
  · rw [Order.refund_refundedAmount, Order.refund_paidAmount]
    exact fits
  · exact covered o mem

end RunSpace

/-! ## Arguments -/

theorem lookup_of_eq {α : Type} {entries : List (String × α)} {name key : String} {value : α}
    (named : name = key) : ((key, value) :: entries).lookup name = some value := by
  rw [List.lookup_cons, named, beq_self_eq_true]

theorem lookup_of_ne {α : Type} {entries : List (String × α)} {name key : String} {value : α}
    (named : name ≠ key) : ((key, value) :: entries).lookup name = entries.lookup name := by
  rw [List.lookup_cons, beq_false_of_ne named]

/-- The entry of a name is replaced where there is one. -/
theorem lookup_replaced (entries : List (String × ArgValue)) (argument : String × ArgValue)
    (name : String) :
    (entries.map fun entry => if entry.1 = argument.1 then argument else entry).lookup name =
      if name = argument.1 ∧ argument.1 ∈ entries.map Prod.fst then some argument.2
      else entries.lookup name := by
  induction entries with
  | nil => simp
  | cons entry entries ih =>
    rw [List.map_cons]
    by_cases same : entry.1 = argument.1
    · rw [if_pos same]
      by_cases named : name = argument.1
      · rw [lookup_of_eq named, if_pos ⟨named, by simp [same]⟩]
      · rw [lookup_of_ne named, ih, if_neg fun h => named h.1, if_neg fun h => named h.1,
          lookup_of_ne (same ▸ named)]
    · rw [if_neg same]
      by_cases named : name = entry.1
      · rw [lookup_of_eq named, lookup_of_eq named, if_neg fun h => same (named.symm.trans h.1)]
      · rw [lookup_of_ne named, lookup_of_ne named, ih]
        simp only [List.map_cons, List.mem_cons, Ne.symm same, false_or]

/-- Of several arguments of a name the dictionary has the last. -/
theorem SimAction.lookup_argumentDict (arguments : List (String × ArgValue)) (name : String) :
    (argumentDict arguments).lookup name = arguments.reverse.lookup name := by
  induction arguments using List.reverseRecOn with
  | nil => rfl
  | append_singleton arguments argument ih =>
    have step : argumentDict (arguments ++ [argument]) =
        if argument.1 ∈ (argumentDict arguments).map Prod.fst then
          (argumentDict arguments).map fun entry => if entry.1 = argument.1 then argument else entry
        else argumentDict arguments ++ [argument] := List.foldl_concat ..
    rw [List.reverse_append, List.reverse_singleton, List.singleton_append, step]
    by_cases named : name = argument.1
    · rw [lookup_of_eq named]
      split_ifs with known
      · rw [lookup_replaced, if_pos ⟨named, known⟩]
      · rw [List.lookup_append, named, List.lookup_eq_none_iff.2, Option.none_or, lookup_of_eq rfl]
        intro entry mem
        rw [bne_iff_ne]
        exact fun same => known (same ▸ List.mem_map_of_mem mem)
    · rw [lookup_of_ne named, ← ih]
      split_ifs with known
      · rw [lookup_replaced, if_neg fun h => named h.1]
      · rw [List.lookup_append, lookup_of_ne named, List.lookup_nil, Option.or_none]

theorem lookup_toJson (arguments : List (String × ArgValue)) (name : String) :
    (arguments.map fun argument => (argument.1, argument.2.toJson)).lookup name =
      (arguments.lookup name).map ArgValue.toJson := by
  induction arguments with
  | nil => rfl
  | cons argument arguments ih =>
    rw [List.map_cons]
    by_cases named : name = argument.1
    · rw [lookup_of_eq named, lookup_of_eq named, Option.map_some]
    · rw [lookup_of_ne named, lookup_of_ne named, ih]

/-- The gate reads an argument that is sent. -/
theorem argument_sent {action : SimAction} {command : ActionCommand}
    (sent : command.arguments =
      (SimAction.argumentDict action.arguments).map fun entry => (entry.1, entry.2.toJson))
    (name : String) : (GateAction.ofSim action).argument name = command.argument name := by
  rw [GateAction.argument, ActionCommand.argument, Json.get, Json.get?, sent, lookup_toJson,
    SimAction.lookup_argumentDict, GateAction.ofSim, ← List.map_reverse, lookup_toJson]

/-! ## What the gate lets pass -/

section Gate

variable [Python] {run : RunSpace} {action : GateAction} {captured : Nat} {runId : String}

omit [Python] in
/-- Without a snapshot no refund is let pass. -/
theorem RuntimeGate.preCheck_blind {decision : GateDecision}
    (refund : action.actionType = .refundOrder)
    (decided : preCheck none runId action = .ok decision) : decision.decision ≠ .allow := by
  unfold preCheck at decided
  rw [if_neg (not_not.2 refund)] at decided
  obtain ⟨read, -, decided⟩ := Checked.bind_eq_ok.1 decided
  split at decided <;> cases decided <;> exact fun same => by cases same

/-- A refund that the gate lets pass fits into what is left of the payment. -/
theorem RuntimeGate.payable_of_allow (reachable : run.Reachable) (covered : run.Covered)
    (refund : action.actionType = .refundOrder) {decision : GateDecision}
    (decided : preCheck (some (run.snapshot captured)) runId action = .ok decision)
    (allowed : decision.decision = .allow) :
    ∃ amount, money (action.argument "amount") = .ok (some amount) ∧
      Payable run action.targetId (some amount) := by
  unfold preCheck at decided
  rw [if_neg (not_not.2 refund)] at decided
  obtain ⟨read, reads, decided⟩ := Checked.bind_eq_ok.1 decided
  cases read with
  | none =>
    cases decided
    cases allowed
  | some amount =>
    cases target : action.targetId with
    | none =>
      rw [target] at decided
      cases decided
      cases allowed
    | some orderId =>
      simp only [target, orders_snapshot] at decided
      rw [orderOf_snapshot reachable.storable.orders_keyed] at decided
      cases found : Table.find? Order.id run.orders orderId with
      | none =>
        rw [found] at decided
        cases decided
        cases allowed
      | some order =>
        rw [found] at decided
        have mem := Table.mem_of_find? found
        obtain rfl := Table.key_of_find? found
        obtain ⟨decision', decides, allows⟩ := @checkOrder_toJson order order.id amount
          (reachable.orders_wellFormed order mem).nonneg.2 (covered order mem)
          (reachable.storable.orders order mem).2.2.1 (money_spec reads).1
        obtain rfl := Except.ok.inj (decides.symm.trans decided)
        exact ⟨amount, reads, order, amount, rfl, rfl, found, allows.1 allowed⟩

end Gate

/-! ## Deployments -/

namespace Deployment

/-- An action, if it is a refund, fits into what is left of the payment. -/
def Fits (run : RunSpace) (action : SimAction) : Prop :=
  action.actionType = .refundOrder → ∃ amount,
    RuntimeGate.money ((GateAction.ofSim action).argument "amount") = .ok (some amount) ∧
      RuntimeGate.Payable run action.targetId (some amount)

/-- Nothing is refunded beyond its payment, and no refund is late. -/
structure Sound [Python] (d : Deployment) : Prop where
  reachable : d.run.Reachable
  covered : d.run.Covered
  late : ∀ command ∈ d.late, command.action ≠ .refundOrder

variable [Python] {traffic : Traffic} {d d' : Deployment} {action : SimAction}

theorem Sound.executed (h : d.Sound) {command : ActionCommand}
    (other : command.action ≠ .refundOrder) (now : Nat) (uuid : String) :
    (d.executed command now uuid).Sound where
  reachable := h.reachable.apply (.execute command uuid now)
  covered := (RunSpace.execute_spares h.reachable other now uuid).covered h.covered
  late := h.late

/-- A refund that fits still fits after other commands. -/
theorem Fits.executed (fits : Fits d.run action) (h : d.Sound) {command : ActionCommand}
    (other : command.action ≠ .refundOrder) (now : Nat) (uuid : String) :
    Fits (d.executed command now uuid).run action := by
  intro refund
  obtain ⟨amount, read, order, _, target, ⟨⟩, found, refundable, left⟩ := fits refund
  have kept := (RunSpace.execute_spares h.reachable other now uuid).kept _ _ found refundable
  exact ⟨amount, read, order, amount, target, rfl, kept, refundable, left⟩

/-- A POST of an action that fits keeps a deployment sound. -/
theorem Posts.sound {reply : HttpReply} (prompt : ¬ traffic.delays) (h : d.Sound)
    (fits : Fits d.run action) (posts : d.Posts traffic action.toHttpPayload reply d') :
    d'.Sound := by
  obtain rfl | ⟨command, read, ⟨now, uuid, rfl⟩ | ⟨delays, -⟩⟩ := posts.cases
  · exact h
  · obtain ⟨same, target, -, arguments⟩ := SimAction.command_of_payload read
    by_cases refund : command.action = .refundOrder
    · obtain ⟨amount, reads, payable⟩ := fits (same ▸ refund)
      refine ⟨h.reachable.apply (.execute command uuid now), ?_, h.late⟩
      exact RunSpace.execute_refund_covered h.covered refund (argument_sent arguments _ ▸ reads)
        (target ▸ payable) now uuid
    · exact h.executed refund now uuid
  · exact absurd delays prompt

/-- What the gate lets pass fits. -/
theorem Answers.fits [UnicodeTables] {runId : String} {answer : GuardAnswer} (h : d.Sound)
    (upper : ∀ decision : GateDecisionType, UnicodeTables.upper decision.value = decision.value)
    (answers : d.Answers traffic ⟨.preCheck runId action, answer⟩ d') (allows : answer.Allows) :
    Fits d.run action := by
  intro refund
  obtain ⟨-, -, reply, shows, rfl | ⟨e, -, rfl⟩⟩ := answers
  swap
  · obtain ⟨_, none, -⟩ := allows
    cases none
  unfold RuntimeGate.answerBefore at allows
  cases decided : RuntimeGate.preCheck reply.object? runId (.ofSim action) with
  | error e =>
    rw [decided] at allows
    obtain ⟨_, none, -⟩ := allows
    cases none
  | ok decision =>
    rw [decided] at allows
    obtain ⟨verdict, read, allow⟩ := allows
    obtain rfl := Option.some.inj read
    have allowed : decision.decision = .allow := by
      have text : decision.decision.value = "ALLOW" := (upper decision.decision).symm.trans allow
      cases same : decision.decision with
      | allow => rfl
      | block | unknown =>
        rw [same] at text
        exact absurd text (by decide)
    cases shows with
    | @answered now =>
      have object : (d.run.showSnapshot now).reply.object? = some (d.run.snapshot now) := rfl
      rw [object] at decided
      exact RuntimeGate.payable_of_allow h.reachable h.covered refund decided allowed
    | failed failed =>
      have object : reply.object? = none := by
        cases object : reply.object? with
        | none => rfl
        | some body => exact absurd rfl (failed 200 (some body) (object?_eq_some object))
      rw [object] at decided
      exact absurd allowed (RuntimeGate.preCheck_blind refund decided)

end Deployment

/-! ## Calls -/

namespace Traffic

variable [Python] {traffic : Traffic} {d d' : Deployment} {action : SimAction}
  (others : ∀ command, traffic.others command → command.action ≠ .refundOrder)

include others

theorem sound_moves (moves : Deployment.Moves traffic d d') (h : d.Sound) : d'.Sound := by
  cases moves with
  | arrives sent => exact h.executed (sent.elim (others _) (h.late _)) _ _

theorem fits_moves (moves : Deployment.Moves traffic d d')
    (h : d.Sound ∧ Deployment.Fits d.run action) :
    d'.Sound ∧ Deployment.Fits d'.run action := by
  refine ⟨sound_moves others moves h.1, ?_⟩
  cases moves with
  | arrives sent => exact h.2.executed h.1 (sent.elim (others _) (h.1.late _)) _ _

/-- Checks keep a deployment sound. -/
theorem sound_quiet {log : List (Exchange ToolAnswer)} (quiet : Quiet log)
    (chain : Chain traffic.service d log d') (h : d.Sound) : d'.Sound := by
  refine chain.keeps (fun exchange mem d d' served h => ?_) h
  obtain ⟨d₁, h₁, answers⟩ := Service.moving_keeps
    (fun _ _ moves => sound_moves others moves) served h
  exact answers.unchanged (quiet exchange mem) ▸ h₁

/-- A write that the gate has let pass keeps a deployment sound. -/
theorem sound_cleared [UnicodeTables]
    (upper : ∀ decision : GateDecisionType, UnicodeTables.upper decision.value = decision.value)
    (prompt : ¬ traffic.delays) {gateway : ToolGateway} {key : String} {sent : HttpReply}
    {cleared : List (Exchange ToolAnswer)} {path : String} {d₁ : Deployment}
    (clear : gateway.Cleared key action cleared) (checks : Chain traffic.service d cleared d₁)
    (posted : traffic.service d₁ ⟨.post path action.toHttpPayload, sent⟩ d') (h : d.Sound) :
    d'.Sound := by
  obtain ⟨retry, check, reply, rfl, -, -, allows, -⟩ := clear
  obtain ⟨d₂, looked, checks⟩ := chain_cons.1 checks
  obtain ⟨d₃, checked, checks⟩ := chain_cons.1 checks
  obtain ⟨d₄, shown, checks⟩ := chain_cons.1 checks
  obtain rfl := chain_nil.1 checks
  -- What is let pass fits then, and still fits when the snapshot is taken and when it is posted.
  have sound : d₂.Sound := sound_quiet others (List.forall_mem_singleton.2 rfl)
    (.cons looked (.nil d₂)) h
  obtain ⟨d₅, sound, answers⟩ := Service.moving_keeps
    (fun _ _ moves => sound_moves others moves) checked sound
  have fits : d₃.Sound ∧ Deployment.Fits d₃.run action := by
    rw [answers.unchanged rfl]
    exact ⟨sound, answers.fits sound upper allows⟩
  obtain ⟨d₆, fits, answers⟩ := Service.moving_keeps
    (I := fun d : Deployment => d.Sound ∧ Deployment.Fits d.run action)
    (fun _ _ moves => fits_moves others moves) shown fits
  rw [← answers.unchanged rfl] at fits
  obtain ⟨d₇, fits, answers⟩ := Service.moving_keeps
    (I := fun d : Deployment => d.Sound ∧ Deployment.Fits d.run action)
    (fun _ _ moves => fits_moves others moves) posted fits
  exact answers.2.sound prompt fits.1 fits.2

end Traffic

namespace ToolGateway

variable [Python] [UnicodeTables] {traffic : Traffic} {gateway : ToolGateway}
  {d d' : Deployment}

/-- A guarded gateway keeps a deployment sound, whatever it is asked to do. -/
theorem dispatch_sound
    (upper : ∀ decision : GateDecisionType, UnicodeTables.upper decision.value = decision.value)
    (others : ∀ command, traffic.others command → command.action ≠ .refundOrder)
    (prompt : ¬ traffic.delays) (guarded : gateway.guarded) {action : SimAction}
    {log : List (Exchange ToolAnswer)} {r : Except ToolException (ToolResult × GuardTrace)}
    (dispatching : Runs (gateway.dispatch action (writes action) {}) log r)
    (chain : Chain traffic.service d log d') (h : d.Sound) : d'.Sound := by
  by_cases write : writes action = true
  · cases keyed : action.idempotencyKey with
    | none =>
      rw [dispatch, if_neg (by rw [guarded, write]; decide), keyed] at dispatching
      obtain ⟨rfl, -⟩ := runs_raise.1 dispatching
      exact chain_nil.1 chain ▸ h
    | some key =>
      rw [dispatch_guarded guarded write keyed] at dispatching
      obtain ⟨-, ⟨quiet, -⟩ | ⟨cleared, sent, rest, rfl, clear, quiet, -⟩⟩ :=
        runs_guardedDispatch dispatching
      · exact Traffic.sound_quiet others quiet chain h
      · obtain ⟨d₁, checks, chain⟩ := chain_append.1 chain
        obtain ⟨d₂, posted, chain⟩ := chain_cons.1 chain
        exact Traffic.sound_quiet others quiet chain
          (Traffic.sound_cleared others upper prompt clear checks posted h)
  · have reads : action.actionType ≠ .refundOrder := by
      intro refund
      exact write (by rw [writes, refund]; decide)
    -- The one question is the POST of the inspection.
    obtain ⟨r, sending, -⟩ := runs_dispatch_bare (.inr write) dispatching
    obtain ⟨reply, rfl, -⟩ := runs_send sending
    obtain ⟨d₁, posted, chain⟩ := chain_cons.1 chain
    obtain rfl := chain_nil.1 chain
    obtain ⟨d₂, h₂, answers⟩ := Service.moving_keeps
      (fun _ _ moves => Traffic.sound_moves others moves) posted h
    exact answers.2.sound prompt h₂ fun refund => absurd refund reads

/-- Calls through a gateway, one after the other, however they end. -/
inductive Calls (service : Service ToolAnswer Deployment) (gateway : ToolGateway) :
    Deployment → List SimAction → Deployment → Prop
  | nil (d : Deployment) : Calls service gateway d [] d
  | cons {d d₁ d' : Deployment} {action : SimAction} {actions : List SimAction}
      {calls : List ToolCallRecord}
      {outcome : Except ToolException (ToolResult × List ToolCallRecord)}
      (served : Served service d (gateway.call action calls) d₁ outcome)
      (rest : Calls service gateway d₁ actions d') : Calls service gateway d (action :: actions) d'

/-- One call keeps a deployment sound. -/
theorem call_sound
    (upper : ∀ decision : GateDecisionType, UnicodeTables.upper decision.value = decision.value)
    (others : ∀ command, traffic.others command → command.action ≠ .refundOrder)
    (prompt : ¬ traffic.delays) (guarded : gateway.guarded) {action : SimAction}
    {calls : List ToolCallRecord}
    {outcome : Except ToolException (ToolResult × List ToolCallRecord)}
    (served : Served traffic.service d (gateway.call action calls) d' outcome) (h : d.Sound) :
    d'.Sound := by
  obtain ⟨rfl, -⟩ | ⟨-, r, ⟨log, dispatching, chain⟩, -⟩ := served_call served
  · exact h
  · exact dispatch_sound upper others prompt guarded dispatching chain h

/-- Through a guarded gateway no order is refunded more than was paid for it, with whatever defects
    the sandbox has: after every call, whatever it asks for, whichever requests and responses are
    lost, and whatever other clients do short of refunds, as long as no write arrives late. -/
theorem calls_covered
    (upper : ∀ decision : GateDecisionType, UnicodeTables.upper decision.value = decision.value)
    (others : ∀ command, traffic.others command → command.action ≠ .refundOrder)
    (prompt : ¬ traffic.delays) (guarded : gateway.guarded) (reachable : d.run.Reachable)
    (late : ∀ command ∈ d.late, command.action ≠ .refundOrder) {actions : List SimAction}
    (calls : gateway.Calls traffic.service d actions d')
    (covered : ∀ order ∈ d.run.orders, order.refundedAmount ≤ order.paidAmount) :
    ∀ order ∈ d'.run.orders, order.refundedAmount ≤ order.paidAmount := by
  have sound : d.Sound := ⟨reachable, covered, late⟩
  clear covered late reachable
  suffices sound : d'.Sound from sound.covered
  induction calls with
  | nil d => exact sound
  | cons served _ ih => exact ih (call_sound upper others prompt guarded served sound)

end ToolGateway

/-! ## Two refunds that do not both fit -/

/-- An environment that judges refunds by the original amount. -/
def originalAmountRequest : CreateRunRequest where
  scenarioType := .promotion
  defectAxes := some [.refundAgainstOriginal]

/-- The run after the order of 100.00 has been paid for. -/
def originalAmountRun : RunSpace :=
  letI := Python.transparent
  (createRun originalAmountRequest "run").after paidHistory

/-- A refund of more than half of the order. -/
def largeRefund (key : String) : SimAction :=
  { keyedRefund with arguments := [("amount", .str "60.00")], idempotencyKey := some key }

/-- The deployment that answers at once, but whose snapshot times out when a write is checked. -/
def Deployment.unseen [Python] (clock : RunSpace → Nat) (uuid : RunSpace → String)
    (deployment : Deployment) :
    (question : ToolQuestion) → Option (ToolAnswer question × Deployment)
  | .postCheck runId before after =>
    if runId = deployment.run.id then
      some (RuntimeGate.answerAfter runId before after (.timeout "ReadTimeout"), deployment)
    else none
  | .get path => deployment.prompt clock uuid (.get path)
  | .post path body => deployment.prompt clock uuid (.post path body)
  | .retryCheck runId key => deployment.prompt clock uuid (.retryCheck runId key)
  | .preCheck runId action => deployment.prompt clock uuid (.preCheck runId action)

/-- It is one of the deployments with any traffic. -/
theorem Deployment.unseen_service [Python] (traffic : Traffic) {clock : RunSpace → Nat}
    {uuid : RunSpace → String} (deployment : Deployment) (question : ToolQuestion)
    (answer : ToolAnswer question) (after : Deployment)
    (unseen : deployment.unseen clock uuid question = some (answer, after)) :
    traffic.service deployment ⟨question, answer⟩ after := by
  cases question with
  | postCheck runId before final =>
    obtain ⟨own, same⟩ := Option.ite_none_right_eq_some.1 unseen
    obtain ⟨rfl, rfl⟩ := Prod.mk.inj (Option.some.inj same)
    exact ⟨deployment, .refl, own, rfl, _, .failed (fun _ _ same => by cases same), .inl rfl⟩
  | get path => exact @prompt_service _ traffic clock uuid deployment _ _ _ unseen
  | post path body => exact @prompt_service _ traffic clock uuid deployment _ _ _ unseen
  | retryCheck runId key => exact @prompt_service _ traffic clock uuid deployment _ _ _ unseen
  | preCheck runId action => exact @prompt_service _ traffic clock uuid deployment _ _ _ unseen

/-- What comes of two of them, neither of which is seen to take effect. -/
def refundedTwice : Option (Deployment × Deployment) :=
  letI := Python.transparent
  letI := UnicodeTables.ascii
  (serve (fun d => d.unseen (fun _ => 4) (fun _ => "uuid")) ⟨originalAmountRun, []⟩
      (ToolGateway.call ⟨"run", true⟩ (largeRefund "refund-1") [])).bind fun first =>
    (serve (fun d => d.unseen (fun _ => 5) (fun _ => "uuid")) first.1
      (ToolGateway.call ⟨"run", true⟩ (largeRefund "refund-2") [])).map fun second =>
        (first.1, second.1)

/-- The first is executed, and the second one does not pass the gate. -/
theorem refundedTwice_refunded : ∃ first second, refundedTwice = some (first, second) ∧
    (first.run.orders.map Order.refundedAmount = [6000] ∧
      second.run.orders.map Order.refundedAmount = [6000]) := by
  have refunded : (refundedTwice.map fun runs =>
      (runs.1.run.orders.map Order.refundedAmount, runs.2.run.orders.map Order.refundedAmount)) =
        some ([6000], [6000]) := by
    decide +kernel
  obtain ⟨⟨first, second⟩, served, amounts⟩ := Option.map_eq_some_iff.1 refunded
  exact ⟨first, second, served, Prod.mk.inj amounts⟩

theorem ToolGateway.calls_covered_twice : ∃ first second, refundedTwice = some (first, second) ∧
    second.run.orders.map Order.refundedAmount = [6000] ∧ second.run.Covered := by
  let _ := Python.transparent
  let _ := UnicodeTables.ascii
  have upper (decision : GateDecisionType) :
      UnicodeTables.upper decision.value = decision.value := by
    cases decision <;> decide +kernel
  have covered : ∀ order ∈ originalAmountRun.orders,
      order.refundedAmount ≤ order.paidAmount := by
    decide +kernel
  obtain ⟨first, second, both, -, amounts⟩ := refundedTwice_refunded
  obtain ⟨⟨d, outcome⟩, served, rest⟩ := Option.bind_eq_some_iff.1 both
  obtain ⟨⟨d', outcome'⟩, served', ended⟩ := Option.map_eq_some_iff.1 rest
  obtain ⟨rfl, rfl⟩ := Prod.mk.inj ended
  have calls : ToolGateway.Calls (Traffic.service ⟨fun _ => False, False⟩) ⟨"run", true⟩
      ⟨originalAmountRun, []⟩ [largeRefund "refund-1", largeRefund "refund-2"] d' :=
    .cons (served_serve (fun d => d.unseen_service _) served)
      (.cons (served_serve (fun d => d.unseen_service _) served') (.nil _))
  have reachable : originalAmountRun.Reachable :=
    RunSpace.Reachable.after ⟨originalAmountRequest, "run", [], rfl⟩ paidHistory
  exact ⟨d, d', both, amounts, ToolGateway.calls_covered upper (fun _ (no : False) => no.elim)
    not_false rfl reachable (List.forall_mem_nil _) calls covered⟩

end RuleArena
