import RuleArena.Sandbox.Runs

/-!
# Runs that differ in their labels

A handler does not see which run it works on, which epoch it is in, what time it
is, or what events and receipts earlier epochs left behind. `RunSpace.bare`
takes all of this away, and each handler does on a bare run what it does on the
run itself (`handler_bare`), as long as what it cannot see stays within the
columns and constraints of the database (`RunSpace.Past`).

* An event of a bare run is the one of the run, bare (`addEvent_bare`), and the
  database holds a bare run exactly if it holds the run (`storable_bare`): what is
  past has sequence numbers of its own.
* The parts of a handler are related step by step, by the rules of
  `Checked.Related`: a step that reads only what a bare run has is the same
  computation on both sides, and an event is written alike (`event_bare`).

Two runs that are the same when bare are thus told apart by no sequence of
commands. A reset makes such a run of any run (`RuleArena.Sandbox.Reset`).
-/

namespace RuleArena

/-- A snapshot or an event without the run it is of and its time. -/
def Json.unlabelled : Json → Json
  | .obj members => .obj (members.filter fun m => m.1 ∉ ["run_id", "captured_at", "occurred_at"])
  | value => value

/-- A result without the labels of the snapshot in it. -/
def unlabelledResult (result : List (String × Json)) : List (String × Json) :=
  result.map fun (name, value) => (name, if name = "snapshot" then value.unlabelled else value)

/-- An outcome without the labels of the snapshot in its result. -/
def Outcome.unlabelled (outcome : Outcome) : Outcome :=
  { outcome with result := unlabelledResult outcome.result }

/-- An event without the epoch it is of and its time. -/
def BusinessEvent.unlabelled (event : BusinessEvent) : BusinessEvent :=
  { event with epoch := 0, occurredAt := 0 }

namespace RunSpace

/-- The run without its identifier and its epoch, the times of its events, what
    earlier epochs left behind, and its receipts. -/
@[simps] def bare (run : RunSpace) : RunSpace :=
  { run with
    id := "", epoch := 0, events := run.epochEvents.map BusinessEvent.unlabelled, receipts := [] }

/-- What a bare run no longer has fits the database: the events of other epochs,
    and the receipts. -/
def Past (run : RunSpace) : Prop :=
  (∀ event ∈ run.events, event.epoch ≠ run.epoch → Int32 event.sequence) ∧
  Table.Keyed (fun event => (event.epoch, event.sequence))
    (run.events.filter (·.epoch ≠ run.epoch)) ∧
  Table.Keyed (fun record => (record.epoch, record.actionType, record.idempotencyKey)) run.receipts

variable {run run' : RunSpace} {command : ActionCommand} {key : String} {now : Nat}
  {outcome : Outcome}

/-- What a run the database holds no longer has when bare fits. -/
theorem Storable.past (h : run.Storable) : run.Past :=
  ⟨fun event hm _ => h.events event hm, h.events_sequence.sublist (List.filter_sublist.map _),
    h.receipts_key⟩

/-- An event of the epoch leaves what is past as it is. -/
theorem Past.addEvent (h : run.Past) (aggregateType : AggregateType) (aggregateId : String)
    (eventType : BusinessEventType) (payload : List (String × Json)) (key : String) (now : Nat) :
    (run.addEvent aggregateType aggregateId eventType payload key now).Past := by
  obtain ⟨fits, keyed, receipts⟩ := h
  refine ⟨fun event hm other => ?_, ?_, receipts⟩
  · rcases List.mem_append.1 hm with hm | hm
    · exact fits event hm other
    · rw [List.mem_singleton.1 hm] at other
      exact absurd rfl other
  · rw [addEvent_events, List.filter_append, List.filter_cons_of_neg (by simp), List.filter_nil,
      List.append_nil]
    exact keyed

/-! ## Events -/

/-- All events of a bare run are of its epoch. -/
theorem epochEvents_bare : run.bare.epochEvents = run.bare.events := by
  rw [epochEvents, List.filter_eq_self]
  intro event hm
  obtain ⟨_, -, rfl⟩ := List.mem_map.1 hm
  exact decide_eq_true rfl

/-- The next sequence number does not depend on what is past. -/
theorem lastSequence_bare : run.bare.lastSequence = run.lastSequence := by
  rw [lastSequence, epochEvents_bare, bare_events, List.map_map]
  rfl

/-- An event that is added to the bare run is the one added to the run, bare. -/
theorem addEvent_bare (aggregateType : AggregateType) (aggregateId : String)
    (eventType : BusinessEventType) (payload : List (String × Json)) (key : String) (now : Nat) :
    run.bare.addEvent aggregateType aggregateId eventType payload key 0 =
      (run.addEvent aggregateType aggregateId eventType payload key now).bare := by
  have events : run.bare.events ++
        [run.bare.newEvent aggregateType aggregateId eventType payload key 0] =
      (run.addEvent aggregateType aggregateId eventType payload key now).epochEvents.map
        BusinessEvent.unlabelled := by
    rw [epochEvents_addEvent, List.map_append, newEvent, lastSequence_bare]
    rfl
  exact congrArg (fun events => { run.bare with events }) events

/-- The sequence numbers alone tell events of one epoch apart. -/
theorem keyed_of_epoch {events : List BusinessEvent} {epoch : Nat}
    (h : ∀ event ∈ events, event.epoch = epoch) :
    Table.Keyed (fun event => (event.epoch, event.sequence)) events ↔
      Table.Keyed BusinessEvent.sequence events := by
  have pairs : events.map (fun event => (event.epoch, event.sequence)) =
      (events.map BusinessEvent.sequence).map (Prod.mk epoch) := by
    rw [List.map_map]
    exact List.map_congr_left fun event hm => by rw [h event hm]; rfl
  rw [Table.Keyed, pairs, List.nodup_map_iff (Prod.mk_right_injective epoch), Table.Keyed]

/-- The events of the epoch are of the epoch. -/
theorem epoch_of_mem {event : BusinessEvent} (h : event ∈ run.epochEvents) :
    event.epoch = run.epoch := of_decide_eq_true (List.mem_filter.1 h).2

/-- The sequence numbers of the epoch differ in the bare run if they do in the run. -/
theorem events_keyed_bare (past : run.Past) :
    Table.Keyed (fun event => (event.epoch, event.sequence)) run.bare.events ↔
      Table.Keyed (fun event => (event.epoch, event.sequence)) run.events := by
  have zero : ∀ event ∈ run.bare.events, event.epoch = 0 := by
    intro event hm
    obtain ⟨_, -, rfl⟩ := List.mem_map.1 hm
    rfl
  have present : Table.Keyed (fun event => (event.epoch, event.sequence)) run.bare.events ↔
      Table.Keyed (fun event => (event.epoch, event.sequence)) run.epochEvents := by
    rw [keyed_of_epoch zero, keyed_of_epoch fun _ => epoch_of_mem, Table.Keyed, Table.Keyed,
      bare_events, List.map_map]
    rfl
  -- The events are those of the epoch and those of others, in some order.
  have parts := (List.filter_append_perm (fun event => event.epoch = run.epoch) run.events).map
    fun event => (event.epoch, event.sequence)
  rw [present, Table.Keyed, Table.Keyed, ← parts.nodup_iff, List.map_append, List.nodup_append]
  refine ⟨fun h => ⟨h, ?_, ?_⟩, fun h => h.1⟩
  · simpa [Table.Keyed] using past.2.1
  · intro a ha b hb e
    obtain ⟨first, hf, rfl⟩ := List.mem_map.1 ha
    obtain ⟨second, hs, rfl⟩ := List.mem_map.1 hb
    have other := (List.mem_filter.1 hs).2
    simp only [← (Prod.mk.inj e).1, epoch_of_mem hf] at other
    simp at other

/-- The sequence numbers fit their column in the bare run if they do in the run. -/
theorem events_fit_bare (past : run.Past) :
    (∀ event ∈ run.bare.events, Int32 event.sequence) ↔
      ∀ event ∈ run.events, Int32 event.sequence := by
  rw [bare_events, List.forall_mem_map]
  constructor
  · intro h event hm
    by_cases he : event.epoch = run.epoch
    · exact h event (List.mem_filter.2 ⟨hm, decide_eq_true he⟩)
    · exact past.1 event hm he
  · exact fun h event hm => h event (List.mem_filter.1 hm).1

/-- The database holds a bare run if it holds the run. -/
theorem storable_bare (past : run.Past) : run.bare.Storable ↔ run.Storable := by
  constructor
  · intro h
    exact { h with
      events := (events_fit_bare past).1 h.events
      events_sequence := (events_keyed_bare past).1 h.events_sequence
      receipts_key := past.2.2 }
  · intro h
    exact { h with
      events := (events_fit_bare past).2 h.events
      events_sequence := (events_keyed_bare past).2 h.events_sequence
      receipts_key := List.nodup_nil }

/-! ## Blocks -/

/-- The second run is the first one, bare. -/
def Bares (run run' : RunSpace) : Prop := run' = run.bare ∧ run.Past

/-- A flush of the bare run fails exactly if that of the run does. -/
theorem flush_bare (run : RunSpace) (past : run.Past) :
    Checked.Related Bares run.flush run.bare.flush := by
  by_cases h : run.Storable
  · rw [(flush_eq_ok _).2 ⟨h, rfl⟩, (flush_eq_ok _).2 ⟨(storable_bare past).2 h, rfl⟩]
    exact .ok ⟨rfl, past⟩
  · rw [flush, flush, Checked.ensure_of_neg h,
      Checked.ensure_of_neg fun h' => h ((storable_bare past).1 h')]
    exact .error _

/-- An event is written alike. -/
theorem event_bare (run : RunSpace) (past : run.Past) {aggregateType : AggregateType}
    {aggregateId : String} {eventType : BusinessEventType} {payload : List (String × Json)} :
    Checked.Related Bares (run.event aggregateType aggregateId eventType payload key now)
      (run.bare.event aggregateType aggregateId eventType payload key 0) := by
  rw [event, event, addEvent_bare _ _ _ _ _ now]
  exact flush_bare _ (past.addEvent ..)

/-- The parts of the handlers do on the bare run what they do on the run. -/
theorem useCoupon_bare (run : RunSpace) (past : run.Past) {order : Order} :
    Checked.Related Bares (run.useCoupon key now order) (run.bare.useCoupon key 0 order) := by
  unfold useCoupon
  split
  · exact .pure ⟨rfl, past⟩
  · refine .step _ fun coupon _ => .step _ fun _ _ => ?_
    exact event_bare (run.setCoupon _) past

theorem grantPoints_bare (run : RunSpace) (past : run.Past) {user : TestUser} {order : Order}
    {points : Int} {ledgerKey : String} :
    Checked.Related Bares (run.grantPoints key now user order points ledgerKey)
      (run.bare.grantPoints key 0 user order points ledgerKey) :=
  event_bare ((run.setUser _).addLedger ..) past

theorem releaseCoupon_bare (past : run.Past) {order : Order} :
    Checked.Related Bares (run.releaseCoupon key now order)
      (run.bare.releaseCoupon key 0 order) := by
  unfold releaseCoupon
  split
  · exact .pure ⟨rfl, past⟩
  · refine .step _ fun coupon _ => .ite (fun _ => ?_) fun _ => .pure ⟨rfl, past⟩
    exact event_bare (run.setCoupon _) past

theorem revokePoints_bare (past : run.Past) {user : TestUser} {order : Order} {fullRefund : Bool} :
    Checked.Related Bares (run.revokePoints key now user order fullRefund)
      (run.bare.revokePoints key 0 user order fullRefund) := by
  refine .ite (fun _ => .pure ⟨rfl, past⟩) fun _ => .step _ fun _ _ => ?_
  exact event_bare ((run.setUser _).addLedger ..) past

theorem refundPoints_bare (past : run.Past) {user : TestUser} {order : Order} {amount : Int} :
    Checked.Related Bares (run.refundPoints key now user order amount)
      (run.bare.refundPoints key 0 user order amount) :=
  .ite (fun _ => .ite (fun _ => grantPoints_bare _ past) fun _ => revokePoints_bare past)
    fun _ => .pure ⟨rfl, past⟩

theorem restoreCoupon_bare (past : run.Past) {order : Order} :
    Checked.Related Bares (run.restoreCoupon key now order)
      (run.bare.restoreCoupon key 0 order) := by
  unfold restoreCoupon
  split
  · exact .pure ⟨rfl, past⟩
  · refine .ite (fun _ => .step _ fun coupon _ => ?_) fun _ => .pure ⟨rfl, past⟩
    exact event_bare (run.setCoupon _) past

theorem revokeEntitlement_bare (run : RunSpace) (past : run.Past) {allowed : Bool}
    {entitlement : Entitlement} :
    Checked.Related Bares (run.revokeEntitlement key now allowed entitlement)
      (run.bare.revokeEntitlement key 0 allowed entitlement) :=
  .ite (fun _ => event_bare (run.setEntitlement _) past) fun _ => .pure ⟨rfl, past⟩

/-! ## Handlers -/

/-- The second outcome is the first one on a bare run. -/
def HandlerBares (a b : RunSpace × Outcome) : Prop :=
  Bares a.1 b.1 ∧ b.2.unlabelled = a.2.unlabelled

/-- Each handler reads nothing that a bare run does not have: its steps up to the first
    event are the same computations, and each event is written alike. -/
theorem createUser_bare (past : run.Past) :
    Checked.Related HandlerBares (run.createUser command key now)
      (run.bare.createUser command key 0) := by
  refine .step _ fun _ _ => .step _ fun (amount, currency) _ => .step _ fun _ _ =>
    .step _ fun _ _ => ?_
  exact .bind (event_bare (run.setUser _) past) fun _ _ h => .pure ⟨h, rfl⟩

theorem issueCoupon_bare (past : run.Past) :
    Checked.Related HandlerBares (run.issueCoupon command key now)
      (run.bare.issueCoupon command key 0) := by
  refine .step _ fun _ _ => .step _ fun user _ => .step _ fun (value, currency) _ =>
    .step _ fun (threshold, thresholdCurrency) _ => .step _ fun _ _ => .step _ fun _ _ => ?_
  exact .bind (event_bare (run.addCoupon _) past) fun _ _ h => .pure ⟨h, rfl⟩

theorem createOrder_bare (past : run.Past) :
    Checked.Related HandlerBares (run.createOrder command key now)
      (run.bare.createOrder command key 0) := by
  refine .step _ fun _ _ => .step _ fun user _ => .step _ fun (amount, currency) _ =>
    .step _ fun _ _ => .step _ fun _ _ => ?_
  exact .bind (event_bare (run.addOrder _) past) fun _ _ h => .pure ⟨h, rfl⟩

theorem applyCoupon_bare (past : run.Past) :
    Checked.Related HandlerBares (run.applyCoupon command key now)
      (run.bare.applyCoupon command key 0) := by
  refine .step _ fun _ _ => .step _ fun _ _ => .step _ fun order _ => .step _ fun _ _ =>
    .step _ fun _ _ => .step _ fun coupon _ => .step _ fun _ _ => .step _ fun _ _ =>
    .step _ fun _ _ => .step _ fun _ _ => ?_
  exact .bind (event_bare ((run.setOrder _).setCoupon _) past) fun _ _ h => .pure ⟨h, rfl⟩

theorem payOrder_bare (past : run.Past) :
    Checked.Related HandlerBares (run.payOrder command key now)
      (run.bare.payOrder command key 0) := by
  refine .step _ fun _ _ => .step _ fun _ _ => .step _ fun order _ => .step _ fun _ _ =>
    .step _ fun _ _ => .step _ fun user _ => .step _ fun _ _ => .step _ fun _ _ => ?_
  refine .bind (useCoupon_bare ((run.setUser _).setOrder _) past) ?_
  rintro used _ ⟨rfl, past⟩
  refine .bind (event_bare _ past) ?_
  rintro captured _ ⟨rfl, past⟩
  refine .ite (fun _ => ?_) fun _ => .pure ⟨⟨rfl, past⟩, rfl⟩
  exact .bind (grantPoints_bare (captured.setOrder _) past) fun _ _ h => .pure ⟨h, rfl⟩

theorem cancelOrder_bare (past : run.Past) :
    Checked.Related HandlerBares (run.cancelOrder command key now)
      (run.bare.cancelOrder command key 0) := by
  refine .step _ fun _ _ => .step _ fun _ _ => .step _ fun order _ => .step _ fun _ _ => ?_
  refine .bind (releaseCoupon_bare past) ?_
  rintro released _ ⟨rfl, past⟩
  exact .bind (event_bare (released.setOrder _) past) fun _ _ h => .pure ⟨h, rfl⟩

theorem refundOrder_bare (past : run.Past) :
    Checked.Related HandlerBares (run.refundOrder command key now)
      (run.bare.refundOrder command key 0) := by
  refine .step _ fun _ _ => .step _ fun _ _ => .step _ fun order _ => .step _ fun _ _ =>
    .step _ fun (amount, currency) _ => .step _ fun _ _ => .step _ fun _ _ =>
    .step _ fun user _ => ?_
  refine .bind (event_bare (((run.setUser _).setOrder _).addRefund _) past) ?_
  rintro issued _ ⟨rfl, past⟩
  refine .bind (refundPoints_bare past) ?_
  rintro settled _ ⟨rfl, past⟩
  exact .bind (restoreCoupon_bare past) fun _ _ h => .pure ⟨h, rfl⟩

theorem redeemPoints_bare (past : run.Past) :
    Checked.Related HandlerBares (run.redeemPoints command key now)
      (run.bare.redeemPoints command key 0) := by
  refine .step _ fun _ _ => .step _ fun amount _ => .step _ fun user _ => .step _ fun _ _ => ?_
  exact .bind (event_bare ((run.setUser _).addLedger ..) past) fun _ _ h => .pure ⟨h, rfl⟩

theorem activateMembership_bare (past : run.Past) :
    Checked.Related HandlerBares (run.activateMembership command key now)
      (run.bare.activateMembership command key 0) := by
  refine .step _ fun _ _ => .step _ fun user _ => .step _ fun (paidAmount, currency) _ =>
    .step _ fun quantity _ => .step _ fun _ _ => .step _ fun _ _ => .step _ fun _ _ => ?_
  refine .bind (event_bare (((run.setUser _).addMembership _).addEntitlement _) past) ?_
  rintro activated _ ⟨rfl, past⟩
  exact .bind (event_bare _ past) fun _ _ h => .pure ⟨h, rfl⟩

theorem consumeEntitlement_bare (past : run.Past) :
    Checked.Related HandlerBares (run.consumeEntitlement command key now)
      (run.bare.consumeEntitlement command key 0) := by
  refine .step _ fun _ _ => .step _ fun quantity _ => .step _ fun _ _ =>
    .step _ fun entitlement _ => .step _ fun _ _ => .step _ fun _ _ => ?_
  exact .bind (event_bare (run.setEntitlement _) past) fun _ _ h => .pure ⟨h, rfl⟩

theorem cancelMembership_bare (past : run.Past) :
    Checked.Related HandlerBares (run.cancelMembership command key now)
      (run.bare.cancelMembership command key 0) := by
  refine .step _ fun _ _ => .step _ fun refundRequested _ => .step _ fun _ _ =>
    .step _ fun membership _ => .step _ fun _ _ => .step _ fun user _ =>
    .step _ fun entitlement _ => .ite (fun _ => .step _ fun _ _ => ?_) fun _ => ?_
  all_goals
    refine .bind (revokeEntitlement_bare ((run.setUser _).setMembership _) past) ?_
    rintro revoked _ ⟨rfl, past⟩
    exact .bind (event_bare _ past) fun _ _ h => .pure ⟨h, rfl⟩

variable [Python]

/-- An inspection shows the same snapshot up to its labels. -/
theorem inspectState_bare (past : run.Past) :
    Checked.Related HandlerBares (run.inspectState command now)
      (run.bare.inspectState command 0) := by
  refine .step _ fun _ _ => .step _ fun scope _ => .pure ⟨⟨rfl, past⟩, ?_⟩
  rfl

theorem handler_bare (past : run.Past) :
    Checked.Related HandlerBares (run.handler command key now)
      (run.bare.handler command key 0) := by
  unfold handler
  split
  · exact createUser_bare past
  · exact issueCoupon_bare past
  · exact createOrder_bare past
  · exact applyCoupon_bare past
  · exact payOrder_bare past
  · exact cancelOrder_bare past
  · exact refundOrder_bare past
  · exact redeemPoints_bare past
  · exact activateMembership_bare past
  · exact consumeEntitlement_bare past
  · exact cancelMembership_bare past
  · exact inspectState_bare past

theorem savepoint_bare (past : run.Past) :
    Checked.Related HandlerBares (run.savepoint command key now)
      (run.bare.savepoint command key 0) := by
  refine .bind (R := HandlerBares) (.step _ fun _ _ => handler_bare past) ?_
  rintro ⟨r, outcome⟩ ⟨_, outcome'⟩ ⟨⟨rfl, past⟩, same⟩
  exact .bind (flush_bare (r.versioned command.action) past) fun _ _ h => .pure ⟨h, same⟩

end RunSpace

end RuleArena
