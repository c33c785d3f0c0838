import RuleArena.Sandbox.Effects

/-!
# Steps and runs

Whatever a command does, it either leaves the run as it is, or commits: the rows
of a successful handler or those the run had, with one receipt appended
(`execute_cases`). A handler never touches the receipts, the epoch or what the
run was created with, and only appends events (`Frame`).

`Reachable.induction` is the rule the invariants of the rows are proved by: a
property of the rows that a successful handler and a reset preserve holds in
every reachable run.
-/

namespace RuleArena

namespace RunSpace

/-! ## The event log -/

/-- No event is of a later epoch, and those of the epoch stand in the order of
    their sequence numbers. -/
structure EventsOrdered (run : RunSpace) : Prop where
  epochs : ∀ event ∈ run.events, event.epoch ≤ run.epoch
  sorted : run.epochEvents.Pairwise fun a b => a.sequence < b.sequence

theorem epochEvents_addEvent (run : RunSpace) (aggregateType : AggregateType)
    (aggregateId : String) (eventType : BusinessEventType) (payload : List (String × Json))
    (key : String) (now : Nat) :
    (run.addEvent aggregateType aggregateId eventType payload key now).epochEvents =
      run.epochEvents ++
        [run.newEvent aggregateType aggregateId eventType payload key now] := by
  rw [epochEvents, addEvent, List.filter_append]
  exact congrArg _ (List.filter_cons_of_pos (by simp [newEvent]))

theorem le_lastSequence {run : RunSpace} {event : BusinessEvent} (h : event ∈ run.epochEvents) :
    event.sequence ≤ run.lastSequence := by
  have le : ∀ (l : List Nat) (n : Nat), n ≤ l.foldl max n ∧ ∀ m ∈ l, m ≤ l.foldl max n := by
    intro l
    induction l with
    | nil => simp
    | cons a l ih =>
      intro n
      have h := ih (max n a)
      refine ⟨le_trans (le_max_left _ _) h.1, fun m hm => ?_⟩
      rcases List.mem_cons.1 hm with rfl | hm
      · exact le_trans (le_max_right _ _) h.1
      · exact h.2 m hm
  exact (le _ 0).2 _ (List.mem_map_of_mem h)

theorem EventsOrdered.addEvent {run : RunSpace} (h : run.EventsOrdered)
    (aggregateType : AggregateType) (aggregateId : String) (eventType : BusinessEventType)
    (payload : List (String × Json)) (key : String) (now : Nat) :
    (run.addEvent aggregateType aggregateId eventType payload key now).EventsOrdered := by
  constructor
  · intro event hm
    rcases List.mem_append.1 hm with hm | hm
    · exact h.epochs event hm
    · rw [List.mem_singleton.1 hm]; exact le_rfl
  · rw [epochEvents_addEvent, List.pairwise_append]
    refine ⟨h.sorted, by simp, fun a ha b hb => ?_⟩
    rw [List.mem_singleton.1 hb]
    exact Nat.lt_succ_of_le (le_lastSequence ha)

theorem EventsOrdered.epochEvents_reset {run : RunSpace} (h : run.EventsOrdered) :
    run.reset.epochEvents = [] := by
  rw [epochEvents, List.filter_eq_nil_iff]
  intro event hm
  have := h.epochs event hm
  have later : event.epoch ≠ run.epoch + 1 := by omega
  exact fun e => later (of_decide_eq_true e)

theorem EventsOrdered.reset {run : RunSpace} (h : run.EventsOrdered) :
    run.reset.EventsOrdered :=
  ⟨fun event hm => (h.epochs event hm).trans (Nat.le_succ _), by simp [h.epochEvents_reset]⟩

/-! ## What handlers leave alone -/

/-- The second run differs from the first one in its rows and in events it has
    besides those of the first. -/
structure Frame (run run' : RunSpace) : Prop where
  id : run'.id = run.id
  scenarioType : run'.scenarioType = run.scenarioType
  sandboxVersion : run'.sandboxVersion = run.sandboxVersion
  defectAxes : run'.defectAxes = run.defectAxes
  epoch : run'.epoch = run.epoch
  snapshotVersion : run'.snapshotVersion = run.snapshotVersion
  receipts : run'.receipts = run.receipts
  events : run.events <+: run'.events
  ordered : run.EventsOrdered → run'.EventsOrdered

theorem Frame.rfl {run : RunSpace} : Frame run run :=
  ⟨.refl _, .refl _, .refl _, .refl _, .refl _, .refl _, .refl _, List.prefix_rfl, fun h => h⟩

theorem Frame.trans {a b c : RunSpace} (h : Frame a b) (h' : Frame b c) : Frame a c :=
  ⟨h'.id.trans h.id, h'.scenarioType.trans h.scenarioType,
    h'.sandboxVersion.trans h.sandboxVersion, h'.defectAxes.trans h.defectAxes,
    h'.epoch.trans h.epoch, h'.snapshotVersion.trans h.snapshotVersion,
    h'.receipts.trans h.receipts, h.events.trans h'.events, h'.ordered ∘ h.ordered⟩

theorem Frame.profile {run run' : RunSpace} (h : Frame run run') : run'.profile = run.profile := by
  rw [RunSpace.profile, RunSpace.profile, h.sandboxVersion, h.defectAxes]

/-- The second run comes from the first one by updates of rows, between which
    events are appended one by one. -/
inductive Writes (run : RunSpace) : RunSpace → Prop
  | refl : Writes run run
  | rows {r r' : RunSpace} (h : Writes run r) (h₁ : r'.id = r.id := by rfl)
      (h₂ : r'.scenarioType = r.scenarioType := by rfl)
      (h₃ : r'.sandboxVersion = r.sandboxVersion := by rfl)
      (h₄ : r'.defectAxes = r.defectAxes := by rfl) (h₅ : r'.epoch = r.epoch := by rfl)
      (h₆ : r'.snapshotVersion = r.snapshotVersion := by rfl)
      (h₇ : r'.receipts = r.receipts := by rfl) (h₈ : r'.events = r.events := by rfl) : Writes run r'
  | event {r : RunSpace} (h : Writes run r) (aggregateType : AggregateType) (aggregateId : String)
      (eventType : BusinessEventType) (payload : List (String × Json)) (key : String) (now : Nat) :
      Writes run (r.addEvent aggregateType aggregateId eventType payload key now)

variable {run run' : RunSpace} {command : ActionCommand} {key : String} {now : Nat}
  {outcome : Outcome}

theorem Writes.trans {a b c : RunSpace} (h : Writes a b) (h' : Writes b c) : Writes a c := by
  induction h' with
  | refl => exact h
  | rows _ h₁ h₂ h₃ h₄ h₅ h₆ h₇ h₈ ih => exact ih.rows h₁ h₂ h₃ h₄ h₅ h₆ h₇ h₈
  | event _ aggregateType aggregateId eventType payload key now ih => exact ih.event ..

theorem Writes.frame (h : Writes run run') : Frame run run' := by
  induction h with
  | refl => exact .rfl
  | rows _ h₁ h₂ h₃ h₄ h₅ h₆ h₇ h₈ ih =>
    refine ih.trans ⟨h₁, h₂, h₃, h₄, h₅, h₆, h₇, h₈ ▸ List.prefix_rfl, fun ordered => ⟨?_, ?_⟩⟩
    · rw [h₅, h₈]
      exact ordered.epochs
    · rw [epochEvents, h₅, h₈]
      exact ordered.sorted
  | event _ aggregateType aggregateId eventType payload key now ih =>
    exact ih.trans ⟨rfl, rfl, rfl, rfl, rfl, rfl, rfl, List.prefix_append _ _,
      fun ordered => ordered.addEvent ..⟩

theorem useCoupon_writes {order : Order} (h : run.useCoupon key now order = .ok run') :
    Writes run run' := by
  rcases useCoupon_ok h with ⟨-, rfl⟩ | ⟨_, -, -, -, -, rfl⟩
  · exact .refl
  · exact Writes.event (.rows .refl) ..

theorem grantPoints_writes {user : TestUser} {order : Order} {points : Int} {ledgerKey : String}
    (h : run.grantPoints key now user order points ledgerKey = .ok run') : Writes run run' := by
  rw [grantPoints_ok h]
  exact Writes.event (.rows .refl) ..

theorem releaseCoupon_writes {order : Order} (h : run.releaseCoupon key now order = .ok run') :
    Writes run run' := by
  rcases releaseCoupon_ok h with rfl | ⟨_, -, -, -, -, rfl⟩
  · exact .refl
  · exact Writes.event (.rows .refl) ..

theorem refundPoints_writes {user : TestUser} {order : Order} {amount : Int}
    (h : run.refundPoints key now user order amount = .ok run') : Writes run run' := by
  rcases refundPoints_ok h with ⟨-, rfl⟩ | ⟨-, -, h⟩ | ⟨-, -, h⟩
  · exact .refl
  · exact grantPoints_writes h
  · rcases revokePoints_ok h with ⟨-, rfl⟩ | ⟨_, -, -, -, rfl⟩
    · exact .refl
    · exact Writes.event (.rows .refl) ..

theorem restoreCoupon_writes {order : Order} (h : run.restoreCoupon key now order = .ok run') :
    Writes run run' := by
  rcases restoreCoupon_ok h with rfl | ⟨_, -, -, -, rfl⟩
  · exact .refl
  · exact Writes.event (.rows .refl) ..

theorem revokeEntitlement_writes {allowed : Bool} {entitlement : Entitlement}
    (h : run.revokeEntitlement key now allowed entitlement = .ok run') : Writes run run' := by
  rcases revokeEntitlement_ok h with ⟨-, rfl⟩ | ⟨-, -, rfl⟩
  · exact .refl
  · exact Writes.event (.rows .refl) ..

theorem refunded_writes {user : TestUser} {order : Order} {amount : Amount} :
    Writes run (run.refunded user order amount key now) := Writes.event (.rows .refl) ..

theorem refundPoints_frame {user : TestUser} {order : Order} {amount : Int}
    (h : run.refundPoints key now user order amount = .ok run') : Frame run run' :=
  (refundPoints_writes h).frame

theorem refunded_frame {user : TestUser} {order : Order} {amount : Amount} :
    Frame run (run.refunded user order amount key now) := refunded_writes.frame

/-! ## What blocks leave alone -/

theorem useCoupon_rows {order : Order} (h : run.useCoupon key now order = .ok run') :
    run'.user = run.user ∧ run'.orders = run.orders ∧ run'.memberships = run.memberships ∧
      run'.entitlements = run.entitlements := by
  rcases useCoupon_ok h with ⟨-, rfl⟩ | ⟨_, -, -, -, -, rfl⟩ <;> simp

theorem releaseCoupon_rows {order : Order} (h : run.releaseCoupon key now order = .ok run') :
    run'.user = run.user ∧ run'.orders = run.orders ∧ run'.memberships = run.memberships ∧
      run'.entitlements = run.entitlements := by
  rcases releaseCoupon_ok h with rfl | ⟨_, -, -, -, -, rfl⟩ <;> simp

theorem restoreCoupon_rows {order : Order} (h : run.restoreCoupon key now order = .ok run') :
    run'.user = run.user ∧ run'.orders = run.orders ∧ run'.memberships = run.memberships ∧
      run'.entitlements = run.entitlements := by
  rcases restoreCoupon_ok h with rfl | ⟨_, -, -, -, rfl⟩ <;> simp

/-- Points move without money. -/
theorem grantPoints_rows {user : TestUser} {order : Order} {points : Int} {ledgerKey : String}
    (h : run.grantPoints key now user order points ledgerKey = .ok run') :
    run'.user = some (user.addPoints points) ∧ run'.orders = run.orders ∧
      run'.coupons = run.coupons ∧ run'.memberships = run.memberships ∧
      run'.entitlements = run.entitlements := by
  rw [grantPoints_ok h]
  simp

theorem refundPoints_rows {user : TestUser} {order : Order} {amount : Int}
    (h : run.refundPoints key now user order amount = .ok run') (hu : run.user = some user) :
    (∃ points, run'.user = some (user.addPoints points)) ∧ run'.orders = run.orders ∧
      run'.coupons = run.coupons ∧ run'.memberships = run.memberships ∧
      run'.entitlements = run.entitlements := by
  rcases refundPoints_ok h with ⟨-, rfl⟩ | ⟨-, -, h⟩ | ⟨-, -, h⟩
  · exact ⟨⟨0, by simp [hu, TestUser.addPoints]⟩, rfl, rfl, rfl, rfl⟩
  · have := grantPoints_rows h
    exact ⟨⟨_, this.1⟩, this.2⟩
  · rcases revokePoints_ok h with ⟨-, rfl⟩ | ⟨delta, -, -, -, rfl⟩
    · exact ⟨⟨0, by simp [hu, TestUser.addPoints]⟩, rfl, rfl, rfl, rfl⟩
    · exact ⟨⟨-delta, by simp⟩, by simp, by simp, by simp, by simp⟩

theorem revokeEntitlement_rows {allowed : Bool} {entitlement : Entitlement}
    (h : run.revokeEntitlement key now allowed entitlement = .ok run') :
    run'.user = run.user ∧ run'.orders = run.orders ∧ run'.memberships = run.memberships := by
  rcases revokeEntitlement_ok h with ⟨-, rfl⟩ | ⟨-, -, rfl⟩ <;> simp

/-- The identifier of a new row of a table that comes out keyed was new. -/
theorem fresh_of_keyed {α : Type} {rowKey : α → String} {rows : List α} {row : α}
    (h : Table.Keyed rowKey (rows ++ [row])) : Table.find? rowKey rows (rowKey row) = none := by
  rw [Table.find?_eq_none]
  rw [Table.Keyed, List.map_append, List.nodup_append] at h
  intro hm
  exact h.2.2 _ hm _ (by simp) rfl

/-! ## Handlers -/

/-- A handler updates rows and appends events. -/
theorem handler_writes [Python] (h : run.handler command key now = .ok (run', outcome)) :
    Writes run run' := by
  unfold handler at h
  split at h
  · obtain ⟨_, _, -, -, rfl⟩ := createUser_ok h
    exact Writes.event (.rows .refl) ..
  · obtain ⟨_, _, _, _, -, -, -, rfl⟩ := issueCoupon_ok h
    exact Writes.event (.rows .refl) ..
  · obtain ⟨_, _, _, -, -, rfl⟩ := createOrder_ok h
    exact Writes.event (.rows .refl) ..
  · obtain ⟨_, _, -, -, -, -, -, rfl⟩ := applyCoupon_ok h
    exact Writes.event (.rows .refl) ..
  · obtain ⟨_, _, r, -, -, -, -, -, -, hr, h⟩ := payOrder_ok h
    have used : Writes run r := Writes.trans (.rows .refl) (useCoupon_writes hr)
    rcases h with ⟨-, rfl⟩ | ⟨-, h⟩
    · exact used.event ..
    · exact ((used.event ..).rows).trans (grantPoints_writes h)
  · obtain ⟨_, r, -, -, hr, rfl⟩ := cancelOrder_ok h
    exact ((releaseCoupon_writes hr).rows).event ..
  · obtain ⟨_, _, _, r, -, -, -, -, -, -, -, hr, h, -⟩ := refundOrder_ok h
    exact (refunded_writes.trans (refundPoints_writes hr)).trans (restoreCoupon_writes h)
  · obtain ⟨_, _, -, -, -, rfl⟩ := redeemPoints_ok h
    exact Writes.event (.rows .refl) ..
  · obtain ⟨_, _, _, _, -, -, -, -, -, rfl⟩ := activateMembership_ok h
    exact Writes.event (Writes.event (.rows .refl) ..) ..
  · obtain ⟨_, _, -, -, -, -, -, rfl⟩ := consumeEntitlement_ok h
    exact Writes.event (.rows .refl) ..
  · obtain ⟨_, _, _, r, -, -, -, -, ⟨-, hr, rfl⟩ | ⟨hr, rfl⟩⟩ := cancelMembership_ok h
    all_goals exact (Writes.trans (.rows .refl) (revokeEntitlement_writes hr)).event ..
  · rw [inspectState_ok h]
    exact .refl

/-- A handler leaves what the run was created with, its epoch and its receipts
    alone, and only appends events. -/
theorem handler_frame [Python] (h : run.handler command key now = .ok (run', outcome)) :
    Frame run run' := (handler_writes h).frame

/-! ## Commands -/

/-- The run as committed with the receipt of a command. -/
def withReceipt (run : RunSpace) (record : ActionReceiptRecord) : RunSpace :=
  { run with receipts := run.receipts ++ [record] }

theorem epochReceipts_withReceipt {record : ActionReceiptRecord} (h : record.epoch = run.epoch) :
    (run.withReceipt record).epochReceipts = run.epochReceipts ++ [record] := by
  rw [epochReceipts, withReceipt, List.filter_append]
  simp [epochReceipts, h]

/-- The run a successful handler leads to, with the version its action gives it. -/
def versioned (run : RunSpace) (action : ActionName) : RunSpace :=
  { run with
    snapshotVersion := if action = .inspectState then run.snapshotVersion
      else run.snapshotVersion + 1 }

theorem dispatch_ok [Python] (h : run.dispatch command key now = .ok (run', outcome)) :
    run.handler command key now = .ok (run', outcome) ∧
      command.action ∈ [.createUser, .inspectState] ++ run.scenarioType.actions := by
  simp only [dispatch, Checked.bind_eq_ok, Checked.ensure_eq_ok] at h
  obtain ⟨-, hm, h⟩ := h
  exact ⟨h, hm⟩

/-- A savepoint that is kept holds what the handler left, under its version. -/
theorem savepoint_ok [Python] (h : run.savepoint command key now = .ok (run', outcome)) :
    run'.Storable ∧ ∃ r, run.dispatch command key now = .ok (r, outcome) ∧
      run' = r.versioned command.action := by
  simp only [savepoint, Checked.bind_eq_ok, Checked.pure_eq_ok, flush_eq_ok, Prod.mk.injEq] at h
  obtain ⟨⟨r, outcome'⟩, hd, _, ⟨hst, rfl⟩, rfl, rfl⟩ := h
  exact ⟨hst, r, hd, rfl⟩

/-- What is committed for a command without a receipt: the rows of its handler and
    a receipt of success, or the rows as they were and a receipt of rejection. -/
theorem perform_ok [Python] {record : ActionReceiptRecord}
    (h : run.perform command key now = .ok (run', record)) :
    run'.Storable ∧
    ((∃ r outcome, run.dispatch command key now = .ok (r, outcome) ∧
        record = run.recordOf command key now (.ok outcome) ∧
        (r.versioned command.action).Storable ∧
        run' = (r.versioned command.action).withReceipt record) ∨
      (∃ error, run.savepoint command key now = .error (.domain error) ∧
        record = run.recordOf command key now (.error error) ∧ run' = run.withReceipt record)) := by
  unfold perform at h
  split at h
  · rename_i r outcome hs
    simp only [addReceipt, Checked.bind_eq_ok, Checked.pure_eq_ok, Prod.mk.injEq,
      flush_eq_ok] at h
    obtain ⟨_, ⟨hst, rfl⟩, rfl, rfl⟩ := h
    obtain ⟨hst', r₀, hd, rfl⟩ := savepoint_ok hs
    exact ⟨hst, .inl ⟨r₀, _, hd, rfl, hst', rfl⟩⟩
  · rename_i error hs
    simp only [addReceipt, Checked.bind_eq_ok, Checked.pure_eq_ok, Prod.mk.injEq,
      flush_eq_ok] at h
    obtain ⟨_, ⟨hst, rfl⟩, rfl, rfl⟩ := h
    exact ⟨hst, .inr ⟨error, hs, rfl, rfl⟩⟩
  · simp at h

/-- A command that is committed adds its receipt to those of the epoch. -/
theorem perform_receipts [Python] {record : ActionReceiptRecord}
    (h : run.perform command key now = .ok (run', record)) :
    run'.epochReceipts = run.epochReceipts ++ [record] := by
  rcases perform_ok h with ⟨-, ⟨r, outcome, hd, rfl, -, rfl⟩ | ⟨error, -, rfl, rfl⟩⟩
  · have frame := handler_frame (dispatch_ok hd).1
    rw [epochReceipts_withReceipt frame.epoch.symm]
    simp only [epochReceipts, versioned, frame.receipts, frame.epoch]
  · exact epochReceipts_withReceipt rfl

/-- A receipt of an action and key without one fits the database. -/
theorem addReceipt_new {record : ActionReceiptRecord} (storable : run.Storable)
    (epoch : record.epoch = run.epoch)
    (new : run.existing record.actionType record.idempotencyKey = none) :
    run.addReceipt record = .ok (run.withReceipt record) := by
  refine (flush_eq_ok _).2 ⟨{ storable with receipts_key := ?_ }, rfl⟩
  rw [Table.Keyed, List.map_append, List.nodup_append]
  refine ⟨storable.receipts_key, by simp, fun a ha b hb e => ?_⟩
  obtain ⟨other, hm, rfl⟩ := List.mem_map.1 ha
  obtain rfl := List.mem_singleton.1 hb
  simp only [Prod.mk.injEq] at e
  have hm : other ∈ run.epochReceipts :=
    List.mem_filter.2 ⟨hm, decide_eq_true (e.1.trans epoch)⟩
  simpa [e.2.1, e.2.2] using List.find?_eq_none.1 new other hm

/-- What comes of a command without a receipt follows from its savepoint: the
    receipt itself never fails. -/
theorem perform_eq [Python] (storable : run.Storable)
    (new : run.existing command.action key = none) :
    run.perform command key now =
      match run.savepoint command key now with
      | .ok (run', outcome) =>
        .ok (run'.withReceipt (run.recordOf command key now (.ok outcome)),
          run.recordOf command key now (.ok outcome))
      | .error (.domain error) =>
        .ok (run.withReceipt (run.recordOf command key now (.error error)),
          run.recordOf command key now (.error error))
      | .error (.crash crash) => .error (.crash crash) := by
  unfold perform
  cases hs : run.savepoint command key now with
  | ok p =>
    obtain ⟨run', outcome⟩ := p
    obtain ⟨hst, r, hd, rfl⟩ := savepoint_ok hs
    have frame := handler_frame (dispatch_ok hd).1
    have unknown : (r.versioned command.action).existing command.action key = none := by
      unfold existing epochReceipts versioned at *
      rwa [frame.receipts, frame.epoch]
    have added : (r.versioned command.action).addReceipt
        (run.recordOf command key now (.ok outcome)) = _ :=
      addReceipt_new hst frame.epoch.symm unknown
    simp only [added]
    rfl
  | error fault =>
    cases fault with
    | domain error =>
      have added : run.addReceipt (run.recordOf command key now (.error error)) = _ :=
        addReceipt_new storable rfl new
      simp only [added]
      rfl
    | crash crash => rfl

/-- A command leaves the run alone, or commits it with a receipt it had not. -/
theorem execute_cases [Python] (run : RunSpace) (command : ActionCommand) (now : Nat)
    (uuid : String) :
    (run.execute command now uuid).1 = run ∨
    ∃ record, run.existing command.action (effectiveKey command uuid) = none ∧
      run.perform command (effectiveKey command uuid) now =
        .ok ((run.execute command now uuid).1, record) ∧
      (run.execute command now uuid).2 = run.acknowledge command record := by
  unfold execute
  split
  · exact .inl rfl
  simp only
  split
  · exact .inl rfl
  split
  · exact .inl rfl
  · rename_i hn
    split
    · rename_i run' record hp
      exact .inr ⟨record, hn, hp, rfl⟩
    · exact .inl rfl
    · exact .inl rfl

/-! ## Histories -/

/-- A property that creation, commands and resets establish or preserve holds
    after every history. -/
theorem Reachable.induct [Python] {P : RunSpace → Prop}
    (created : ∀ request id, P (createRun request id))
    (step : ∀ run op, Reachable run → P run → P (run.apply op)) {run : RunSpace}
    (h : Reachable run) : P run := by
  obtain ⟨request, id, history, rfl⟩ := h
  induction history using List.reverseRecOn with
  | nil => exact created request id
  | append_singleton history op ih =>
    rw [after_concat]
    exact step _ op ⟨request, id, history, rfl⟩ ih

theorem storable_createRun (request : CreateRunRequest) (id : String) :
    (createRun request id).Storable := by
  constructor <;> simp [createRun, Table.Keyed, Int32]

/-- Every reachable run is as the database lets it be. -/
theorem Reachable.storable [Python] {run : RunSpace} (h : Reachable run) : run.Storable := by
  refine h.induct storable_createRun fun run op _ ih => ?_
  cases op with
  | execute command uuid now =>
    rcases execute_cases run command now uuid with e | ⟨record, -, hp, -⟩
    · rw [apply, e]; exact ih
    · exact (perform_ok hp).1
  | reset =>
    have := ih.events_sequence
    have := ih.receipts_key
    constructor <;> first | assumption | exact ih.events | simp [apply, reset, Table.Keyed, Int32]

theorem Reachable.apply [Python] {run : RunSpace} (h : Reachable run) (op : Op) :
    Reachable (run.apply op) := by
  obtain ⟨request, id, history, rfl⟩ := h
  exact ⟨request, id, history ++ [op], after_concat _ _ _⟩

theorem Reachable.after [Python] {run : RunSpace} (h : Reachable run) (history : List Op) :
    Reachable (run.after history) := by
  obtain ⟨request, id, before, rfl⟩ := h
  exact ⟨request, id, before ++ history, after_append _ _ _⟩

/-- The induction rule for a property of the rows, the events and what the run was
    created with: neither receipts nor versions matter to it. -/
theorem Reachable.induction [Python] {P : RunSpace → Prop}
    (created : ∀ request id, P (createRun request id))
    (reset : ∀ run, Reachable run → P run → P run.reset)
    (handler : ∀ run run' command key now outcome, Reachable run → run'.Storable →
      run.handler command key now = .ok (run', outcome) → P run → P run')
    (committed : ∀ run version receipts, P run →
      P { run with snapshotVersion := version, receipts })
    {run : RunSpace} (h : Reachable run) : P run := by
  refine h.induct created fun run op hr ih => ?_
  cases op with
  | reset => exact reset run hr ih
  | execute command uuid now =>
    rcases execute_cases run command now uuid with e | ⟨record, -, hp, -⟩
    · rw [RunSpace.apply, e]; exact ih
    · rw [RunSpace.apply]
      rcases perform_ok hp with ⟨-, ⟨r, outcome, hd, -, hst, e⟩ | ⟨error, -, -, e⟩⟩ <;> rw [e]
      · refine committed r _ _ (handler run r command _ now outcome hr ?_ (dispatch_ok hd).1 ih)
        have hv : Int32 r.snapshotVersion :=
          (handler_frame (dispatch_ok hd).1).snapshotVersion ▸ hr.storable.snapshotVersion
        exact { hst with snapshotVersion := hv }
      · exact committed run run.snapshotVersion _ ih

/-- No receipt is of a later epoch. -/
theorem Reachable.receipt_epoch [Python] {run : RunSpace} (h : Reachable run) :
    ∀ record ∈ run.receipts, record.epoch ≤ run.epoch := by
  refine h.induct (P := fun run => ∀ record ∈ run.receipts, record.epoch ≤ run.epoch)
    (by simp [createRun]) fun run op _ ih => ?_
  cases op with
  | reset => exact fun record hm => (ih record hm).trans (Nat.le_succ _)
  | execute command uuid now =>
    rw [RunSpace.apply]
    rcases execute_cases run command now uuid with e | ⟨added, -, hp, -⟩
    · rw [e]; exact ih
    · rcases perform_ok hp with ⟨-, ⟨r, outcome, hd, rfl, -, e⟩ | ⟨error, -, rfl, e⟩⟩ <;> rw [e] <;>
        intro record hm <;> rcases List.mem_append.1 hm with hm | hm
      · have frame := handler_frame (dispatch_ok hd).1
        exact (ih record (frame.receipts ▸ hm)).trans frame.epoch.ge
      · rw [List.mem_singleton.1 hm]
        exact (handler_frame (dispatch_ok hd).1).epoch.ge
      · exact ih record hm
      · rw [List.mem_singleton.1 hm]
        exact le_rfl

/-- A new epoch starts without receipts. -/
theorem Reachable.epochReceipts_reset [Python] {run : RunSpace} (h : Reachable run) :
    run.reset.epochReceipts = [] := by
  rw [epochReceipts, List.filter_eq_nil_iff]
  intro record hm
  have := h.receipt_epoch record hm
  simp
  omega

/-- In every reachable run the event log is in order. -/
theorem Reachable.ordered [Python] {run : RunSpace} (h : Reachable run) : run.EventsOrdered :=
  h.induction (fun _ _ => ⟨by simp [createRun], by simp [createRun, epochEvents]⟩)
    (fun _ _ ih => ih.reset) (fun _ _ _ _ _ _ _ _ h ih => (handler_frame h).ordered ih)
    fun _ _ _ ih => ⟨ih.epochs, ih.sorted⟩

end RunSpace

end RuleArena
