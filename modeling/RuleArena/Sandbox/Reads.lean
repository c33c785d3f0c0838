import RuleArena.Sandbox.Idempotency

/-!
# Reads

A snapshot that is read outside a command comes from six statements: the row of
the run, and the users, coupons, orders, memberships and entitlements. No lock is
taken, and each statement sees the commands that were committed before it starts
(`Reading`). What is put together is a state the run has been in exactly if
nothing that is shown of a table has changed between the first statement and the
one that reads the table (`consistent_iff`): a write that is committed in between
raises the version, which was read first.
-/

namespace RuleArena

namespace RunSpace

variable [Python]

/-! ## Versions and rows -/

/-- What a snapshot shows of the users. -/
def shownUsers (run : RunSpace) : Json := .arr (run.user.toList.map TestUser.toJson)

/-- What a snapshot shows of the coupons. -/
def shownCoupons (run : RunSpace) : Json := .arr ((orderById Coupon.id run.coupons).map Coupon.toJson)

/-- What a snapshot shows of the orders. -/
def shownOrders (run : RunSpace) : Json := .arr ((orderById Order.id run.orders).map Order.toJson)

/-- What a snapshot shows of the memberships. -/
def shownMemberships (run : RunSpace) : Json :=
  .arr ((orderById Membership.id run.memberships).map Membership.toJson)

/-- What a snapshot shows of the entitlements. -/
def shownEntitlements (run : RunSpace) : Json :=
  .arr ((orderById Entitlement.id run.entitlements).map Entitlement.toJson)

omit [Python] in
theorem stateJson_inj {a b : RunSpace} : a.stateJson = b.stateJson ↔
    a.shownUsers = b.shownUsers ∧ a.shownCoupons = b.shownCoupons ∧
      a.shownOrders = b.shownOrders ∧ a.shownMemberships = b.shownMemberships ∧
      a.shownEntitlements = b.shownEntitlements := by
  change Json.obj [("users", a.shownUsers), ("coupons", a.shownCoupons),
    ("orders", a.shownOrders), ("memberships", a.shownMemberships),
    ("entitlements", a.shownEntitlements)] = Json.obj [("users", b.shownUsers),
    ("coupons", b.shownCoupons), ("orders", b.shownOrders), ("memberships", b.shownMemberships),
    ("entitlements", b.shownEntitlements)] ↔ _
  simp only [Json.obj.injEq, List.cons.injEq, Prod.mk.injEq, true_and, and_true]

/-- A command does not lower the version, and if it leaves it as it is, what a
    snapshot shows stays as well. -/
theorem execute_version (run : RunSpace) (command : ActionCommand) (now : Nat) (uuid : String) :
    run.snapshotVersion ≤ (run.execute command now uuid).1.snapshotVersion ∧
      ((run.execute command now uuid).1.snapshotVersion = run.snapshotVersion →
        (run.execute command now uuid).1.stateJson = run.stateJson) := by
  rcases execute_cases run command now uuid with e | ⟨record, -, hp, -⟩
  · rw [e]
    exact ⟨le_rfl, fun _ => rfl⟩
  · rcases perform_ok hp with ⟨-, ⟨r, outcome, hd, -, -, e⟩ | ⟨error, -, -, e⟩⟩ <;> rw [e]
    · have same : ((r.versioned command.action).withReceipt record).snapshotVersion =
          if command.action = .inspectState then run.snapshotVersion
          else run.snapshotVersion + 1 := by
        rw [← (handler_frame (dispatch_ok hd).1).snapshotVersion]
        rfl
      rw [same]
      split
      · rename_i inspects
        have h := (dispatch_ok hd).1
        rw [handler, inspects] at h
        have same : r = run := inspectState_ok h
        refine ⟨le_rfl, fun _ => ?_⟩
        have state : r.stateJson = run.stateJson := congrArg stateJson same
        exact state
      · exact ⟨Nat.le_succ _, fun e => absurd e (Nat.succ_ne_self _)⟩
    · exact ⟨le_rfl, fun _ => rfl⟩

theorem after_version (run : RunSpace) {commands : List Op} (noReset : Op.reset ∉ commands) :
    run.snapshotVersion ≤ (run.after commands).snapshotVersion ∧
      ((run.after commands).snapshotVersion = run.snapshotVersion →
        (run.after commands).stateJson = run.stateJson) := by
  induction commands generalizing run with
  | nil => exact ⟨le_rfl, fun _ => rfl⟩
  | cons op commands ih =>
    rw [List.mem_cons, not_or] at noReset
    cases op with
    | reset => exact absurd rfl noReset.1
    | execute command uuid now =>
      have first := execute_version run command now uuid
      have rest := ih (run.execute command now uuid).1 noReset.2
      refine ⟨first.1.trans rest.1, fun e => ?_⟩
      have e : ((run.execute command now uuid).1.after commands).snapshotVersion =
        run.snapshotVersion := e
      exact (rest.2 (by omega)).trans (first.2 (by omega))

/-! ## Readings -/

/-- The commands committed after each statement of a reading and before the next. -/
structure Reading where
  afterRun : List Op
  afterUsers : List Op
  afterCoupons : List Op
  afterOrders : List Op
  afterMemberships : List Op

namespace Reading

/-- All the commands, in the order in which they are committed. -/
def commands (reading : Reading) : List Op :=
  reading.afterRun ++ reading.afterUsers ++ reading.afterCoupons ++ reading.afterOrders ++
    reading.afterMemberships

variable (reading : Reading) (run : RunSpace)

/-- The run as the statement that reads the users finds it. -/
def atUsers : RunSpace := run.after reading.afterRun

/-- The run as the statement that reads the coupons finds it. -/
def atCoupons : RunSpace := (reading.atUsers run).after reading.afterUsers

/-- The run as the statement that reads the orders finds it. -/
def atOrders : RunSpace := (reading.atCoupons run).after reading.afterCoupons

/-- The run as the statement that reads the memberships finds it. -/
def atMemberships : RunSpace := (reading.atOrders run).after reading.afterOrders

/-- The run as the statement that reads the entitlements finds it. -/
def atEntitlements : RunSpace := (reading.atMemberships run).after reading.afterMemberships

/-- The run as `_snapshot` has it in hand: its row, and the tables as they were
    read one after the other. -/
def assembled : RunSpace :=
  { run with
    user := (reading.atUsers run).user, coupons := (reading.atCoupons run).coupons,
    orders := (reading.atOrders run).orders,
    memberships := (reading.atMemberships run).memberships,
    entitlements := (reading.atEntitlements run).entitlements }

/-- `get_snapshot` -/
def getSnapshot (now : Nat) : Json := (reading.assembled run).snapshot now

/-- What is read is a state of the run after some of the commands, taken in order,
    and of the version it had then. -/
def Consistent : Prop :=
  ∃ done, done <+: reading.commands ∧
    (reading.assembled run).stateJson = (run.after done).stateJson ∧
    (reading.assembled run).snapshotVersion = (run.after done).snapshotVersion

/-- A reading is consistent exactly if no table shows anything else when it is read
    than when the row of the run was read. -/
theorem consistent_iff (noReset : Op.reset ∉ reading.commands) :
    reading.Consistent run ↔
      (reading.atUsers run).shownUsers = run.shownUsers ∧
      (reading.atCoupons run).shownCoupons = run.shownCoupons ∧
      (reading.atOrders run).shownOrders = run.shownOrders ∧
      (reading.atMemberships run).shownMemberships = run.shownMemberships ∧
      (reading.atEntitlements run).shownEntitlements = run.shownEntitlements := by
  have assembled : (reading.assembled run).stateJson = run.stateJson ↔ _ := stateJson_inj
  refine ⟨fun ⟨done, hd, hs, hv⟩ => ?_, fun same => ⟨[], List.nil_prefix, assembled.2 same, rfl⟩⟩
  -- The version was read first, so no write is among the commands that count.
  have version : (run.after done).snapshotVersion = run.snapshotVersion := hv.symm
  have state := (after_version run fun hm => noReset (hd.subset hm)).2 version
  exact assembled.1 (hs.trans state)

end Reading

end RunSpace

/-! ## A payment while a snapshot is read -/

/-- An order of 100.00 that waits for payment. -/
def pendingHistory : List Op :=
  [.execute createUserCommand "" 1, .execute createOrderCommand "" 2]

/-- The payment is committed between the statements that read the users and the
    coupons. -/
def tornReading : RunSpace.Reading where
  afterRun := []
  afterUsers := [.execute payOrderCommand "" 3]
  afterCoupons := []
  afterOrders := []
  afterMemberships := []

/-- The payment is committed when the orders have been read. -/
def lateReading : RunSpace.Reading where
  afterRun := []
  afterUsers := []
  afterCoupons := []
  afterOrders := [.execute payOrderCommand "" 3]
  afterMemberships := []

/-- A payment that commits between two statements, and changes nothing that is read after it:
    what is read is the run before the payment. -/
theorem late_reading_consistent :
    let _ := Python.transparent
    let run := (createRun { scenarioType := .promotion } "run").after pendingHistory
    lateReading.Consistent run ∧
      (run.after lateReading.commands).stateJson ≠ run.stateJson := by
  intro _ run
  have noReset : Op.reset ∉ lateReading.commands := fun reset =>
    Op.noConfusion (List.mem_singleton.1 reset)
  refine ⟨(lateReading.consistent_iff run noReset).2 ⟨?_, ?_, ?_, ?_, ?_⟩, ?_⟩
  all_goals decide +kernel

/-- The order is shown as paid while the balance of the user is still whole, which
    the run never was. -/
theorem torn_reading_inconsistent :
    let _ := Python.transparent
    let run := (createRun { scenarioType := .promotion } "run").after pendingHistory
    ¬ tornReading.Consistent run := by
  intro _ run ⟨done, hd, hs, hv⟩
  rcases List.prefix_cons_iff.1 hd with rfl | ⟨rest, rfl, hrest⟩
  · exact absurd hs (by decide +kernel)
  · rw [List.prefix_nil.1 hrest] at hv
    exact absurd hv (by decide +kernel)

end RuleArena
