import RuleArena.Oracle.Soundness

/-!
# What a single defect is found out by

Each defect is to be found out by invariants of its own (`DefectAxis.invariants`).
A run with one defect is judged by no others exactly if two things do not happen
(`axis_attributable`): that an action is answered twice under a key that two
events of one type carry, as a refund that repeats effects can bring about, and
that a membership is cancelled whose entitlement was overdrawn.
-/

namespace RuleArena

/-- The invariants a defect is to be found out by. -/
def DefectAxis.invariants : DefectAxis → List InvariantId
  | couponRestoredOnRefund => [.couponSingleConsumption]
  | refundAgainstOriginal => [.refundNotExceedPaid, .netPaidNonNegative]
  | refundAckLost => []
  | pointsGrantedAgainOnRefund => [.pointsValueConservation]
  | pointsOverredemption => [.pointsValueConservation]
  | fullRefundAfterConsumption => [.entitlementRefundConsistency]
  | entitlementLeftAfterRefund => [.entitlementRefundConsistency]
  | entitlementOverconsumption => [.entitlementNonNegative]

/-- Nothing has happened that makes the oracle take one defect for another: no action
    was answered with success twice under a key that two events of one type carry, and
    no membership was cancelled with an entitlement that is overdrawn. -/
structure Attributable (run : RunSpace) (receipts : List ActionReceipt) : Prop where
  keys : ∀ key, run.Doubled key → ¬ Repeated receipts key
  closed : ∀ membership ∈ run.memberships, membership.status = .cancelled →
    ∀ entitlement ∈ run.entitlements, entitlement.membershipId = membership.id →
      0 ≤ entitlement.available

namespace Oracle

/-! ## Checks that end with a verdict -/

section Quiet

variable {α : Type}

theorem isVerdict_insufficient (explanation : String) : IsVerdict (insufficient explanation) :=
  ⟨_, rfl, nofun⟩

theorem isVerdict_notApplicable (explanation : String) : IsVerdict (notApplicable explanation) :=
  ⟨_, rfl, nofun⟩

theorem fails_needed {value : Option α} {explanation : String} :
    Checked.Fails IsVerdict (needed value explanation) := by
  unfold needed
  split
  · exact .ok
  · exact .throw (isVerdict_insufficient _)

theorem fails_collect {f : α → Except Exit (List Json)} :
    ∀ {l : List α}, (∀ a ∈ l, Checked.Fails IsVerdict (f a)) →
      Checked.Fails IsVerdict (collect f l)
  | [], _ => .pure
  | a :: as, h => by
    unfold collect
    exact .bind (h a List.mem_cons_self) fun _ _ => .bind
      (fails_collect fun b hb => h b (List.mem_cons_of_mem _ hb)) fun _ _ => .pure

theorem fails_quantities {item : Json} : Checked.Fails IsVerdict (quantities item) :=
  .bind fails_needed fun _ _ => .bind fails_needed fun _ _ => .bind fails_needed fun _ _ => .pure

end Quiet

section Checks

variable [Python] {run : RunSpace} {snapshots events : List Json} {now : Nat}

theorem quiet_netPaid (hr : run.Reachable)
    (last : snapshots.getLast? = some (run.snapshot now)) : Quiet (netPaid snapshots) := by
  rw [netPaid, lastItems_eq last, (items_snapshot run now).2.2.1]
  refine .bind fails_needed fun orders found => .bind (.ensure fun _ => isVerdict_notApplicable _)
    fun _ _ => .bind (fails_collect fun item mem => ?_) fun _ _ => .pure
  cases found
  obtain ⟨order, hm, rfl⟩ := List.mem_map.1 mem
  have stored := hr.storable.orders order (mem_orderById.1 hm)
  obtain ⟨paid, hp, vp⟩ := decimal_amountText stored.2.2.1
  obtain ⟨refunded, hrf, vr⟩ := decimal_amountText stored.2.2.2.1
  have inRange : Context.InRange (Context.sub paid.value refunded.value) := by
    rw [vp, vr]
    refine (Context.sub_cents ?_).2
    have := stored.2.2.1
    have := stored.2.2.2.1
    simp only [Numeric] at *
    rw [abs_lt]
    omega
  simp only [order_get, hp, hrf, needed_some, Checked.ok_bind,
    Context.checked_of_inRange inRange, raising]
  exact .ite .pure .pure

theorem quiet_refundLimit : Quiet (refundLimit snapshots) := by
  refine .bind fails_needed fun _ _ => .bind (.ensure fun _ => isVerdict_notApplicable _) fun _ _ =>
    .bind (fails_collect fun _ _ => ?_) fun _ _ => .pure
  exact .bind fails_needed fun _ _ => .bind fails_needed fun _ _ => .ite .pure .pure

theorem quiet_couponConsumption : Quiet (couponConsumption snapshots events) := by
  refine .bind fails_needed fun _ _ => .bind (.ensure fun _ => isVerdict_notApplicable _) fun _ _ =>
    .bind (fails_collect fun _ _ => ?_) fun _ _ => .pure
  exact .bind fails_needed fun _ _ => .ite .pure .pure

omit [Python] in
theorem quiet_entitlementNonNegative : Quiet (entitlementNonNegative snapshots) := by
  refine .bind fails_needed fun _ _ => .bind (.ensure fun _ => isVerdict_notApplicable _) fun _ _ =>
    .bind (fails_collect fun _ _ => ?_) fun _ _ => .pure
  exact .bind fails_quantities fun _ _ => .ite .pure .pure

/-! ## Points -/

/-- The orders of a run can be read for their points, whatever the events say. -/
theorem fails_pointsOrders {rule : PointsRule} {entries : List (Bool × String × Int)}
    {anyEvents : Bool} (spend : rule.spendAmount = 1) (granted : rule.pointsGranted = 1)
    (hr : run.Reachable) {orders : List Order} (mem : ∀ order ∈ orders, order ∈ run.orders)
    (known : Bool) :
    Checked.Fails IsVerdict
      (pointsOrders rule entries anyEvents known (orders.map Order.toJson)) := by
  induction orders generalizing known with
  | nil => exact .pure
  | cons order orders ih =>
    have hm := mem order List.mem_cons_self
    have stored := hr.storable.orders order hm
    obtain ⟨paid, hp, vp⟩ := decimal_amountText stored.2.2.1
    obtain ⟨refunded, hrf, -⟩ := decimal_amountText stored.2.2.2.1
    have expected := expectedGrant_eq spend granted (hr.orders_wellFormed order hm).nonneg.1
      stored.2.2.1.2 vp
    have stateGrant : (Json.int order.pointsGranted).toInt = .ok order.pointsGranted := rfl
    rw [List.map_cons, pointsOrders]
    simp only [order_get, hp, hrf, needed_some, expected, Checked.ok_bind, raising, stateGrant]
    exact .bind (ih (fun o ho => mem o (List.mem_cons_of_mem _ ho)) _) fun _ _ => .pure

theorem quiet_pointsConservation (hr : run.Reachable) {spec : RuleSpec}
    (describes : spec.Describes run.scenarioType)
    (last : snapshots.getLast? = some (run.snapshot now)) :
    Quiet (pointsConservation spec snapshots run.getEvents) := by
  rw [pointsConservation]
  cases hrule : spec.pointsRule with
  | none => exact .bind (.throw (isVerdict_notApplicable _)) (by rintro _ ⟨⟩)
  | some rule =>
    obtain ⟨spend, granted, -⟩ := describes.points rule hrule
    obtain ⟨entries, he, -⟩ := pointsEntries_eq run hr.events_legible
    simp only [lastItems_eq last, items_snapshot, needed_some, Checked.ok_bind]
    rw [getEvents_eq hr.ordered, he, Checked.ok_bind]
    refine .bind (fails_pointsOrders spend granted hr (fun _ => mem_orderById.1) _) fun _ _ =>
      .bind (fails_collect fun _ _ => ?_) fun _ _ => .pure
    exact .bind fails_needed fun _ _ => .ite .pure .pure

/-! ## Memberships that ended -/

omit [Python] in
/-- What is bad of items that can all be read, and when nothing is. -/
theorem exists_collect {α : Type} {f : α → Except Exit (List Json)} {l : List α}
    (h : ∀ a ∈ l, ∃ bad, f a = .ok bad) :
    ∃ bad, collect f l = .ok bad ∧ (bad = [] ↔ ∀ a ∈ l, f a = .ok []) := by
  induction l with
  | nil => exact ⟨[], rfl, by simp⟩
  | cons a as ih =>
    obtain ⟨first, hf⟩ := h a List.mem_cons_self
    obtain ⟨rest, hc, none⟩ := ih fun b hb => h b (List.mem_cons_of_mem _ hb)
    refine ⟨first ++ rest, by rw [collect, hf, hc]; rfl, ?_⟩
    simp [none, hf]

/-- What the check finds bad of a membership. -/
theorem exists_endedMembership (policy : RefundPolicy) (events : List Json)
    (membership : Membership) (entitlement : Entitlement) :
    ∃ bad, endedMembership policy events membership.toJson entitlement.toJson = .ok bad ∧
      (bad = [] → entitlement.available = 0) := by
  simp only [endedMembership, entitlement_get, Checked.ok_bind]
  refine ⟨_, rfl, fun nothing => ?_⟩
  simp only [List.append_eq_nil_iff, ite_eq_right_iff, reduceCtorEq, imp_false, not_not] at nothing
  exact nothing.1.1.1

/-- The check ends with a verdict, and accuses a run in which a membership ended and
    its entitlement is not used up. -/
theorem entitlementRefund_verdict (hr : run.Reachable) {spec : RuleSpec}
    (last : snapshots.getLast? = some (run.snapshot now)) :
    Quiet (entitlementRefund spec snapshots run.getEvents) ∧
      (spec.refundPolicy.isSome → ∀ membership ∈ run.memberships,
        membership.status = .cancelled ∨ membership.status = .refunded →
        ∀ entitlement ∈ run.entitlements, entitlement.membershipId = membership.id →
          entitlement.available ≠ 0 →
            Accuses (entitlementRefund spec snapshots run.getEvents)) := by
  rw [entitlementRefund]
  cases hpolicy : spec.refundPolicy with
  | none => exact ⟨.bind (.throw (isVerdict_notApplicable _)) (by rintro _ ⟨⟩), by simp⟩
  | some policy =>
    simp only [lastItems_eq last, items_snapshot, needed_some, Checked.ok_bind]
    by_cases some : (orderById Membership.id run.memberships).map Membership.toJson = []
    · rw [Checked.ensure_of_neg (not_not.2 some), Checked.error_bind]
      refine ⟨.throw (isVerdict_notApplicable _), fun _ membership hm => ?_⟩
      have rows : membership ∈ orderById Membership.id run.memberships := mem_orderById.2 hm
      rw [List.map_eq_nil_iff.1 some] at rows
      cases rows
    rw [Checked.ensure_of_pos some, Checked.ok_bind]
    -- What is found bad of one membership.
    generalize hcheck : (fun membership : Json => _) = check
    have read : ∀ membership ∈ run.memberships, ∃ bad, check membership.toJson = .ok bad ∧
        (membership.status = .cancelled ∨ membership.status = .refunded →
          ∀ entitlement ∈ run.entitlements, entitlement.membershipId = membership.id →
            bad = [] → entitlement.available = 0) := by
      intro membership hm
      subst hcheck
      obtain ⟨entitlement, he, own⟩ := exists_entitlement hr hm
      have found := ownEntitlement_eq hr he
      rw [own] at found
      obtain ⟨bad, hb, nothing⟩ := exists_endedMembership policy run.getEvents membership entitlement
      by_cases ended : membership.status = .cancelled ∨ membership.status = .refunded
      · refine ⟨bad, ?_, fun _ e hme heq => ?_⟩
        · simp only [membership_get, raising, Checked.ok_bind, decide_eq_true_eq, Json.toStr_str,
            if_pos ended, found, needed_some, hb]
        · have keyed := entitlements_owned hr
          have same := Table.find?_of_mem keyed hme
          rw [heq, ← own, Table.find?_of_mem keyed he] at same
          exact Option.some.inj same ▸ nothing
      · refine ⟨[], ?_, fun h => absurd h ended⟩
        simp only [membership_get, raising, Checked.ok_bind, decide_eq_true_eq, if_neg ended]
        rfl
    obtain ⟨bad, hb, none⟩ := exists_collect (f := check)
      (l := (orderById Membership.id run.memberships).map Membership.toJson) (by
        simp only [List.mem_map, mem_orderById, forall_exists_index, and_imp]
        rintro _ membership hm rfl
        exact (read membership hm).imp fun _ h => h.1)
    rw [hb, Checked.ok_bind]
    refine ⟨.pure, fun _ membership hm ended entitlement he own left => ?_⟩
    refine accuses_conclude.2 fun nothing => left ?_
    obtain ⟨found, hf, used⟩ := read membership hm
    have all := none.1 nothing membership.toJson (List.mem_map_of_mem (mem_orderById.2 hm))
    exact used ended entitlement he own (Except.ok.inj (hf.symm.trans all))

/-! ## The report -/

/-- The report of checks that end with a verdict: it names the checks that accuse. -/
theorem report_of_quiet {checks : List (InvariantId × Except Exit Verdict)}
    (h : ∀ check ∈ checks, Quiet check.2) :
    ∃ findings, checks.mapM (fun check => settle check.1 snapshots check.2) = .ok findings ∧
      ∀ allowed : List InvariantId,
        (∀ finding ∈ findings, finding.status = .violated → finding.invariantId ∈ allowed) ↔
          ∀ check ∈ checks, Accuses check.2 → check.1 ∈ allowed := by
  induction checks with
  | nil => exact ⟨[], rfl, by simp⟩
  | cons check checks ih =>
    obtain ⟨findings, hm, all⟩ := ih fun c hc => h c (List.mem_cons_of_mem _ hc)
    have first : ∃ found, settle check.1 snapshots check.2 = .ok found ∧
        found.invariantId = check.1 ∧ (found.status = .violated ↔ Accuses check.2) := by
      have quiet := h check List.mem_cons_self
      generalize check.2 = result at quiet
      cases result with
      | ok verdict =>
        exact ⟨finding check.1 snapshots verdict, rfl, rfl,
          fun violated => ⟨verdict, rfl, violated⟩, by rintro ⟨_, ⟨⟩, violated⟩; exact violated⟩
      | error exit =>
        obtain ⟨verdict, rfl, fine⟩ := quiet exit rfl
        exact ⟨finding check.1 snapshots verdict, rfl, rfl, fun violated => absurd violated fine,
          by rintro ⟨_, ⟨⟩, -⟩⟩
    obtain ⟨found, hs, hid, accused⟩ := first
    refine ⟨found :: findings, by rw [List.mapM_cons, hs, hm]; rfl, fun allowed => ?_⟩
    rw [List.forall_mem_cons, List.forall_mem_cons, all, hid, accused]

end Checks

end Oracle

namespace DefectAxis

/-- What the invariants of a defect cover: each deviation of the environment, but for
    what a repeated effect does to idempotency. -/
theorem invariants_spec (axis : DefectAxis) :
    ((⟨[axis]⟩ : SandboxProfile).allowsRefundAgainstOriginalAmount = true →
      .netPaidNonNegative ∈ axis.invariants ∧ .refundNotExceedPaid ∈ axis.invariants) ∧
    ((⟨[axis]⟩ : SandboxProfile).restoresCouponAfterFullRefund = true →
      .couponSingleConsumption ∈ axis.invariants) ∧
    ((⟨[axis]⟩ : SandboxProfile).allowsFullMembershipRefundAfterConsumption = true ∨
      (⟨[axis]⟩ : SandboxProfile).leavesEntitlementAfterMembershipRefund = true →
        .entitlementRefundConsistency ∈ axis.invariants) ∧
    ((⟨[axis]⟩ : SandboxProfile).allowsEntitlementOverconsumption = true →
      .entitlementNonNegative ∈ axis.invariants ∧
        .entitlementRefundConsistency ∉ axis.invariants) ∧
    (axis ∈ allAxes → unreachableAxes .refundPoints [axis] = [] →
      .pointsValueConservation ∈ axis.invariants) ∧
    .idempotentEffect ∉ axis.invariants := by
  cases axis <;> decide

/-- Overconsumption is a defect of memberships. -/
theorem scenario_of_overconsumption {scenario : ScenarioType} {axis : DefectAxis}
    (h : (⟨[axis]⟩ : SandboxProfile).allowsEntitlementOverconsumption = true)
    (reachable : unreachableAxes scenario [axis] = []) : scenario = .membershipEntitlement := by
  revert h reachable
  cases axis <;> cases scenario <;> decide

end DefectAxis

/-- The rules of memberships have a policy for refunds. -/
theorem RuleSpec.refundPolicy_isSome {spec : RuleSpec}
    (h : spec.scenarioType = .membershipEntitlement) : spec.refundPolicy.isSome := by
  obtain ⟨rule, hm, first⟩ := spec.primary
  rw [h] at first
  cases rule with
  | membership policy => exact List.findSome?_isSome_iff.2 ⟨_, hm, rfl⟩
  | _ => simp [ScenarioType.ruleTypes, Rule.ruleType] at first

/-! ## The checks of one run -/

namespace Oracle

section Attribution

variable [Python] {run : RunSpace} {spec : RuleSpec} {snapshots : List Json} {now : Nat}
  {receipts : List ActionReceipt} {axis : DefectAxis}

/-- Each check ends with a verdict. -/
theorem quiet_checks (hr : run.Reachable) (hd : spec.Describes run.scenarioType)
    (last : snapshots.getLast? = some (run.snapshot now))
    (monotone : Acquits (terminalMonotonicity snapshots))
    (own : ∀ receipt ∈ receipts, ∃ record ∈ run.epochReceipts,
      receipt = record.toReceipt run.id) :
    ∀ check ∈ checks spec snapshots (receipts.map ActionReceipt.toJson) run.getEvents,
      Quiet check.2 := by
  simp only [checks, List.mem_cons, List.not_mem_nil, or_false]
  rintro check (rfl | rfl | rfl | rfl | rfl | rfl | rfl | rfl)
  · exact quiet_netPaid hr last
  · exact quiet_refundLimit
  · exact quiet_couponConsumption
  · exact quiet_pointsConservation hr hd last
  · exact (acquits_iff.1 monotone).1
  · exact quiet_entitlementNonNegative
  · exact (entitlementRefund_verdict hr last).1
  · exact (idempotency_verdict hr own).1

/-- Checks that accuse of nothing but the defect leave nothing that could be taken for
    another one. -/
theorem attributable_of_allowed (hr : run.Reachable) (profile : run.profile = ⟨[axis]⟩)
    (hd : spec.Describes run.scenarioType) (reachable : unreachableAxes run.scenarioType [axis] = [])
    (last : snapshots.getLast? = some (run.snapshot now))
    (own : ∀ receipt ∈ receipts, ∃ record ∈ run.epochReceipts,
      receipt = record.toReceipt run.id)
    (allowed : ∀ check ∈ checks spec snapshots (receipts.map ActionReceipt.toJson) run.getEvents,
      Accuses check.2 → check.1 ∈ axis.invariants) :
    Attributable run receipts := by
  obtain ⟨-, -, -, overdrawn, -, repeats⟩ := axis.invariants_spec
  rw [← profile] at overdrawn
  refine ⟨fun key doubled twice => repeats (allowed (.idempotentEffect, _)
    (List.mem_of_getElem? (i := 7) rfl)
      ((idempotency_verdict hr own).2.2 ⟨key, doubled, twice⟩)), ?_⟩
  intro membership hm cancelled entitlement he owner
  by_contra negative
  -- Only where consumption is not bounded is an entitlement overdrawn.
  cases unbounded : run.profile.allowsEntitlementOverconsumption with
  | false => exact negative (hr.available_nonneg unbounded entitlement he)
  | true =>
    have scenario := DefectAxis.scenario_of_overconsumption (profile ▸ unbounded) reachable
    have policy := RuleSpec.refundPolicy_isSome (hd.scenarioType.trans scenario)
    exact (overdrawn unbounded).2 (allowed (.entitlementRefundConsistency, _)
      (List.mem_of_getElem? (i := 6) rfl) ((entitlementRefund_verdict hr last).2 policy membership
        hm (.inl cancelled) entitlement he owner (by omega)))

omit [Python] in
/-- A check that may not accuse acquits. -/
theorem allowed_of_accuses {flag : Bool} {allowed : Prop} {result : Except Exit Verdict}
    (acquits : flag = false → Acquits result) (covered : flag = true → allowed)
    (accuses : Accuses result) : allowed := by
  cases flag with
  | true => exact covered rfl
  | false => exact absurd accuses (acquits_iff.1 (acquits rfl)).2

/-- Where nothing can be taken for another defect, the checks accuse of no other. -/
theorem allowed_of_attributable (hr : run.Reachable) (profile : run.profile = ⟨[axis]⟩)
    (business : axis ∈ allAxes) (hd : spec.Describes run.scenarioType)
    (reachable : unreachableAxes run.scenarioType [axis] = [])
    (last : snapshots.getLast? = some (run.snapshot now))
    (monotone : Acquits (terminalMonotonicity snapshots))
    (own : ∀ receipt ∈ receipts, ∃ record ∈ run.epochReceipts,
      receipt = record.toReceipt run.id) (attributable : Attributable run receipts) :
    ∀ check ∈ checks spec snapshots (receipts.map ActionReceipt.toJson) run.getEvents,
      Accuses check.2 → check.1 ∈ axis.invariants := by
  obtain ⟨amounts, coupons, ended, overdrawn, points, -⟩ := axis.invariants_spec
  rw [← profile] at amounts coupons ended overdrawn
  simp only [checks, List.mem_cons, List.not_mem_nil, or_false]
  rintro check (rfl | rfl | rfl | rfl | rfl | rfl | rfl | rfl) accuses
  · exact allowed_of_accuses (fun h => acquits_netPaid hr (hr.refunds_within h) last)
      (fun h => (amounts h).1) accuses
  · exact allowed_of_accuses (fun h => acquits_refundLimit hr (hr.refunds_within h) last)
      (fun h => (amounts h).2) accuses
  · exact allowed_of_accuses (fun h => acquits_couponConsumption hr h last) coupons accuses
  · -- Points are judged only where there are orders to refund.
    cases hrule : spec.pointsRule with
    | none =>
      rw [pointsConservation, hrule] at accuses
      obtain ⟨_, ⟨⟩, -⟩ := accuses
    | some rule =>
      have refunds := hd.scenarioType.symm.trans (scenario_of_pointsRule hrule)
      exact points business (refunds ▸ reachable)
  · exact absurd accuses (acquits_iff.1 monotone).2
  · exact allowed_of_accuses (fun h => acquits_entitlementNonNegative (hr.available_nonneg h) last)
      (fun h => (overdrawn h).1) accuses
  · by_contra others
    have unused := Bool.eq_false_iff.2 fun h => others (ended (.inl h))
    have nothing := Bool.eq_false_iff.2 fun h => others (ended (.inr h))
    exact (acquits_iff.1 (acquits_entitlementRefund hr (hr.settled unused nothing)
      attributable.closed hd last)).2 accuses
  · obtain ⟨key, doubled, twice⟩ := (idempotency_verdict hr own).2.1 accuses
    exact absurd twice (attributable.keys key doubled)

end Attribution

end Oracle

/-- On the evidence of commands executed in an environment with one defect the oracle
    raises no exception, and reports only invariants of this defect exactly if nothing
    has happened that makes it take the defect for another. -/
theorem axis_attributable [Python] (request : CreateRunRequest) (id : String) (axis : DefectAxis)
    (single : request.defectAxes = some [axis]) (business : axis ∈ allAxes) (start : List Op)
    (startedAt : Nat) (calls : List Call) (spec : RuleSpec)
    (describes : spec.Describes request.scenarioType) :
    ∃ findings, ((createRun request id).after start).judge spec startedAt calls = .ok findings ∧
      ((∀ finding ∈ findings, finding.status = .violated →
          finding.invariantId ∈ axis.invariants) ↔
        Attributable (((createRun request id).after start).final calls)
          (((createRun request id).after start).answers calls)) := by
  have created := (createRun request id).created_after start
  have judged := RunSpace.Reachable.judged ⟨request, id, start, rfl⟩ startedAt calls
  rw [RunSpace.judge]
  have profile : (((createRun request id).after start).final calls).profile = ⟨[axis]⟩ := by
    rw [judged.profile, created.2.1]
    simp [createRun, RunSpace.profile, SandboxProfile.forRun, single]
  have scenario : (((createRun request id).after start).final calls).scenarioType =
      request.scenarioType := by
    rw [judged.scenarioType, created.2.2]
    rfl
  have hd : spec.Describes (((createRun request id).after start).final calls).scenarioType := by
    rw [scenario]
    exact describes
  have reachable : unreachableAxes
      (((createRun request id).after start).final calls).scenarioType [axis] = [] := by
    rw [scenario]
    simpa [single] using request.axes_reachable
  obtain ⟨hr, -, -, ⟨capturedAt, last⟩, monotone, own⟩ := judged
  generalize ((createRun request id).after start).final calls = final at *
  generalize List.map (fun stage : RunSpace × Nat => stage.1.snapshot stage.2) _ = snapshots at *
  generalize ((createRun request id).after start).answers calls = receipts at *
  obtain ⟨findings, judgement, accused⟩ :=
    Oracle.report_of_quiet (Oracle.quiet_checks hr hd last monotone own)
  refine ⟨findings, judgement, (accused _).trans ⟨?_, ?_⟩⟩
  · exact Oracle.attributable_of_allowed hr profile hd reachable last own
  · exact Oracle.allowed_of_attributable hr profile business hd reachable last monotone own

/-! ## Two runs that are judged by another invariant -/

/-- The rules of points. -/
def pointsSpec : RuleSpec where
  scenarioType := .refundPoints
  rules := [.points ⟨1, 1, true, by norm_num⟩, .refund]
  allowed := by decide
  primary := ⟨_, List.mem_cons_self, rfl⟩
  unique := by decide

/-- The rules of memberships. -/
def membershipSpec : RuleSpec where
  scenarioType := .membershipEntitlement
  rules := [.membership .unusedOnly]
  allowed := by decide
  primary := ⟨_, List.mem_cons_self, rfl⟩
  unique := by decide

/-- An environment that grants the points of an order again on a refund. -/
def grantedAgainRequest : CreateRunRequest where
  scenarioType := .refundPoints
  defectAxes := some [.pointsGrantedAgainOnRefund]

/-- An environment that does not bound the consumption of entitlements. -/
def overconsumptionRequest : CreateRunRequest where
  scenarioType := .membershipEntitlement
  defectAxes := some [.entitlementOverconsumption]

theorem target_order : ∀ target ∈ some "order-1", target.length ≤ 128 := by decide

theorem key_pay : ∀ key ∈ some "pay", 1 ≤ key.length ∧ key.length ≤ 256 := by decide

/-- A refund under the key the order was paid for with. -/
def refundUnderPayKeyCommand : ActionCommand where
  action := .refundOrder
  actorId := "user-1"
  targetId := some "order-1"
  arguments := [("amount", .str "10.00")]
  idempotencyKey := some "pay"
  actor_length := ActionCommand.user_length
  target_length := target_order
  key_length := key_pay

/-- The refund and its repetition. -/
def repeatedRefund : List Call :=
  [⟨refundUnderPayKeyCommand, "", 4, 4⟩, ⟨refundUnderPayKeyCommand, "", 5, 5⟩]

theorem key_activate : ∀ key ∈ some "activate", 1 ≤ key.length ∧ key.length ≤ 256 := by decide

theorem key_consume : ∀ key ∈ some "consume", 1 ≤ key.length ∧ key.length ≤ 256 := by decide

theorem key_cancel : ∀ key ∈ some "cancel", 1 ≤ key.length ∧ key.length ≤ 256 := by decide

theorem target_entitlement : ∀ target ∈ some "entitlement-1", target.length ≤ 128 := by decide

theorem target_membership : ∀ target ∈ some "membership-1", target.length ≤ 128 := by decide

def activateMembershipCommand : ActionCommand where
  action := .activateMembership
  actorId := "user-1"
  arguments := [("paid_amount", .str "30.00"), ("quantity", .int 1)]
  idempotencyKey := some "activate"
  actor_length := ActionCommand.user_length
  target_length := ActionCommand.no_target
  key_length := key_activate

def consumeEntitlementCommand : ActionCommand where
  action := .consumeEntitlement
  actorId := "user-1"
  targetId := some "entitlement-1"
  arguments := [("quantity", .int 2)]
  idempotencyKey := some "consume"
  actor_length := ActionCommand.user_length
  target_length := target_entitlement
  key_length := key_consume

def cancelMembershipCommand : ActionCommand where
  action := .cancelMembership
  actorId := "user-1"
  targetId := some "membership-1"
  arguments := [("refund_requested", .bool false)]
  idempotencyKey := some "cancel"
  actor_length := ActionCommand.user_length
  target_length := target_membership
  key_length := key_cancel

/-- A membership of which more is used than was granted, and which is cancelled. -/
def overdrawnMembership : List Call :=
  [⟨createUserCommand, "", 1, 1⟩, ⟨activateMembershipCommand, "", 2, 2⟩,
    ⟨consumeEntitlementCommand, "", 3, 3⟩, ⟨cancelMembershipCommand, "", 4, 4⟩]

/-- The rule at work on a refund under the key of the payment. -/
theorem axis_attributable_refund :
    let _ := Python.transparent
    let run := (createRun grantedAgainRequest "run").after paidHistory
    ∃ findings, run.judge pointsSpec 3 repeatedRefund = .ok findings ∧
      ((∀ finding ∈ findings, finding.status = .violated →
          finding.invariantId ∈ DefectAxis.pointsGrantedAgainOnRefund.invariants) ↔
        Attributable (run.final repeatedRefund) (run.answers repeatedRefund)) := by
  intro _
  refine axis_attributable grantedAgainRequest "run" .pointsGrantedAgainOnRefund rfl (by decide)
    paidHistory 3 repeatedRefund pointsSpec ⟨rfl, ?_, ?_⟩
  · rintro rule ⟨⟩
    exact ⟨rfl, rfl, rfl⟩
  · rintro policy ⟨⟩

/-- The repeated refund is judged by idempotency, and the cancelled membership by what
    is left of an entitlement. -/
theorem axis_misattributed :
    let _ := Python.transparent
    (∃ findings, ((createRun grantedAgainRequest "run").after paidHistory).judge pointsSpec 3
        repeatedRefund = .ok findings ∧
      ∃ finding ∈ findings, finding.status = .violated ∧
        finding.invariantId ∉ DefectAxis.pointsGrantedAgainOnRefund.invariants) ∧
    ∃ findings, (createRun overconsumptionRequest "run").judge membershipSpec 0
        overdrawnMembership = .ok findings ∧
      ∃ finding ∈ findings, finding.status = .violated ∧
        finding.invariantId ∉ DefectAxis.entitlementOverconsumption.invariants := by
  decide +kernel

end RuleArena
