import RuleArena.Oracle.Checks

/-!
# What the oracle makes of repeated requests

The check of idempotency groups receipts by action and key, but looks for events
of one type by the key alone. It reports a violation exactly if an action was
answered with success twice under a key that two events of one type carry
(`accuses_idempotency`), whichever commands these events are from.
-/

namespace RuleArena

/-- Two events of one type carry the key. -/
def RunSpace.Doubled (run : RunSpace) (key : String) : Prop :=
  ∃ eventType, 1 < run.epochEvents.countP fun event =>
    event.eventType = eventType ∧ event.idempotencyKey = key

/-- An action was answered with success under the key, twice. -/
def Repeated (receipts : List ActionReceipt) (key : String) : Prop :=
  ∃ action, 1 < receipts.countP fun receipt =>
    receipt.actionType = action ∧ receipt.idempotencyKey = some key ∧ receipt.status = .succeeded

theorem RunSpace.EventsOnce.not_doubled {run : RunSpace} (h : run.EventsOnce) (key : String) :
    ¬ run.Doubled key := by
  rintro ⟨eventType, twice⟩
  have count : (run.epochEvents.countP fun event =>
      event.eventType = eventType ∧ event.idempotencyKey = key) =
      (run.epochEvents.map fun event => (event.eventType, event.idempotencyKey)).count
        (eventType, key) := by
    rw [List.count, List.countP_map]
    refine List.countP_congr fun event _ => ?_
    simp
  have := List.nodup_iff_count_le_one.1 h.once (eventType, key)
  omega

namespace Oracle

/-! ## Reading receipts -/

theorem truthy_str {s : String} : (Json.str s).truthy = true ↔ s ≠ "" := by
  simp [Json.truthy]

/-- A list of one value over and over. -/
theorem dedup_length_le_one {α : Type} [DecidableEq α] {l : List α}
    (h : ∀ a ∈ l, ∀ b ∈ l, a = b) : l.dedup.length ≤ 1 := by
  have nodup := l.nodup_dedup
  have mem : ∀ a ∈ l.dedup, a ∈ l := fun a => List.mem_dedup.1
  match hd : l.dedup with
  | [] => simp
  | [_] => simp
  | a :: b :: rest =>
    rw [hd] at nodup mem
    have := h a (mem a (by simp)) b (mem b (by simp))
    simp [this] at nodup

/-- The receipts with a status of success. -/
theorem successful_eq (receipts : List Json)
    (h : ∀ receipt ∈ receipts, ∃ s, receipt.get "status" = .str s) :
    successful receipts = .ok (receipts.filter fun receipt =>
      receipt.get "status" = .str "SUCCEEDED" ∨ receipt.get "status" = .str "APPLIED") := by
  induction receipts with
  | nil => rfl
  | cons receipt receipts ih =>
    obtain ⟨s, hs⟩ := h receipt List.mem_cons_self
    rw [successful, hs, ih fun r hm => h r (List.mem_cons_of_mem _ hm), List.filter_cons, hs]
    by_cases found : s = "SUCCEEDED" ∨ s = "APPLIED" <;> simp [Json.isIn, raising, found] <;> rfl

variable [Python]

/-- What the check reads of a receipt. -/
theorem receipt_get (receipt : ActionReceipt) :
    receipt.toJson.get "idempotency_key" = optionText receipt.idempotencyKey ∧
    receipt.toJson.get "status" = .str receipt.status.value ∧
    getOr receipt.toJson "action_type" (receipt.toJson.get "action") =
      .str receipt.actionType.actionType := by
  simp [ActionReceipt.toJson, Json.get, Json.get?, getOr, List.lookup]

/-- A receipt belongs to a group if it is of its action and shows its key. -/
theorem receipt_of_group {receipt : ActionReceipt} {action : ActionName} {key : String}
    (named : key ≠ "") :
    (receipt.toJson.get "idempotency_key").truthy = true ∧
        receiptKey receipt.toJson = (action.actionType, key) ↔
      receipt.actionType = action ∧ receipt.idempotencyKey = some key := by
  rw [receiptKey, (receipt_get receipt).1, (receipt_get receipt).2.2, Json.toStr_str,
    Prod.mk.injEq]
  cases receipt.idempotencyKey with
  | none => simp [optionText, Json.truthy]
  | some text =>
    simp only [optionText, truthy_str, Json.toStr_str, Option.some.injEq]
    constructor
    · rintro ⟨-, same, rfl⟩
      exact ⟨ActionName.actionType_inj same, rfl⟩
    · rintro ⟨rfl, rfl⟩
      exact ⟨named, rfl, rfl⟩

variable {run : RunSpace}

/-- The check finds an effect twice under a key if two events of one type carry it. -/
theorem duplicateEffect_iff {key : String} (named : key ≠ "") :
    duplicateEffect (run.epochEvents.map run.eventJson) key = true ↔ run.Doubled key := by
  have count : ∀ t, List.count (t, key) (((run.epochEvents.map run.eventJson).filter fun event =>
      (event.get "idempotency_key").truthy).map fun event =>
        ((event.get "event_type").toStr, (event.get "idempotency_key").toStr)) =
      run.epochEvents.countP fun event =>
        event.eventType.value = t ∧ event.idempotencyKey = key := by
    intro t
    rw [List.count, List.countP_map, List.countP_filter, List.countP_map]
    refine List.countP_congr fun event _ => ?_
    simp only [Function.comp_def, event_get, Json.toStr_str, truthy_str, Bool.and_eq_true,
      beq_iff_eq, Prod.mk.injEq, decide_eq_true_eq]
    exact ⟨fun h => h.1, fun h => ⟨h, h.2 ▸ named⟩⟩
  have typed : ∀ t : BusinessEventType, (run.epochEvents.countP fun event =>
      event.eventType.value = t.value ∧ event.idempotencyKey = key) =
      run.epochEvents.countP fun event => event.eventType = t ∧ event.idempotencyKey = key := by
    intro t
    refine List.countP_congr fun event _ => ?_
    simp only [decide_eq_true_eq]
    exact and_congr_left' ⟨BusinessEventType.value_inj, congrArg _⟩
  simp only [duplicateEffect, List.any_eq_true, Bool.and_eq_true, decide_eq_true_eq, Prod.exists]
  constructor
  · rintro ⟨t, _, -, twice, rfl⟩
    rw [count] at twice
    -- The type is that of an event with the key.
    obtain ⟨event, -, he⟩ := List.countP_pos_iff.1 (Nat.zero_lt_of_lt twice)
    obtain ⟨rfl, -⟩ := of_decide_eq_true he
    exact ⟨event.eventType, typed _ ▸ twice⟩
  · rintro ⟨eventType, twice⟩
    rw [← typed, ← count] at twice
    exact ⟨_, key, List.count_pos_iff.1 (Nat.zero_lt_of_lt twice), twice, rfl⟩

/-- What two receipts of one group agree in: they are the same receipt. -/
theorem fingerprint_eq (hr : run.Reachable) {a b : ActionReceipt}
    (ha : ∃ record ∈ run.epochReceipts, a = record.toReceipt run.id)
    (hb : ∃ record ∈ run.epochReceipts, b = record.toReceipt run.id) {action : ActionName}
    {key : String} (ka : a.actionType = action ∧ a.idempotencyKey = some key)
    (kb : b.actionType = action ∧ b.idempotencyKey = some key) : a = b := by
  obtain ⟨ra, hra, rfl⟩ := ha
  obtain ⟨rb, hrb, rfl⟩ := hb
  have shown : ∀ {text}, shownKey text = some key → text = key := by
    intro text h
    unfold shownKey at h
    split at h <;> simp_all
  rw [hr.receipt_unique hra hrb (ka.1.trans kb.1.symm)
    ((shown ka.2).trans (shown kb.2).symm)]

/-! ## Groups -/

/-- The receipts that show a key. -/
def keyedReceipts (receipts : List ActionReceipt) : List Json :=
  (receipts.map ActionReceipt.toJson).filter fun receipt => (receipt.get "idempotency_key").truthy

/-- The receipts of an action under a key. -/
def group (receipts : List ActionReceipt) (action : ActionName) (key : String) :
    List ActionReceipt :=
  receipts.filter fun receipt => receipt.actionType = action ∧ receipt.idempotencyKey = some key

theorem group_eq (receipts : List ActionReceipt) (action : ActionName) {key : String}
    (named : key ≠ "") :
    ((keyedReceipts receipts).filter fun receipt => receiptKey receipt = (action.actionType, key)) =
      (group receipts action key).map ActionReceipt.toJson := by
  rw [keyedReceipts, List.filter_filter, List.filter_map, group]
  refine congrArg _ (List.filter_congr fun receipt _ => ?_)
  rw [Bool.eq_iff_iff]
  simp only [Function.comp_def, Bool.and_eq_true, decide_eq_true_eq]
  exact and_comm.trans (receipt_of_group named)

/-- The check goes through the groups that have a receipt. -/
theorem mem_keyed {receipts : List ActionReceipt} {pair : String × String} :
    pair ∈ (keyedReceipts receipts).map receiptKey ↔
      ∃ action key, key ≠ "" ∧ pair = (action.actionType, key) ∧ group receipts action key ≠ [] := by
  constructor
  · intro h
    obtain ⟨_, hm, rfl⟩ := List.mem_map.1 h
    obtain ⟨hm, shown⟩ := List.mem_filter.1 hm
    obtain ⟨receipt, hr, rfl⟩ := List.mem_map.1 hm
    cases hk : receipt.idempotencyKey with
    | none => simp [receipt_get, hk, optionText, Json.truthy] at shown
    | some key =>
      have named : key ≠ "" := by simpa [receipt_get, hk, optionText, truthy_str] using shown
      refine ⟨receipt.actionType, key, named, ((receipt_of_group named).2 ⟨rfl, hk⟩).2, ?_⟩
      exact List.ne_nil_of_mem (List.mem_filter.2 ⟨hr, decide_eq_true ⟨rfl, hk⟩⟩)
  · rintro ⟨action, key, named, rfl, some⟩
    obtain ⟨receipt, hm⟩ := List.exists_mem_of_ne_nil _ some
    obtain ⟨hr, own⟩ := List.mem_filter.1 hm
    obtain ⟨shown, same⟩ := (receipt_of_group named).2 (of_decide_eq_true own)
    exact same ▸ List.mem_map_of_mem (List.mem_filter.2 ⟨List.mem_map_of_mem hr, shown⟩)

/-- What is found bad of a group. -/
theorem group_verdict (hr : run.Reachable) {receipts : List ActionReceipt}
    (own : ∀ receipt ∈ receipts, ∃ record ∈ run.epochReceipts, receipt = record.toReceipt run.id)
    (action : ActionName) (key : String) (bad : List Json) :
    (successful ((group receipts action key).map ActionReceipt.toJson) >>= fun succeeded =>
      if 1 < (((group receipts action key).map ActionReceipt.toJson).map fingerprint).dedup.length ∨
          (1 < succeeded.length ∧ duplicateEffect (run.epochEvents.map run.eventJson) key) then
        return bad
      else return []) =
    .ok (if duplicateEffect (run.epochEvents.map run.eventJson) key ∧
      1 < (receipts.countP fun receipt => receipt.actionType = action ∧
        receipt.idempotencyKey = some key ∧ receipt.status = .succeeded) then bad else []) := by
  have single : (((group receipts action key).map ActionReceipt.toJson).map
      fingerprint).dedup.length ≤ 1 := by
    refine dedup_length_le_one fun x hx y hy => ?_
    simp only [group, List.mem_map, List.mem_filter, decide_eq_true_eq, exists_exists_and_eq_and] at hx hy
    obtain ⟨a, ⟨ha, ka⟩, rfl⟩ := hx
    obtain ⟨b, ⟨hb, kb⟩, rfl⟩ := hy
    rw [fingerprint_eq hr (own a ha) (own b hb) ka kb]
  have succeeded : ∀ receipt : ActionReceipt, receipt.toJson.get "status" = .str "SUCCEEDED" ∨
      receipt.toJson.get "status" = .str "APPLIED" ↔ receipt.status = .succeeded := by
    intro receipt
    rw [(receipt_get receipt).2.1]
    cases receipt.status <;> simp [ActionStatus.value]
  have count : (((group receipts action key).map ActionReceipt.toJson).filter fun receipt =>
      receipt.get "status" = .str "SUCCEEDED" ∨ receipt.get "status" = .str "APPLIED").length =
      receipts.countP fun receipt => receipt.actionType = action ∧
        receipt.idempotencyKey = some key ∧ receipt.status = .succeeded := by
    rw [← List.countP_eq_length_filter, List.countP_map, group, List.countP_filter]
    refine List.countP_congr fun receipt _ => ?_
    simp only [Function.comp_def, succeeded, Bool.and_eq_true, decide_eq_true_eq]
    tauto
  rw [successful_eq _ (by simp [receipt_get]), Checked.ok_bind, count]
  simp only [not_lt.2 single, false_or, and_comm]
  split_ifs <;> rfl

/-! ## The check -/

/-- The check ends with a verdict, and reports a violation exactly if an action was
    answered with success twice under a key that two events of one type carry. -/
theorem idempotency_verdict (hr : run.Reachable) {receipts : List ActionReceipt}
    (own : ∀ receipt ∈ receipts, ∃ record ∈ run.epochReceipts, receipt = record.toReceipt run.id) :
    Quiet (idempotency (receipts.map ActionReceipt.toJson) run.getEvents) ∧
      (Accuses (idempotency (receipts.map ActionReceipt.toJson) run.getEvents) ↔
        ∃ key, run.Doubled key ∧ Repeated receipts key) := by
  -- A key under which an action was answered is the key of a group.
  have grouped : ∀ {action key}, 1 < (receipts.countP fun receipt => receipt.actionType = action ∧
      receipt.idempotencyKey = some key ∧ receipt.status = .succeeded) →
      key ≠ "" ∧ (action.actionType, key) ∈ (keyedReceipts receipts).map receiptKey := by
    intro action key twice
    obtain ⟨receipt, hm, h⟩ := List.countP_pos_iff.1 (Nat.zero_lt_of_lt twice)
    obtain ⟨same, shown, -⟩ := of_decide_eq_true h
    have named : key ≠ "" := by
      obtain ⟨record, hrec, rfl⟩ := own receipt hm
      have text : shownKey record.idempotencyKey = some key := shown
      unfold shownKey at text
      split at text
      · cases text
      · exact Option.some.inj text ▸ hr.receipt_key_ne record (List.mem_of_mem_filter hrec)
    refine ⟨named, mem_keyed.2 ⟨action, key, named, rfl, ?_⟩⟩
    exact List.ne_nil_of_mem (List.mem_filter.2 ⟨hm, decide_eq_true ⟨same, shown⟩⟩)
  rw [idempotency, getEvents_eq hr.ordered]
  dsimp only
  change Quiet (ensure (keyedReceipts receipts ≠ []) _ >>= _) ∧
    (Accuses (ensure (keyedReceipts receipts ≠ []) _ >>= _) ↔ _)
  by_cases none : keyedReceipts receipts = []
  · rw [Checked.ensure_of_neg (not_not.2 none), Checked.error_bind]
    refine ⟨?_, iff_of_false (by rintro ⟨_, ⟨⟩, -⟩) ?_⟩
    · rintro _ ⟨⟩
      exact ⟨_, rfl, nofun⟩
    · rintro ⟨key, -, action, twice⟩
      simpa [none] using (grouped twice).2
  rw [Checked.ensure_of_pos none, Checked.ok_bind]
  have member : ∀ {pair}, pair ∈ distinct ((keyedReceipts receipts).map receiptKey) ↔
      pair ∈ (keyedReceipts receipts).map receiptKey := by
    simp [distinct]
  have texts : ∀ action key, (receipts.countP fun receipt => receipt.actionType = action ∧
      receipt.idempotencyKey = some key ∧ receipt.status = .succeeded) =
      receipts.countP fun receipt => receipt.actionType.actionType = action.actionType ∧
        receipt.idempotencyKey = some key ∧ receipt.status = .succeeded := by
    refine fun action key => List.countP_congr fun receipt _ => ?_
    simp only [decide_eq_true_eq]
    exact and_congr_left' ⟨congrArg _, ActionName.actionType_inj⟩
  rw [collect_eq (g := fun pair =>
    if duplicateEffect (run.epochEvents.map run.eventJson) pair.2 ∧ 1 < (receipts.countP fun receipt =>
      receipt.actionType.actionType = pair.1 ∧ receipt.idempotencyKey = some pair.2 ∧
        receipt.status = .succeeded) then
      [.obj [("action_type", .str pair.1), ("idempotency_key", .str pair.2)]] else []), Checked.ok_bind]
  · refine ⟨.pure, accuses_conclude.trans ?_⟩
    simp only [ne_eq, List.flatMap_eq_nil_iff, ite_eq_right_iff, reduceCtorEq, imp_false,
      not_forall, not_not, exists_prop]
    constructor
    · rintro ⟨pair, hm, effect, twice⟩
      obtain ⟨action, key, named, rfl, -⟩ := mem_keyed.1 (member.1 hm)
      exact ⟨key, (duplicateEffect_iff named).1 effect, action, texts action key ▸ twice⟩
    · rintro ⟨key, doubled, action, twice⟩
      obtain ⟨named, hm⟩ := grouped twice
      exact ⟨(action.actionType, key), member.2 hm, (duplicateEffect_iff named).2 doubled,
        texts action key ▸ twice⟩
  · intro pair hm
    obtain ⟨action, key, named, rfl, -⟩ := mem_keyed.1 (member.1 hm)
    change (successful (List.filter _ (keyedReceipts receipts)) >>= fun succeeded =>
      if 1 < ((List.filter _ (keyedReceipts receipts)).map fingerprint).dedup.length ∨ _ then _
      else _) = _
    rw [group_eq receipts action named, group_verdict hr own, texts]

/-- Where no key is found twice with one type of event, the check acquits. -/
theorem acquits_idempotency (hr : run.Reachable) (once : run.EventsOnce)
    {receipts : List ActionReceipt}
    (own : ∀ receipt ∈ receipts, ∃ record ∈ run.epochReceipts, receipt = record.toReceipt run.id) :
    Acquits (idempotency (receipts.map ActionReceipt.toJson) run.getEvents) := by
  have verdict := idempotency_verdict hr own
  refine acquits_iff.2 ⟨verdict.1, fun accused => ?_⟩
  obtain ⟨key, doubled, -⟩ := verdict.2.1 accused
  exact once.not_doubled key doubled

end Oracle

end RuleArena
