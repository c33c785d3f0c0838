import RuleArena.Sandbox.Runs

/-!
# Idempotent execution

A receipt, once written, stays the receipt of its action and key for the rest of
the epoch (`existing_after`). A command that finds one changes nothing and is
answered with it: the receipt comes back, unless the command is a refund and the
environment loses the acknowledgement of refunds, of a replay as of the first
execution. Then the service raises, naming the same receipt.
-/

namespace RuleArena

namespace RunSpace

variable {run : RunSpace} {command : ActionCommand} {key : String}
  {action : ActionName} {record : ActionReceiptRecord}

theorem existing_withReceipt (h : run.existing action key = some record)
    (added : ActionReceiptRecord) : (run.withReceipt added).existing action key = some record := by
  unfold existing epochReceipts withReceipt at *
  rw [List.filter_append, List.find?_append, h, Option.some_or]

theorem mem_of_existing (h : run.existing action key = some record) :
    record ∈ run.receipts ∧ record.epoch = run.epoch ∧ record.actionType = action ∧
      record.idempotencyKey = key := by
  have hm := List.mem_of_find?_eq_some h
  have hk := List.find?_some h
  simp only [epochReceipts, List.mem_filter, decide_eq_true_eq] at hm hk
  exact ⟨hm.1, hm.2, hk.1, hk.2⟩

variable [Python]

/-- The receipt a command is committed with is the one of its action and key. -/
theorem existing_perform {run' : RunSpace} {now : Nat}
    (new : run.existing command.action key = none)
    (h : run.perform command key now = .ok (run', record)) :
    run'.existing command.action key = some record := by
  rcases perform_ok h with ⟨-, ⟨r, outcome, hd, rfl, -, rfl⟩ | ⟨error, -, rfl, rfl⟩⟩
  · have frame := handler_frame (dispatch_ok hd).1
    unfold existing epochReceipts withReceipt versioned at *
    rw [frame.receipts, frame.epoch, List.filter_append, List.find?_append, new]
    simp [recordOf]
  · unfold existing epochReceipts withReceipt at *
    rw [List.filter_append, List.find?_append, new]
    simp [recordOf]

/-- A command does not change the receipt of any action and key. -/
theorem existing_execute (h : run.existing action key = some record) (command : ActionCommand)
    (now : Nat) (uuid : String) :
    (run.execute command now uuid).1.existing action key = some record := by
  rcases execute_cases run command now uuid with e | ⟨added, -, hp, -⟩
  · rw [e, h]
  · rcases perform_ok hp with ⟨-, ⟨r, outcome, hd, -, -, e⟩ | ⟨error, -, -, e⟩⟩ <;> rw [e]
    · refine existing_withReceipt ?_ _
      have frame := handler_frame (dispatch_ok hd).1
      unfold existing epochReceipts versioned at *
      rwa [frame.receipts, frame.epoch]
    · exact existing_withReceipt h _

/-- Nor does a history without a reset. -/
theorem existing_after (h : run.existing action key = some record) {history : List Op}
    (noReset : Op.reset ∉ history) : (run.after history).existing action key = some record := by
  induction history generalizing run with
  | nil => exact h
  | cons op history ih =>
    rw [List.mem_cons, not_or] at noReset
    cases op with
    | reset => exact absurd rfl noReset.1
    | execute command uuid now => exact ih (existing_execute h command now uuid) noReset.2

/-- What the run was created with does not change. -/
theorem created_apply (run : RunSpace) (op : Op) :
    (run.apply op).id = run.id ∧ (run.apply op).profile = run.profile ∧
      (run.apply op).scenarioType = run.scenarioType := by
  cases op with
  | reset => exact ⟨rfl, rfl, rfl⟩
  | execute command uuid now =>
    rw [RunSpace.apply]
    rcases execute_cases run command now uuid with e | ⟨added, -, hp, -⟩
    · rw [e]; exact ⟨rfl, rfl, rfl⟩
    · rcases perform_ok hp with ⟨-, ⟨r, outcome, hd, -, -, e⟩ | ⟨error, -, -, e⟩⟩ <;> rw [e]
      · have frame := handler_frame (dispatch_ok hd).1
        exact ⟨frame.id, frame.profile, frame.scenarioType⟩
      · exact ⟨rfl, rfl, rfl⟩

theorem created_after (run : RunSpace) (history : List Op) :
    (run.after history).id = run.id ∧ (run.after history).profile = run.profile ∧
      (run.after history).scenarioType = run.scenarioType := by
  induction history generalizing run with
  | nil => exact ⟨rfl, rfl, rfl⟩
  | cons op history ih =>
    have h := ih (run.apply op)
    have step := created_apply run op
    exact ⟨h.1.trans step.1, h.2.1.trans step.2.1, h.2.2.trans step.2.2⟩

/-- What holds of the keys of all commands that the database lets through holds of
    those of receipts. -/
theorem Reachable.receipt_keys {P : String → Prop} (h : Reachable run)
    (effective : ∀ command uuid, Char.ofNat 0 ∉ (effectiveKey command uuid).toList →
      P (effectiveKey command uuid)) : ∀ record ∈ run.receipts, P record.idempotencyKey := by
  refine h.induct (P := fun run => ∀ record ∈ run.receipts, P record.idempotencyKey)
    (by simp [createRun]) fun run op _ ih => ?_
  cases op with
  | reset => exact ih
  | execute command uuid now =>
    rw [RunSpace.apply]
    by_cases hn : Char.ofNat 0 ∈ (effectiveKey command uuid).toList
    · have : (run.execute command now uuid).1 = run := by
        unfold execute
        split
        · rfl
        · simp [hn]
      rw [this]; exact ih
    rcases execute_cases run command now uuid with e | ⟨added, -, hp, -⟩
    · rw [e]; exact ih
    · rcases perform_ok hp with ⟨-, ⟨r, outcome, hd, rfl, -, e⟩ | ⟨error, -, rfl, e⟩⟩ <;> rw [e]
      · intro record hm
        rcases List.mem_append.1 hm with hm | hm
        · exact ih record ((handler_frame (dispatch_ok hd).1).receipts ▸ hm)
        · rw [List.mem_singleton.1 hm]; exact effective command uuid hn
      · intro record hm
        rcases List.mem_append.1 hm with hm | hm
        · exact ih record hm
        · rw [List.mem_singleton.1 hm]; exact effective command uuid hn

/-- The keys of receipts went through a query. -/
theorem Reachable.receipt_key (h : Reachable run) :
    ∀ record ∈ run.receipts, Char.ofNat 0 ∉ record.idempotencyKey.toList :=
  h.receipt_keys (P := fun key => Char.ofNat 0 ∉ key.toList) fun _ _ plain => plain

/-- No key is empty. -/
theorem Reachable.receipt_key_ne (h : Reachable run) :
    ∀ record ∈ run.receipts, record.idempotencyKey ≠ "" := by
  refine h.receipt_keys (P := (· ≠ "")) fun command uuid _ => ?_
  unfold effectiveKey
  cases hk : command.idempotencyKey with
  | none => simp
  | some key =>
    have length := (command.key_length key hk).1
    rintro rfl
    exact absurd length (by decide)

/-- A command whose action and key have a receipt leaves the run as it is. -/
theorem execute_of_existing (hr : Reachable run) (now : Nat) (uuid : String)
    (h : run.existing command.action key = some record) (hk : command.idempotencyKey = some key) :
    run.execute command now uuid = (run, run.acknowledge command record) := by
  have hkey : effectiveKey command uuid = key := by rw [effectiveKey, hk]; rfl
  have hn : Char.ofNat 0 ∉ key.toList := by
    have hm := mem_of_existing h
    exact hm.2.2.2 ▸ hr.receipt_key record hm.1
  simp only [execute, hkey]
  rw [if_neg (by simp [hk]), if_neg hn, h]

/-- In every reachable run an action has at most one receipt under a key. -/
theorem Reachable.receipt_unique (h : Reachable run) {a b : ActionReceiptRecord}
    (ha : a ∈ run.epochReceipts) (hb : b ∈ run.epochReceipts) (action : a.actionType = b.actionType)
    (key : a.idempotencyKey = b.idempotencyKey) : a = b := by
  simp only [epochReceipts, List.mem_filter, decide_eq_true_eq] at ha hb
  have keyed := h.storable.receipts_key
  have fa := Table.find?_of_mem keyed ha.1
  have fb := Table.find?_of_mem keyed hb.1
  simp only [ha.2, hb.2, action, key] at fa fb
  exact Option.some.inj (fa.symm.trans fb)

/-- In every reachable run there is at most one refund under a key. -/
theorem Reachable.refund_unique (h : Reachable run) {a b : Refund} (ha : a ∈ run.refunds)
    (hb : b ∈ run.refunds) (key : a.idempotencyKey = b.idempotencyKey) : a = b := by
  have fa := Table.find?_of_mem h.storable.refunds_key ha
  have fb := Table.find?_of_mem h.storable.refunds_key hb
  rw [key] at fa
  exact Option.some.inj (fa.symm.trans fb)

/-- Once an action and a key have a receipt in an epoch, every later command with
    them is answered with that receipt and leaves the run as it is: the receipt
    comes back, or the service raises because the acknowledgement of the refund
    is lost. Receipts and refunds are unique. -/
theorem execute_idempotent (request : CreateRunRequest) (id : String) (before between : List Op)
    (record : ActionReceiptRecord) (command : ActionCommand) (key : String)
    (hrecord : ((createRun request id).after before).existing command.action key = some record)
    (noReset : Op.reset ∉ between) (hkey : command.idempotencyKey = some key) (now : Nat)
    (uuid : String) :
    let run := ((createRun request id).after before).after between
    (run.execute command now uuid).1 = run ∧
    (run.execute command now uuid).2 =
      (if command.action = .refundOrder ∧ run.profile.losesRefundAcknowledgement then
        .ackLost (record.toReceipt id)
      else .receipt (record.toReceipt id)) ∧
    (∀ a ∈ run.epochReceipts, ∀ b ∈ run.epochReceipts, a.actionType = b.actionType →
      a.idempotencyKey = b.idempotencyKey → a = b) ∧
    (∀ a ∈ run.refunds, ∀ b ∈ run.refunds, a.idempotencyKey = b.idempotencyKey → a = b) := by
  intro run
  have reachable : Reachable run := Reachable.after ⟨request, id, before, rfl⟩ between
  have hid : run.id = id := by
    have h₁ := (created_after ((createRun request id).after before) between).1
    have h₂ := (created_after (createRun request id) before).1
    exact h₁.trans h₂
  have replay := execute_of_existing reachable now uuid
    (existing_after hrecord noReset) hkey
  refine ⟨by rw [replay], ?_, fun a ha b hb => reachable.receipt_unique ha hb,
    fun a ha b hb => reachable.refund_unique ha hb⟩
  rw [replay, acknowledge, hid]

end RunSpace

/-! ## A lost acknowledgement -/

/-- An environment that loses the acknowledgement of refunds. -/
def ackLostRequest : CreateRunRequest where
  scenarioType := .promotion
  defectAxes := some [.refundAckLost]

/-- The run after 10.00 of the order have been refunded. -/
def ackLostRun : RunSpace :=
  letI := Python.transparent
  ((createRun ackLostRequest "run").after paidHistory).after [.execute refundOrderCommand "" 4]

theorem secondRefund_length :
    ∀ key ∈ some "refund-2", 1 ≤ key.length ∧ key.length ≤ 256 := by
  decide

/-- Another refund of the order. -/
def secondRefundCommand : ActionCommand :=
  { refundOrderCommand with
    idempotencyKey := some "refund-2", key_length := secondRefund_length }

/-- The first refund, of another amount. -/
def changedRefundCommand : ActionCommand :=
  { refundOrderCommand with arguments := [("amount", .str "20.00")] }

/-- The rule at work: when another refund has changed the run, one under the key of the first
    leaves it as it is, also if it is of another amount. -/
theorem execute_idempotent_refund :
    let _ := Python.transparent
    let run := ((createRun ackLostRequest "run").after
      (paidHistory ++ [.execute refundOrderCommand "" 4])).after
        [.execute secondRefundCommand "" 5]
    run.refunds.length = 2 ∧ (run.execute changedRefundCommand 6 "").1 = run := by
  intro _
  generalize hp : paidHistory ++ [.execute refundOrderCommand "" 4] = history
  generalize hb : [Op.execute secondRefundCommand "" 5] = between
  have found : (((createRun ackLostRequest "run").after history).existing
        changedRefundCommand.action "refund").isSome = true ∧
      (((createRun ackLostRequest "run").after history).after between).refunds.length = 2 := by
    rw [← hp, ← hb]
    decide +kernel
  have noReset : Op.reset ∉ between := by
    rw [← hb]
    intro reset
    cases List.mem_singleton.1 reset
  obtain ⟨record, hr⟩ := Option.isSome_iff_exists.1 found.1
  exact ⟨found.2, (RunSpace.execute_idempotent ackLostRequest "run" history between record
    changedRefundCommand "refund" hr noReset rfl 6 "").1⟩

/-- The replay of a refund that succeeded is not answered with its receipt. -/
theorem replay_not_answered :
    ∃ record, ackLostRun.existing .refundOrder "refund" = some record ∧
      record.status = .succeeded ∧
      (@RunSpace.execute Python.transparent ackLostRun refundOrderCommand 5 "").2 ≠
        .receipt (record.toReceipt "run") := by
  have found : (ackLostRun.existing .refundOrder "refund").isSome ∧
      ∀ record ∈ ackLostRun.existing .refundOrder "refund", record.status = .succeeded ∧
        (@RunSpace.execute Python.transparent ackLostRun refundOrderCommand 5 "").2 ≠
          .receipt (record.toReceipt "run") := by
    decide +kernel
  obtain ⟨record, there⟩ := Option.isSome_iff_exists.1 found.1
  exact ⟨record, there, found.2 record there⟩

end RuleArena
