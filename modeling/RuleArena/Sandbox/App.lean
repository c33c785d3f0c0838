import RuleArena.Sandbox.Service
import RuleArena.Sandbox.Snapshot

/-!
# The sandbox over HTTP

What the application makes of a request to a run: the body of a command is read by
its schema (`ActionCommand.ofJson?`), the service executes it, and the answer of the
service becomes a response. An acknowledgement that is lost ends as a timeout of the
gateway, after the write.
-/

namespace RuleArena

/-! ## Requests -/

/-- `ActionName(value)` -/
def ActionName.ofValue? : String → Option ActionName
  | "create_user" => some .createUser
  | "issue_coupon" => some .issueCoupon
  | "create_order" => some .createOrder
  | "apply_coupon" => some .applyCoupon
  | "pay_order" => some .payOrder
  | "cancel_order" => some .cancelOrder
  | "refund_order" => some .refundOrder
  | "redeem_points" => some .redeemPoints
  | "activate_membership" => some .activateMembership
  | "consume_entitlement" => some .consumeEntitlement
  | "cancel_membership" => some .cancelMembership
  | "inspect_state" => some .inspectState
  | _ => none

@[simp] theorem ActionName.ofValue?_value (action : ActionName) :
    ofValue? action.value = some action := by
  cases action <;> rfl

namespace ActionCommand

/-- The fields of a command. -/
def fieldNames : List String :=
  ["schema_version", "action", "actor_id", "target_id", "arguments", "idempotency_key"]

/-- A field that must be a text. -/
def textField : Option Json → Option String
  | some (.str text) => some text
  | _ => none

/-- A field that can be null, and is if it is missing. -/
def optionalField : Option Json → Option (Option String)
  | none | some .null => some none
  | some (.str text) => some (some text)
  | _ => none

/-- The arguments, of which there are none if they are missing. -/
def argumentsField : Option Json → Option (List (String × Json))
  | none => some []
  | some (.obj members) => some members
  | _ => none

/-- The command of these fields, if they have the lengths they must have. -/
def ofFields (action : ActionName) (actorId : String) (targetId : Option String)
    (arguments : List (String × Json)) (idempotencyKey : Option String) : Option ActionCommand :=
  if lengths : (1 ≤ actorId.length ∧ actorId.length ≤ 128) ∧
      (∀ target ∈ targetId, target.length ≤ 128) ∧
      ∀ key ∈ idempotencyKey, 1 ≤ key.length ∧ key.length ≤ 256 then
    some {
      action, actorId, targetId, arguments, idempotencyKey
      actor_length := lengths.1
      target_length := lengths.2.1
      key_length := lengths.2.2 }
  else none

/-- The command of a body, if the schema accepts it. -/
def ofJson? (body : Json) : Option ActionCommand :=
  match body with
  | .obj members =>
    if (∀ member ∈ members, member.1 ∈ fieldNames) ∧
        (members.lookup "schema_version").getD (.str "1.0") = .str "1.0" then do
      let action ← (textField (members.lookup "action")).bind ActionName.ofValue?
      let actorId ← textField (members.lookup "actor_id")
      let targetId ← optionalField (members.lookup "target_id")
      let arguments ← argumentsField (members.lookup "arguments")
      let idempotencyKey ← optionalField (members.lookup "idempotency_key")
      ofFields action actorId targetId arguments idempotencyKey
    else none
  | _ => none

theorem optionalField_optionText (text : Option String) :
    optionalField (some (optionText text)) = some text := by
  cases text <;> rfl

/-- A command has the fields that it is made of. -/
theorem of_ofFields {action : ActionName} {actorId : String} {targetId : Option String}
    {arguments : List (String × Json)} {idempotencyKey : Option String} {command : ActionCommand}
    (h : ofFields action actorId targetId arguments idempotencyKey = some command) :
    command.action = action ∧ command.actorId = actorId ∧ command.targetId = targetId ∧
      command.arguments = arguments ∧ command.idempotencyKey = idempotencyKey := by
  unfold ofFields at h
  split_ifs at h
  obtain rfl := Option.some.inj h
  exact ⟨rfl, rfl, rfl, rfl, rfl⟩

end ActionCommand

/-! ## Responses -/

/-- A response, with its body if that is JSON. -/
structure HttpResponse where
  status : Nat
  body : Option Json
  deriving DecidableEq

/-- `domain_http_error` -/
def DomainError.toHttp (error : DomainError) : HttpResponse where
  status :=
    if error.code ∈ ["RUN_NOT_FOUND", "RECEIPT_NOT_FOUND", "SCENARIO_NOT_FOUND"] then 404
    else if error.code = "IDEMPOTENCY_KEY_REQUIRED" then 422
    else 409
  body := some (.obj [("detail", .obj [("code", .str error.code),
    ("message", .str error.message), ("details", .obj error.details)])])

theorem DomainError.toHttp_status (error : DomainError) :
    400 ≤ error.toHttp.status ∧ error.toHttp.status < 500 := by
  unfold toHttp
  dsimp only
  split_ifs <;> omega

/-- What comes back when the service raises. -/
def Fault.toHttp : Fault → HttpResponse
  | .domain error => error.toHttp
  | .crash _ => ⟨500, none⟩

theorem Fault.toHttp_status (fault : Fault) : fault.toHttp.status ≠ 200 := by
  cases fault with
  | domain error => exact fun ok => absurd error.toHttp_status (by rw [toHttp] at ok; omega)
  | crash _ => exact fun ok => absurd ok (by rw [toHttp]; decide)

/-- What comes back for a command: for one whose acknowledgement is lost nothing, until the caller
    has waited long enough. -/
def Reply.toHttp [Python] : Reply → HttpResponse
  | .receipt answer => ⟨200, some answer.toJson⟩
  | .ackLost _ => ⟨504, none⟩
  | .error fault => fault.toHttp
  | .crash _ => ⟨500, none⟩

/-- Only a receipt comes back with a success of the request. -/
theorem Reply.toHttp_ok [Python] {reply : Reply} (ok : reply.toHttp.status = 200) :
    ∃ receipt, reply = .receipt receipt := by
  cases reply with
  | receipt answer => exact ⟨answer, rfl⟩
  | ackLost _ => exact absurd ok (by rw [toHttp]; decide)
  | error fault => exact absurd fault.toHttp_status (by rw [toHttp] at ok; omega)
  | crash _ => exact absurd ok (by rw [toHttp]; decide)

namespace RunSpace

variable [Python] (run : RunSpace)

/-- `execute_action`, with what the schema says of a body that it does not accept. -/
def executeAction (complaints : List Json) (body : Json) (now : Nat) (uuid : String) :
    RunSpace × HttpResponse :=
  match ActionCommand.ofJson? body with
  | some command => ((run.execute command now uuid).1, (run.execute command now uuid).2.toHttp)
  | none => (run, ⟨422, some (.obj [("detail", .arr complaints)])⟩)

/-- `get_snapshot` -/
def showSnapshot (now : Nat) : HttpResponse := ⟨200, some (run.snapshot now)⟩

/-- `get_receipt` -/
def showReceipt (key : String) : HttpResponse :=
  match run.getReceipt key with
  | .ok receipt => ⟨200, some receipt.toJson⟩
  | .error fault => fault.toHttp

/-- A receipt that is shown is one of the epoch, under the key. -/
theorem of_showReceipt {key : String} (ok : (run.showReceipt key).status = 200) :
    ∃ record ∈ run.epochReceipts, record.idempotencyKey = key ∧
      (run.showReceipt key).body = some (record.toReceipt run.id).toJson := by
  unfold showReceipt at ok ⊢
  have sorted := List.perm_insertionSort
    (fun a b : ActionReceiptRecord => a.occurredAt ≤ b.occurredAt)
    (run.epochReceipts.filter (·.idempotencyKey = key))
  cases got : run.getReceipt key with
  | error fault =>
    rw [got] at ok
    exact absurd ok fault.toHttp_status
  | ok receipt =>
    simp only [getReceipt, Checked.bind_eq_ok] at got
    obtain ⟨-, -, got⟩ := got
    split at got
    · rename_i record rest first
      have mem := sorted.mem_iff.1 (first ▸ List.mem_cons_self)
      simp only [List.mem_filter, decide_eq_true_eq] at mem
      obtain rfl := Checked.pure_eq_ok.1 got
      exact ⟨record, mem.1, mem.2, rfl⟩
    · cases got

/-- If no receipt is shown for want of one, there is none under the key. -/
theorem of_showReceipt_missing {key : String} (missing : (run.showReceipt key).status = 404) :
    ∀ record ∈ run.epochReceipts, record.idempotencyKey ≠ key := by
  intro record mem same
  have sorted := List.perm_insertionSort
    (fun a b : ActionReceiptRecord => a.occurredAt ≤ b.occurredAt)
    (run.epochReceipts.filter (·.idempotencyKey = key))
  have listed : record ∈ run.epochReceipts.filter (·.idempotencyKey = key) := by
    simp only [List.mem_filter, decide_eq_true_eq]
    exact ⟨mem, same⟩
  unfold showReceipt getReceipt at missing
  unfold queryText at missing
  by_cases plain : Char.ofNat 0 ∉ key.toList
  · rw [Checked.ensure_of_pos plain, Checked.ok_bind] at missing
    split at missing
    · rename_i first
      split at first
      · cases missing
      · cases first
    · rename_i fault raised
      split at raised
      · cases raised
      · rename_i empty
        exact absurd (sorted.mem_iff.2 listed) (by rw [empty]; exact List.not_mem_nil)
  · rw [Checked.ensure_of_neg plain, Checked.error_bind] at missing
    cases missing

end RunSpace

end RuleArena
