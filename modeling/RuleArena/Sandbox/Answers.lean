import RuleArena.Sandbox.Keys

/-!
# Computations that answer

A handler answers if it succeeds or rejects. It fails otherwise: when it comes to
a text with a NUL character in it that is to be looked up, to a value that
Python cannot convert or look up, or to a row that the database does not hold.

Whether a handler answers is turned into a condition on what it starts from, in
two parts.

* The rules for computations (`answers_check` and the rules after it) go through a
  handler check by check. Each is an equivalence, so that what is left at the end
  of a handler is exactly what has to hold.
* The rules for the database (`storable_addEvent` and the rules after it) go
  through the rows it writes, flush by flush. An update or a new row fits if the
  rows did before and the new one does (`storable_setOrder`,
  `storable_addCoupon`), and an event fits as long as there is room for its
  sequence number (`RunSpace.HasRoom`).

The conditions of the handlers themselves are put together in
`RuleArena.Sandbox.Failures`.
-/

namespace RuleArena

/-- A rejection, as against an exception that escapes. -/
def Fault.IsRejection : Fault → Prop
  | .domain _ => True
  | .crash _ => False

/-- A computation that succeeds or rejects. -/
def Answers {α : Type} (x : Except Fault α) : Prop := Checked.Fails Fault.IsRejection x

/-- `_positive_int` comes to an end on a value: it is no infinite number, and no
    positive number of more than 4300 digits. -/
def Json.Countable : Json → Prop
  | .int i => 0 < i → (toString i).length ≤ 4300
  | .float (.inf _) => False
  | _ => True

/-- A value that can be looked up in a set. -/
def Json.Hashable : Json → Prop
  | .arr _ | .obj _ => False
  | _ => True

/-! ## Rules -/

section Rules

variable {α β : Type} {Q : Prop}

/-- A computation that is done answers. -/
theorem answers_pure {a : α} : Answers (pure a) ↔ True := Checked.fails_pure

/-- A check that rejects answers where it is not passed, so the rest counts only where
    it is. -/
theorem answers_check {c : Prop} [Decidable c] {error : DomainError} {f : Unit → Except Fault β}
    (h : c → (Answers (f ()) ↔ Q)) :
    Answers (ensure c (.domain error) >>= f) ↔ (c → Q) :=
  (Checked.fails_ensure_bind trivial).trans (forall_congr' h)

/-- A check that is known to be passed counts for nothing. -/
theorem answers_passed {c : Prop} [Decidable c] {fault : Fault} {f : Unit → Except Fault β}
    (hc : c) (h : Answers (f ()) ↔ Q) : Answers (ensure c fault >>= f) ↔ Q := by
  rw [Checked.ensure_of_pos hc]
  exact h

/-- What is made of a value in the end does not matter. -/
theorem answers_map {x : Except Fault α} {f : α → β} :
    Answers (x >>= fun a => pure (f a)) ↔ Answers x :=
  Checked.fails_bind.trans (and_iff_left fun _ _ => .pure)

/-- Before a rest that always answers only the part before it counts. -/
theorem answers_then {x : Except Fault α} {f : α → Except Fault β}
    (h : ∀ a, x = .ok a → Answers (f a)) : Answers (x >>= f) ↔ Answers x :=
  Checked.fails_bind.trans (and_iff_left h)

/-- After a part that does not fail, the rest counts only for its values. -/
theorem answers_step {x : Except Fault α} {f : α → Except Fault β} {Q : α → Prop} (hx : Answers x)
    (h : ∀ a, x = .ok a → (Answers (f a) ↔ Q a)) :
    Answers (x >>= f) ↔ ∀ a, x = .ok a → Q a := by
  refine Checked.fails_bind.trans ⟨fun h' a ha => (h a ha).1 (h'.2 a ha), fun h' => ?_⟩
  exact ⟨hx, fun a ha => (h a ha).2 (h' a ha)⟩

/-- A text can be looked up if it has no NUL character in it. -/
theorem answers_queryText {text : String} : Answers (queryText text) ↔ Plain text := by
  refine Checked.fails_ensure.trans ⟨fun h => ?_, fun h hn => absurd h hn⟩
  by_contra hn
  exact h hn

/-- Unknown and missing arguments are rejected. -/
theorem answers_args {command : ActionCommand} {allowed required : List String}
    {f : Unit → Except Fault β}
    (h : command.checkArgs allowed required = .ok () → (Answers (f ()) ↔ Q)) :
    Answers (command.checkArgs allowed required >>= f) ↔
      (command.checkArgs allowed required = .ok () → Q) := by
  have checked : Answers (command.checkArgs allowed required) :=
    .bind (.ensure fun _ => trivial) fun _ _ => .ensure fun _ => trivial
  exact (answers_step checked fun _ => h).trans ⟨fun h' => h' (), fun h' _ => h'⟩

/-- A command without a target is rejected. -/
theorem answers_target {command : ActionCommand} {name : String} {f : String → Except Fault β}
    {Q : String → Prop} (h : ∀ id, command.target name = .ok id → (Answers (f id) ↔ Q id)) :
    Answers (command.target name >>= f) ↔ ∀ id, command.target name = .ok id → Q id := by
  refine answers_step ?_ h
  unfold ActionCommand.target
  split
  · exact .bind (.ensure fun _ => trivial) fun _ _ => .pure
  · exact .throw trivial

/-- An amount that cannot be read is rejected, whatever it is. -/
theorem answers_money {value : Json} {field : String} {f : Amount × Currency → Except Fault β}
    {Q : Amount → Currency → Prop}
    (h : ∀ amount currency, money value field = .ok (amount, currency) →
      (Answers (f (amount, currency)) ↔ Q amount currency)) :
    Answers (money value field >>= f) ↔
      ∀ amount currency, money value field = .ok (amount, currency) → Q amount currency := by
  have read : Answers (money value field) := by
    refine .bind ?_ fun raw _ => .bind ?_ fun decimal _ => ?_
    · unfold rawMoney
      split
      · exact .bind (.ensure fun _ => trivial) fun _ _ => .pure
      · exact .pure
    · unfold rawDecimal
      split
      · exact .pure
      · exact .pure
      · exact .throw trivial
    · split
      · exact .bind (.ensure fun _ => trivial) fun _ _ => .pure
      · exact .throw trivial
      · exact .throw trivial
  exact (answers_step (Q := fun p => Q p.1 p.2) read fun p hm => h p.1 p.2 hm).trans Prod.forall

/-- An argument that is no text, or an empty one, is rejected. -/
theorem answers_string {value : Json} {field : String} {f : String → Except Fault β}
    {Q : String → Prop} (h : ∀ s, stringArgument value field = .ok s → (Answers (f s) ↔ Q s)) :
    Answers (stringArgument value field >>= f) ↔
      ∀ s, stringArgument value field = .ok s → Q s := by
  refine answers_step ?_ h
  unfold stringArgument
  split
  · exact .bind (.ensure fun _ => trivial) fun _ _ => .pure
  · exact .throw trivial

/-- An argument that is no Boolean is rejected. -/
theorem answers_bool {value : Json} {field : String} {f : Bool → Except Fault β}
    {Q : Bool → Prop} (h : ∀ b, strictBool value field = .ok b → (Answers (f b) ↔ Q b)) :
    Answers (strictBool value field >>= f) ↔ ∀ b, strictBool value field = .ok b → Q b := by
  refine answers_step ?_ h
  unfold strictBool
  split
  · exact .pure
  · exact .throw trivial

/-- `_positive_int` fails on the values it cannot convert and on no others. -/
theorem answers_positiveInt {value : Json} {field : String} :
    Answers (positiveInt value field) ↔ value.Countable := by
  unfold positiveInt Json.Countable
  split
  · refine (answers_check fun _ => ?_)
    refine Checked.fails_bind.trans ⟨fun h => ?_, fun h => ⟨.ensure fun hn => absurd h hn, ?_⟩⟩
    · by_contra hn
      exact h.1 _ (Checked.ensure_of_neg hn)
    · exact fun _ _ => .pure
  · split
    · exact iff_true_intro (.bind (.ensure fun _ => trivial) fun _ _ => .pure)
    · exact iff_true_intro (.throw trivial)
  · exact Checked.fails_throw
  · rename_i h₁ h₂ h₃
    split
    · exact absurd rfl (h₁ _)
    · exact absurd rfl (h₃ _)
    · exact iff_true_intro (.throw trivial)

/-- After a quantity is read, the rest counts, and that it could be converted. -/
theorem answers_quantity {value : Json} {field : String} {f : Int → Except Fault β}
    {Q : Int → Prop} (h : ∀ i, positiveInt value field = .ok i → (Answers (f i) ↔ Q i)) :
    Answers (positiveInt value field >>= f) ↔
      value.Countable ∧ ∀ i, positiveInt value field = .ok i → Q i := by
  refine Checked.fails_bind.trans (and_congr answers_positiveInt ?_)
  exact forall_congr' fun i => forall_congr' (h i)

/-- The scope is looked up in a set, which fails on a list and on an object. -/
theorem answers_scope {value : Json} : Answers (RunSpace.inspectScope value) ↔ value.Hashable := by
  unfold RunSpace.inspectScope Json.Hashable
  cases value with
  | str => exact iff_true_intro (.bind (.ensure fun _ => trivial) fun _ _ => .pure)
  | arr => exact Checked.fails_throw
  | obj => exact Checked.fails_throw
  | _ => exact Checked.fails_throw

namespace RunSpace

variable {run : RunSpace}

/-- A row is looked up by its identifier, and rejected where there is none. -/
theorem answers_row {key : α → String} {rows : List α} {id : String} {error : DomainError}
    {f : α → Except Fault β} {Q : α → Prop}
    (h : ∀ row, Table.find? key rows id = some row → Plain id → (Answers (f row) ↔ Q row)) :
    Answers (getRow key rows id (.domain error) >>= f) ↔
      Plain id ∧ ∀ row, Table.find? key rows id = some row → Q row := by
  have looked : Answers (getRow key rows id (.domain error)) ↔ Plain id := by
    refine Checked.fails_bind.trans ⟨fun h => answers_queryText.1 h.1, fun h => ?_⟩
    refine ⟨answers_queryText.2 h, fun _ _ => ?_⟩
    split
    · exact .pure
    · exact .throw trivial
  refine Checked.fails_bind.trans ((and_congr_left' looked).trans (and_congr_right fun plain => ?_))
  refine forall_congr' fun row => ⟨fun h' hf => ?_, fun h' hr => ?_⟩
  · exact (h row hf plain).1 (h' (getRow_eq_ok.2 ⟨plain, hf⟩))
  · have hf := (getRow_eq_ok.1 hr).2
    exact (h row hf plain).2 (h' hf)

/-- The user is looked up by its identifier, like a row. -/
theorem answers_user {id : String} {f : TestUser → Except Fault β} {Q : TestUser → Prop}
    (h : ∀ user, run.user = some user → user.id = id → (Answers (f user) ↔ Q user)) :
    Answers (run.getUser id >>= f) ↔
      Plain id ∧ ∀ user, run.user = some user → user.id = id → Q user := by
  have looked : Answers (run.getUser id) ↔ Plain id := by
    refine Checked.fails_bind.trans ⟨fun h => answers_queryText.1 h.1, fun h => ?_⟩
    refine ⟨answers_queryText.2 h, fun _ _ => ?_⟩
    split
    · exact .bind (.ensure fun _ => trivial) fun _ _ => .pure
    · exact .throw trivial
  refine Checked.fails_bind.trans ((and_congr_left' looked).trans (and_congr_right fun plain => ?_))
  refine forall_congr' fun user => ⟨fun h' hu hid => ?_, fun h' hr => ?_⟩
  · exact (h user hu hid).1 (h' ((getUser_eq_ok _).2 ⟨plain, hu, hid⟩))
  · obtain ⟨-, hu, hid⟩ := (getUser_eq_ok _).1 hr
    exact (h user hu hid).2 (h' hu hid)

/-- A flush fails on rows that the database does not hold. -/
theorem answers_flush : Answers run.flush ↔ run.Storable := by
  refine Checked.fails_bind.trans ⟨fun h => ?_, fun h => ⟨.ensure fun hn => absurd h hn, ?_⟩⟩
  · by_contra hn
    exact h.1 _ (Checked.ensure_of_neg hn)
  · exact fun _ _ => .pure

/-- After an event, the rest goes on from the run with the event. -/
theorem answers_event {aggregateType : AggregateType} {aggregateId : String}
    {eventType : BusinessEventType} {payload : List (String × Json)} {key : String} {now : Nat}
    {f : RunSpace → Except Fault β}
    (h : (run.addEvent aggregateType aggregateId eventType payload key now).Storable →
      (Answers (f (run.addEvent aggregateType aggregateId eventType payload key now)) ↔ Q)) :
    Answers (run.event aggregateType aggregateId eventType payload key now >>= f) ↔
      (run.addEvent aggregateType aggregateId eventType payload key now).Storable ∧ Q := by
  refine Checked.fails_bind.trans ((and_congr_left' answers_flush).trans ?_)
  refine and_congr_right fun storable => Iff.trans ?_ (h storable)
  refine ⟨fun h' => h' _ ((flush_eq_ok _).2 ⟨storable, rfl⟩), fun h' r hr => ?_⟩
  rw [(event_eq_ok hr).1]
  exact h'

/-- The last event of a handler. -/
theorem answers_last {aggregateType : AggregateType} {aggregateId : String}
    {eventType : BusinessEventType} {payload : List (String × Json)} {key : String} {now : Nat}
    {f : RunSpace → β} :
    Answers (run.event aggregateType aggregateId eventType payload key now >>= fun r => pure (f r)) ↔
      (run.addEvent aggregateType aggregateId eventType payload key now).Storable :=
  (answers_event (Q := True) (f := fun r => pure (f r)) fun _ => answers_pure).trans
    (and_iff_left trivial)

end RunSpace

end Rules

namespace RunSpace

/-! ## What the database holds -/

/-- The sequence numbers of that many further events fit their column. -/
def HasRoom (run : RunSpace) (n : Nat) : Prop := run.lastSequence + n < 2 ^ 31

variable {run : RunSpace}

/-- An event takes the next sequence number. -/
theorem lastSequence_addEvent (aggregateType : AggregateType) (aggregateId : String)
    (eventType : BusinessEventType) (payload : List (String × Json)) (key : String) (now : Nat) :
    (run.addEvent aggregateType aggregateId eventType payload key now).lastSequence =
      run.lastSequence + 1 := by
  rw [lastSequence, epochEvents_addEvent, List.map_append, List.foldl_append]
  exact max_eq_right (Nat.le_succ _)

/-- An event takes up room for one. -/
@[simp] theorem hasRoom_addEvent {aggregateType : AggregateType} {aggregateId : String}
    {eventType : BusinessEventType} {payload : List (String × Json)} {key : String} {now n : Nat} :
    (run.addEvent aggregateType aggregateId eventType payload key now).HasRoom n ↔
      run.HasRoom (n + 1) := by
  rw [HasRoom, HasRoom, lastSequence_addEvent, Nat.add_assoc, Nat.add_comm 1 n]

theorem HasRoom.mono {m n : Nat} (h : run.HasRoom n) (le : m ≤ n) : run.HasRoom m := by
  unfold HasRoom at *
  omega

section Rows

variable {n : Nat}

@[simp] theorem hasRoom_setUser {user : TestUser} :
    (run.setUser user).HasRoom n ↔ run.HasRoom n := .rfl

@[simp] theorem hasRoom_setOrder {order : Order} :
    (run.setOrder order).HasRoom n ↔ run.HasRoom n := .rfl

@[simp] theorem hasRoom_addOrder {order : Order} :
    (run.addOrder order).HasRoom n ↔ run.HasRoom n := .rfl

@[simp] theorem hasRoom_setCoupon {coupon : Coupon} :
    (run.setCoupon coupon).HasRoom n ↔ run.HasRoom n := .rfl

@[simp] theorem hasRoom_addCoupon {coupon : Coupon} :
    (run.addCoupon coupon).HasRoom n ↔ run.HasRoom n := .rfl

@[simp] theorem hasRoom_addRefund {refund : Refund} :
    (run.addRefund refund).HasRoom n ↔ run.HasRoom n := .rfl

@[simp] theorem hasRoom_addLedger {userId : String} {orderId : Option String}
    {entryType : LedgerEntryType} {amount : Int} {ledgerKey : String} :
    (run.addLedger userId orderId entryType amount ledgerKey).HasRoom n ↔ run.HasRoom n := .rfl

@[simp] theorem hasRoom_setMembership {membership : Membership} :
    (run.setMembership membership).HasRoom n ↔ run.HasRoom n := .rfl

@[simp] theorem hasRoom_addMembership {membership : Membership} :
    (run.addMembership membership).HasRoom n ↔ run.HasRoom n := .rfl

@[simp] theorem hasRoom_setEntitlement {entitlement : Entitlement} :
    (run.setEntitlement entitlement).HasRoom n ↔ run.HasRoom n := .rfl

@[simp] theorem hasRoom_addEntitlement {entitlement : Entitlement} :
    (run.addEntitlement entitlement).HasRoom n ↔ run.HasRoom n := .rfl

end Rows

/-- An event fits if there is room for it. -/
theorem storable_addEvent {Q : Prop} (base : run.Storable ↔ Q) {aggregateType : AggregateType}
    {aggregateId : String} {eventType : BusinessEventType} {payload : List (String × Json)}
    {key : String} {now : Nat} :
    (run.addEvent aggregateType aggregateId eventType payload key now).Storable ↔
      Q ∧ run.HasRoom 1 := by
  rw [← base]
  have number : Int32 ((run.lastSequence + 1 : Nat) : Int) ↔ run.HasRoom 1 := by
    unfold Int32 HasRoom
    omega
  have fits (h : run.Storable) : Table.Fits (fun event => Int32 event.sequence)
      (fun event => (event.epoch, event.sequence)) (run.events ++
        [run.newEvent aggregateType aggregateId eventType payload key now]) ↔
      Int32 ((run.lastSequence + 1 : Nat) : Int) := by
    refine Table.fits_append ⟨h.events, h.events_sequence⟩ fun hm => ?_
    obtain ⟨event, hm, e⟩ := List.mem_map.1 hm
    simp only [newEvent, Prod.mk.injEq] at e
    have := le_lastSequence (List.mem_filter.2 ⟨hm, decide_eq_true e.1⟩)
    omega
  constructor
  · intro h
    have base : run.Storable := { h with
      events := fun event hm => h.events event (List.mem_append_left _ hm)
      events_sequence := h.events_sequence.sublist ((List.sublist_append_left _ _).map _) }
    exact ⟨base, number.1 ((fits base).1 ⟨h.events, h.events_sequence⟩)⟩
  · rintro ⟨h, room⟩
    obtain ⟨events, keyed⟩ := (fits h).2 (number.2 room)
    exact { h with events := events, events_sequence := keyed }

/-! ### Updates

A run fits after an update if it did before, where it can be told, and the new row
does. -/

theorem Storable.ordersFit (h : run.Storable) : Table.Fits Order.Storable Order.id run.orders :=
  ⟨h.orders, h.orders_keyed⟩

theorem Storable.couponsFit (h : run.Storable) :
    Table.Fits Coupon.Storable Coupon.id run.coupons :=
  ⟨h.coupons, h.coupons_keyed⟩

theorem Storable.membershipsFit (h : run.Storable) :
    Table.Fits (Numeric ·.paidAmount) Membership.id run.memberships :=
  ⟨h.memberships, h.memberships_keyed⟩

theorem Storable.entitlementsFit (h : run.Storable) :
    Table.Fits Entitlement.Storable Entitlement.id run.entitlements :=
  ⟨h.entitlements, h.entitlements_keyed⟩

theorem Storable.ledgerFits (h : run.Storable) :
    Table.Fits PointsLedgerEntry.Storable PointsLedgerEntry.idempotencyKey run.ledger :=
  ⟨h.ledger, h.ledger_key⟩

section Updates

variable {Q : Prop} (base : run.Storable ↔ Q)

include base

theorem storable_setUser (user : TestUser) (fits : ∀ user ∈ run.user, user.Storable) :
    (run.setUser user).Storable ↔ Q ∧ user.Storable := by
  rw [← base]
  refine ⟨fun h => ⟨{ h with user := fits }, h.user user rfl⟩, fun ⟨h, hu⟩ => ?_⟩
  exact { h with user := by rintro _ ⟨⟩; exact hu }

theorem storable_setOrder (order : Order)
    (fits : Table.Fits Order.Storable Order.id run.orders) {old : Order}
    (found : Table.find? Order.id run.orders order.id = some old) :
    (run.setOrder order).Storable ↔ Q ∧ order.Storable := by
  rw [← base]
  refine ⟨fun h => ⟨{ h with orders := fits.1, orders_keyed := fits.2 },
    (Table.fits_update fits found).1 h.ordersFit⟩, fun ⟨h, ho⟩ => ?_⟩
  obtain ⟨orders, keyed⟩ := (Table.fits_update fits found).2 ho
  exact { h with orders := orders, orders_keyed := keyed }

theorem storable_addOrder (order : Order)
    (fits : Table.Fits Order.Storable Order.id run.orders)
    (new : order.id ∉ run.orders.map Order.id) :
    (run.addOrder order).Storable ↔ Q ∧ order.Storable := by
  rw [← base]
  refine ⟨fun h => ⟨{ h with orders := fits.1, orders_keyed := fits.2 },
    (Table.fits_append fits new).1 h.ordersFit⟩, fun ⟨h, ho⟩ => ?_⟩
  obtain ⟨orders, keyed⟩ := (Table.fits_append fits new).2 ho
  exact { h with orders := orders, orders_keyed := keyed }

theorem storable_setCoupon (coupon : Coupon)
    (fits : Table.Fits Coupon.Storable Coupon.id run.coupons) {old : Coupon}
    (found : Table.find? Coupon.id run.coupons coupon.id = some old) :
    (run.setCoupon coupon).Storable ↔ Q ∧ coupon.Storable := by
  rw [← base]
  refine ⟨fun h => ⟨{ h with coupons := fits.1, coupons_keyed := fits.2 },
    (Table.fits_update fits found).1 h.couponsFit⟩, fun ⟨h, hc⟩ => ?_⟩
  obtain ⟨coupons, keyed⟩ := (Table.fits_update fits found).2 hc
  exact { h with coupons := coupons, coupons_keyed := keyed }

theorem storable_addCoupon (coupon : Coupon)
    (fits : Table.Fits Coupon.Storable Coupon.id run.coupons)
    (new : coupon.id ∉ run.coupons.map Coupon.id) :
    (run.addCoupon coupon).Storable ↔ Q ∧ coupon.Storable := by
  rw [← base]
  refine ⟨fun h => ⟨{ h with coupons := fits.1, coupons_keyed := fits.2 },
    (Table.fits_append fits new).1 h.couponsFit⟩, fun ⟨h, hc⟩ => ?_⟩
  obtain ⟨coupons, keyed⟩ := (Table.fits_append fits new).2 hc
  exact { h with coupons := coupons, coupons_keyed := keyed }

/-- A refund has two keys, its identifier and the key it was asked for under. -/
theorem storable_addRefund (refund : Refund)
    (fits : Table.Fits (Numeric ·.amount) Refund.id run.refunds)
    (keyed : Table.Keyed Refund.idempotencyKey run.refunds)
    (new : refund.id ∉ run.refunds.map Refund.id)
    (newKey : refund.idempotencyKey ∉ run.refunds.map Refund.idempotencyKey) :
    (run.addRefund refund).Storable ↔ Q ∧ Numeric refund.amount := by
  rw [← base]
  refine ⟨fun h => ⟨{ h with refunds := fits.1, refunds_keyed := fits.2, refunds_key := keyed },
    (Table.fits_append fits new).1 ⟨h.refunds, h.refunds_keyed⟩⟩, fun ⟨h, hf⟩ => ?_⟩
  have byId := (Table.fits_append fits new).2 hf
  have byKey := (Table.fits_append ⟨fits.1, keyed⟩ newKey).2 hf
  exact { h with refunds := byId.1, refunds_keyed := byId.2, refunds_key := byKey.2 }

/-- An entry of the ledger fits if its amount and its key fit their columns and its
    key is a new one. -/
theorem storable_addLedger
    (fits : Table.Fits PointsLedgerEntry.Storable PointsLedgerEntry.idempotencyKey run.ledger)
    {userId : String} {orderId : Option String} {entryType : LedgerEntryType} {amount : Int}
    {ledgerKey : String} (new : ledgerKey ∉ run.ledger.map PointsLedgerEntry.idempotencyKey) :
    (run.addLedger userId orderId entryType amount ledgerKey).Storable ↔
      Q ∧ Int32 amount ∧ ledgerKey.length ≤ 256 := by
  rw [← base]
  have append : Table.Fits PointsLedgerEntry.Storable PointsLedgerEntry.idempotencyKey
      (run.ledger ++ [⟨userId, orderId, entryType, amount, ledgerKey⟩]) ↔ _ :=
    Table.fits_append fits new
  refine ⟨fun h => ⟨{ h with ledger := fits.1, ledger_key := fits.2 }, append.1 h.ledgerFits⟩,
    fun ⟨h, he⟩ => ?_⟩
  obtain ⟨ledger, keyed⟩ := append.2 he
  exact { h with ledger := ledger, ledger_key := keyed }

theorem storable_setMembership (membership : Membership)
    (fits : Table.Fits (Numeric ·.paidAmount) Membership.id run.memberships) {old : Membership}
    (found : Table.find? Membership.id run.memberships membership.id = some old) :
    (run.setMembership membership).Storable ↔ Q ∧ Numeric membership.paidAmount := by
  rw [← base]
  refine ⟨fun h => ⟨{ h with memberships := fits.1, memberships_keyed := fits.2 },
    (Table.fits_update fits found).1 h.membershipsFit⟩, fun ⟨h, hm⟩ => ?_⟩
  obtain ⟨memberships, keyed⟩ := (Table.fits_update fits found).2 hm
  exact { h with memberships := memberships, memberships_keyed := keyed }

theorem storable_addMembership (membership : Membership)
    (fits : Table.Fits (Numeric ·.paidAmount) Membership.id run.memberships)
    (new : membership.id ∉ run.memberships.map Membership.id) :
    (run.addMembership membership).Storable ↔ Q ∧ Numeric membership.paidAmount := by
  rw [← base]
  refine ⟨fun h => ⟨{ h with memberships := fits.1, memberships_keyed := fits.2 },
    (Table.fits_append fits new).1 h.membershipsFit⟩, fun ⟨h, hm⟩ => ?_⟩
  obtain ⟨memberships, keyed⟩ := (Table.fits_append fits new).2 hm
  exact { h with memberships := memberships, memberships_keyed := keyed }

theorem storable_setEntitlement (entitlement : Entitlement)
    (fits : Table.Fits Entitlement.Storable Entitlement.id run.entitlements) {old : Entitlement}
    (found : Table.find? Entitlement.id run.entitlements entitlement.id = some old) :
    (run.setEntitlement entitlement).Storable ↔ Q ∧ entitlement.Storable := by
  rw [← base]
  refine ⟨fun h => ⟨{ h with entitlements := fits.1, entitlements_keyed := fits.2 },
    (Table.fits_update fits found).1 h.entitlementsFit⟩, fun ⟨h, he⟩ => ?_⟩
  obtain ⟨entitlements, keyed⟩ := (Table.fits_update fits found).2 he
  exact { h with entitlements := entitlements, entitlements_keyed := keyed }

theorem storable_addEntitlement (entitlement : Entitlement)
    (fits : Table.Fits Entitlement.Storable Entitlement.id run.entitlements)
    (new : entitlement.id ∉ run.entitlements.map Entitlement.id) :
    (run.addEntitlement entitlement).Storable ↔ Q ∧ entitlement.Storable := by
  rw [← base]
  refine ⟨fun h => ⟨{ h with entitlements := fits.1, entitlements_keyed := fits.2 },
    (Table.fits_append fits new).1 h.entitlementsFit⟩, fun ⟨h, he⟩ => ?_⟩
  obtain ⟨entitlements, keyed⟩ := (Table.fits_append fits new).2 he
  exact { h with entitlements := entitlements, entitlements_keyed := keyed }

end Updates

end RunSpace

end RuleArena
