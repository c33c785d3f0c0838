import RuleArena.Foundation.Table
import RuleArena.Oracle.Statuses

/-!
# Terminal states of orders

The check of the orders' histories compares neighbours: a state in a snapshot with
the one in the next snapshot that has the order. Where a terminal state is followed
by the same state only, the histories keep it (`leavesTerminal_iff_pairwise`). So
the check finds exactly the orders that have a terminal state in one snapshot and
another state in any later one (`terminal_exact`).
-/

namespace RuleArena

namespace Oracle

/-- A terminal state is followed by the same state only. -/
def Stays (before after : String) : Prop := before ∈ terminalOrderStates → after = before

theorem leavesTerminal_iff_isChain (states : List String) :
    leavesTerminal states = false ↔ states.IsChain Stays := by
  induction states with
  | nil => exact iff_of_true rfl List.IsChain.nil
  | cons a states ih =>
    cases states with
    | nil => exact iff_of_true rfl (List.IsChain.singleton a)
    | cons b states =>
      have first : (a ∈ terminalOrderStates && b ≠ a) = false ↔ Stays a b := by
        rw [Bool.and_eq_false_iff, Stays]
        simp [or_iff_not_imp_left]
      rw [List.isChain_cons_cons, leavesTerminal, Bool.or_eq_false_iff, first, ih]

/-- No neighbours of a history leave a terminal state exactly if no later state does. -/
theorem leavesTerminal_iff_pairwise (states : List String) :
    leavesTerminal states = false ↔ states.Pairwise Stays := by
  have trans : Trans Stays Stays Stays := {
    trans := fun ab bc terminal => (bc (ab terminal ▸ terminal)).trans (ab terminal) }
  rw [leavesTerminal_iff_isChain, List.isChain_iff_pairwise]

/-! ## Well-formed snapshots -/

/-- The orders of a snapshot can be read, and each has a name of its own and a state. -/
structure WellFormed (snapshot : Json) (orders : List Json) : Prop where
  read : items snapshot "orders" = some orders
  named : ∀ order ∈ orders, ∃ id status, order.get "id" = .str id ∧
    order.get "status" = .str status
  once : (orders.map fun order => order.get "id").Nodup

/-- An order has a state in a snapshot. -/
def HasStatus (snapshot : Json) (orderId status : String) : Prop :=
  ∃ orders, items snapshot "orders" = some orders ∧ ∃ order ∈ orders,
    order.get "id" = .str orderId ∧ order.get "status" = .str status

variable [Python]

/-- The names and the states of the orders of a snapshot. -/
def statesIn (snapshot : Json) : List (String × String) :=
  ((items snapshot "orders").getD []).map fun order =>
    ((order.get "id").toStr, (order.get "status").toStr)

/-- The state of an order in a snapshot, if it has the order. -/
def statusIn (orderId : String) (snapshot : Json) : Option String :=
  (Table.find? Prod.fst (statesIn snapshot) orderId).map Prod.snd

variable {snapshot : Json} {orders : List Json}

theorem WellFormed.keyed (formed : WellFormed snapshot orders) :
    Table.Keyed Prod.fst (statesIn snapshot) := by
  rw [Table.Keyed, statesIn, formed.read, Option.getD_some, List.map_map]
  refine List.Nodup.map_on (fun order mem order' mem' same => ?_) (List.Nodup.of_map _ formed.once)
  obtain ⟨id, -, hid, -⟩ := formed.named order mem
  obtain ⟨id', -, hid', -⟩ := formed.named order' mem'
  refine List.inj_on_of_nodup_map formed.once mem mem' ?_
  rw [Function.comp_apply, Function.comp_apply, hid, hid'] at same
  rw [hid, hid']
  exact congrArg Json.str same

theorem WellFormed.hasStatus_iff (formed : WellFormed snapshot orders) {orderId status : String} :
    HasStatus snapshot orderId status ↔ statusIn orderId snapshot = some status := by
  have mem : HasStatus snapshot orderId status ↔ (orderId, status) ∈ statesIn snapshot := by
    rw [statesIn, formed.read, Option.getD_some, List.mem_map]
    constructor
    · rintro ⟨orders', read, order, mem, hid, hstatus⟩
      obtain rfl := Option.some.inj (formed.read.symm.trans read)
      exact ⟨order, mem, by rw [hid, hstatus]; rfl⟩
    · rintro ⟨order, mem, same⟩
      obtain ⟨id, state, hid, hstatus⟩ := formed.named order mem
      rw [hid, hstatus] at same
      obtain ⟨rfl, rfl⟩ := Prod.mk.inj same
      exact ⟨orders, formed.read, order, mem, hid, hstatus⟩
  rw [mem, statusIn]
  constructor
  · intro h
    rw [Table.find?_of_mem formed.keyed h]
    rfl
  · intro h
    obtain ⟨⟨id, state⟩, found, rfl⟩ := Option.map_eq_some_iff.1 h
    obtain rfl : id = orderId := Table.key_of_find? found
    exact Table.mem_of_find? found

/-! ## Histories -/

theorem orderStates_formed {snapshots : List Json}
    (formed : ∀ snapshot ∈ snapshots, ∃ orders, WellFormed snapshot orders) :
    orderStates snapshots = .ok (snapshots.flatMap statesIn) := by
  induction snapshots with
  | nil => rfl
  | cons snapshot snapshots ih =>
    rw [List.forall_mem_cons] at formed
    obtain ⟨⟨orders, first⟩, rest⟩ := formed
    rw [orderStates, ih rest, List.flatMap_cons, statesIn, first.read]
    rfl

/-- The history of an order has its state in every snapshot that has the order. -/
theorem historyOf_formed {snapshots : List Json} (orderId : String)
    (formed : ∀ snapshot ∈ snapshots, ∃ orders, WellFormed snapshot orders) :
    historyOf (snapshots.flatMap statesIn) orderId = snapshots.filterMap (statusIn orderId) := by
  induction snapshots with
  | nil => rfl
  | cons snapshot snapshots ih =>
    rw [List.forall_mem_cons] at formed
    obtain ⟨⟨orders, first⟩, rest⟩ := formed
    rw [List.flatMap_cons, historyOf, List.filter_append, List.map_append,
      Table.filter_eq first.keyed, ← historyOf, ih rest, List.filterMap_cons, statusIn]
    cases Table.find? Prod.fst (statesIn snapshot) orderId <;> rfl

end Oracle

open Oracle in
/-- The check of terminal states ends with a finding. It is a violation exactly if an order has a
    terminal state in one snapshot, and another state in a later one. -/
theorem terminal_exact [Python] {snapshots : List Json} (two : 2 ≤ snapshots.length)
    (formed : ∀ snapshot ∈ snapshots, ∃ orders, WellFormed snapshot orders) :
    ∃ status, statusOf (terminalMonotonicity snapshots) = .ok status ∧
      (status = .violated ↔ ∃ (i j : Nat) (hi : i < snapshots.length) (hj : j < snapshots.length),
        i < j ∧ ∃ orderId before after, HasStatus snapshots[i] orderId before ∧
          HasStatus snapshots[j] orderId after ∧ before ∈ terminalOrderStates ∧
          after ≠ before) := by
  obtain ⟨absent, sound, bad⟩ :=
    terminalMonotonicity_status (not_lt.2 two) (orderStates_formed formed)
  have leaves (orderId : String) :
      leavesTerminal (historyOf (snapshots.flatMap statesIn) orderId) = true ↔
        ∃ (i j : Nat) (hi : i < snapshots.length) (hj : j < snapshots.length), i < j ∧
          ∃ before after, HasStatus snapshots[i] orderId before ∧
            HasStatus snapshots[j] orderId after ∧ before ∈ terminalOrderStates ∧
            after ≠ before := by
    have status (i : Nat) (hi : i < snapshots.length) (state : String) :
        HasStatus snapshots[i] orderId state ↔ statusIn orderId snapshots[i] = some state := by
      obtain ⟨orders, first⟩ := formed _ (List.getElem_mem hi)
      exact first.hasStatus_iff
    rw [historyOf_formed orderId formed, ← Bool.not_eq_false, leavesTerminal_iff_pairwise,
      List.pairwise_filterMap, List.pairwise_iff_getElem]
    simp only [status, Stays]
    push Not
    simp only [exists_and_left]
  by_cases found : ∃ orderId, leavesTerminal (historyOf (snapshots.flatMap statesIn) orderId) = true
  · obtain ⟨orderId, h⟩ := found
    obtain ⟨i, j, hi, hj, lt, before, after, h⟩ := (leaves orderId).1 h
    exact ⟨.violated, bad orderId ‹_›,
      iff_of_true rfl ⟨i, j, hi, hj, lt, orderId, before, after, h⟩⟩
  · have kept : ∀ orderId,
        leavesTerminal (historyOf (snapshots.flatMap statesIn) orderId) = false :=
      fun orderId => Bool.not_eq_true _ ▸ fun h => found ⟨orderId, h⟩
    have none : ¬ ∃ (i j : Nat) (hi : i < snapshots.length) (hj : j < snapshots.length), i < j ∧
        ∃ orderId before after, HasStatus snapshots[i] orderId before ∧
          HasStatus snapshots[j] orderId after ∧ before ∈ terminalOrderStates ∧
          after ≠ before := by
      rintro ⟨i, j, hi, hj, lt, orderId, before, after, h⟩
      exact found ⟨orderId, (leaves orderId).2 ⟨i, j, hi, hj, lt, before, after, h⟩⟩
    by_cases empty : snapshots.flatMap statesIn = []
    · exact ⟨.notApplicable, absent empty, iff_of_false nofun none⟩
    · exact ⟨.satisfied, sound empty kept, iff_of_false nofun none⟩

/-- A snapshot with one order. -/
def Oracle.snapshotOf (orderId status : String) : Json :=
  .obj [("state", .obj [("orders", .arr [.obj [("id", .str orderId), ("status", .str status)]])])]

/-- A refunded order is paid again, two snapshots later. -/
theorem terminal_exact_gap :
    let _ := Python.transparent
    ∃ status, Oracle.statusOf (Oracle.terminalMonotonicity [Oracle.snapshotOf "order-1" "REFUNDED",
        Oracle.snapshotOf "order-2" "PAID", Oracle.snapshotOf "order-1" "PAID"]) = .ok status ∧
      (status = .violated ↔ ∃ (i j : Nat) (hi : i < 3) (hj : j < 3), i < j ∧
        ∃ orderId before after,
          Oracle.HasStatus ([Oracle.snapshotOf "order-1" "REFUNDED",
            Oracle.snapshotOf "order-2" "PAID", Oracle.snapshotOf "order-1" "PAID"][i]) orderId
              before ∧
          Oracle.HasStatus ([Oracle.snapshotOf "order-1" "REFUNDED",
            Oracle.snapshotOf "order-2" "PAID", Oracle.snapshotOf "order-1" "PAID"][j]) orderId
              after ∧
          before ∈ Oracle.terminalOrderStates ∧ after ≠ before) := by
  intro _
  have formed (orderId status : String) :
      ∃ orders, Oracle.WellFormed (Oracle.snapshotOf orderId status) orders :=
    ⟨_, rfl, List.forall_mem_singleton.2 ⟨orderId, status, rfl, rfl⟩, List.nodup_singleton _⟩
  refine terminal_exact (by decide) ?_
  rw [List.forall_mem_cons, List.forall_mem_cons, List.forall_mem_singleton]
  exact ⟨formed _ _, formed _ _, formed _ _⟩

end RuleArena
