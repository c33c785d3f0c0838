import RuleArena.Oracle.Evidence
import RuleArena.Runtime.Log
import RuleArena.Sandbox.Refunds
import RuleArena.Simulator.Offers

/-!
# Replays

A replay posts the actions of a trace to a fresh run of the sandbox, one by one.
It gives the rows that the receipts name aliases, numbered by their first
appearance, and posts every target and every identifier under its alias.

The sandbox numbers its rows as they are created. Every new row is named in the
receipt of its command (`RunSpace.handler_introduces`), so that both numberings
agree (`Aliases.Canonical`) and no alias ever changes what is posted
(`replay_posts`).
-/

namespace RuleArena

/-! ## Aliases -/

/-- `name.removesuffix("_id")`, for a name that ends so. -/
def idPrefix? (name : String) : Option String :=
  if "_id".toList <:+ name.toList then
    some (String.ofList (name.toList.take (name.toList.length - 3)))
  else none

/-- What a replay remembers of the identifiers in receipts. -/
structure Aliases where
  aliases : String → Option String := fun _ => none
  aliasCounts : String → Option Nat := fun _ => none
  knownAliasValues : List (String × String) := []

namespace Aliases

variable (aliases : Aliases)

/-- An entry of a result is learnt, if it is an identifier that has not been seen yet. -/
def learn : String × Json → Aliases
  | (name, .str value) =>
    match idPrefix? name with
    | none => aliases
    | some kind =>
      if (kind, value) ∈ aliases.knownAliasValues then aliases
      else
        let count := (aliases.aliasCounts kind).getD 0 + 1
        { aliases := insertEntry aliases.aliases (kind ++ "-" ++ toString count) value
          aliasCounts := insertEntry aliases.aliasCounts kind count
          knownAliasValues := (kind, value) :: aliases.knownAliasValues }
  | _ => aliases

/-- `aliases.get(value, value)` -/
def named (value : String) : String := (aliases.aliases value).getD value

/-- An argument of an action, under its alias if it is an identifier. -/
def namedArgument : String × ArgValue → String × ArgValue
  | (name, .str value) =>
    (name, .str (if (idPrefix? name).isSome then aliases.named value else value))
  | argument => argument

end Aliases

/-- The key that an action is posted under. -/
def SimAction.replayKey (action : SimAction) (index : Nat) : String :=
  match action.idempotencyKey with
  | none => "replay-" ++ toString index
  | some key => if key = "" then "replay-" ++ toString index else key

/-- What is posted for an action: the payload of this action. -/
def Aliases.posted (aliases : Aliases) (index : Nat) (action : SimAction) : SimAction :=
  { action with
    targetId := action.targetId.map fun target =>
      if target = "" then target else aliases.named target
    arguments := (SimAction.argumentDict action.arguments).map aliases.namedArgument
    idempotencyKey := some (action.replayKey index) }

/-- The command of a payload, if the schema of requests accepts it. -/
def SimAction.command? (action : SimAction) : Option ActionCommand :=
  if actor : 1 ≤ action.actorId.length ∧ action.actorId.length ≤ 128 then
    if target : ∀ target ∈ action.targetId, target.length ≤ 128 then
      if key : ∀ key ∈ action.idempotencyKey, 1 ≤ key.length ∧ key.length ≤ 256 then
        some {
          action := action.actionType
          actorId := action.actorId
          targetId := action.targetId
          arguments := (argumentDict action.arguments).map fun (name, value) =>
            (name, value.toJson)
          idempotencyKey := action.idempotencyKey
          actor_length := actor
          target_length := target
          key_length := key }
      else none
    else none
  else none

/-! ## The replay of a trace -/

/-- How a replay fails: with a status that is an error, or with a write of which nobody knows
    whether it was committed. -/
inductive ReplayError
  | status
  | actionUnknown
  deriving DecidableEq

/-- What happens around a command: whether its body is too large for the service, the identifier
    the service draws, the time of the command and that of the snapshot after it. -/
structure Moment where
  tooLarge : Bool := false
  uuid : String := ""
  now : Nat := 0
  capturedAt : Nat := 0

/-- A replay so far: the run, the aliases, what was posted and what came back. -/
structure Replay where
  run : RunSpace
  aliases : Aliases := {}
  posted : List SimAction := []
  receipts : List ActionReceipt := []
  snapshots : List Json

namespace Replay

variable [Python]

/-- The replay as it begins, with the snapshot of a new run. -/
def start (request : CreateRunRequest) (runId : String) (capturedAt : Nat) : Replay where
  run := createRun request runId
  snapshots := [(createRun request runId).snapshot capturedAt]

/-- `_authoritative_receipt` -/
def authoritativeReceipt (run : RunSpace) (key : String) : Except ReplayError ActionReceipt :=
  match run.getReceipt key with
  | .ok receipt => .ok receipt
  | .error (.domain _) => .error .actionUnknown
  | .error (.crash _) => .error .status

/-- The receipt of a command: the one that it is answered with, or the durable one if its answer
    does not come back. -/
def receiptOf (run : RunSpace) (key : String) : Reply → Except ReplayError ActionReceipt
  | .receipt receipt => .ok receipt
  | .ackLost _ => authoritativeReceipt run key
  | .error _ | .crash _ => .error .status

variable (replay : Replay)

/-- What was posted for an action is executed, and its receipt and a snapshot are kept. -/
def execute (moment : Moment) (command : ActionCommand) (key : String) :
    Replay × Option ReplayError :=
  let (run, reply) := replay.run.execute command moment.now moment.uuid
  match receiptOf run key reply with
  | .error error => ({ replay with run }, some error)
  | .ok receipt =>
    ({ replay with
      run
      aliases := receipt.result.foldl Aliases.learn replay.aliases
      receipts := replay.receipts ++ [receipt]
      snapshots := replay.snapshots ++ [run.snapshot moment.capturedAt] }, none)

/-- An action is posted. -/
def post (index : Nat) (moment : Moment) (action : SimAction) : Replay × Option ReplayError :=
  let payload := replay.aliases.posted index action
  let replay := { replay with posted := replay.posted ++ [payload] }
  if moment.tooLarge then (replay, some .status)
  else
    match payload.command? with
    | none => (replay, some .status)
    | some command => replay.execute moment command (action.replayKey index)

/-- The actions from an index on are posted, until the replay fails. -/
def actions (replay : Replay) (moments : Nat → Moment) (index : Nat) :
    List SimAction → Replay × Option ReplayError
  | [] => (replay, none)
  | action :: rest =>
    match replay.post index (moments index) action with
    | (replay, some error) => (replay, some error)
    | (replay, none) => actions replay moments (index + 1) rest

end Replay

/-! ## The result -/

inductive ReplayClassification
  | confirmedViolation
  | modelDivergence
  | insufficientEvidence
  deriving DecidableEq

/-- `classify_replay` -/
def classifyReplay : OracleStatus → ReplayClassification
  | .violated => .confirmedViolation
  | .insufficientEvidence => .insufficientEvidence
  | _ => .modelDivergence

structure ReplayResult where
  classification : ReplayClassification
  targetInvariant : InvariantId
  runId : String
  actions : List SimAction
  findings : List OracleFinding
  snapshots : List Json
  receipts : List ActionReceipt
  events : List Json

/-- How `replay` ends without a result. -/
inductive ReplayFailure
  | replay (error : ReplayError)
  | oracle (exception : PyException)
  | noFinding

/-- `replay`, which posts the actions of a trace to a new run and lets the oracle judge. -/
def replay [Python] (spec : RuleSpec) (trace : List SimAction) (targetInvariant : InvariantId)
    (request : CreateRunRequest) (runId : String) (capturedAt : Nat) (moments : Nat → Moment) :
    Except ReplayFailure ReplayResult :=
  match (Replay.start request runId capturedAt).actions moments 0 trace with
  | (_, some error) => .error (.replay error)
  | (replay, none) =>
    let events := replay.run.getEvents
    match Oracle.evaluate spec replay.snapshots (replay.receipts.map ActionReceipt.toJson)
      events with
    | .error exception => .error (.oracle exception)
    | .ok findings =>
      match findings.find? fun finding => finding.invariantId = targetInvariant with
      | none => .error .noFinding
      | some finding => .ok {
          classification := classifyReplay finding.status
          targetInvariant
          runId := replay.run.id
          actions := trace
          findings
          snapshots := replay.snapshots
          receipts := replay.receipts
          events }

/-! ## Numbered names -/

/-- The aliases of rows that are numbered as they are learnt: there is a number of rows of each
    kind, all of them are known, and every alias is its own. -/
structure Aliases.Canonical (aliases : Aliases) (count : String → Nat) : Prop where
  own : ∀ id value, aliases.aliases id = some value → value = id
  counts : ∀ kind, (aliases.aliasCounts kind).getD 0 = count kind
  known : ∀ kind value, (kind, value) ∈ aliases.knownAliasValues ↔
    ∃ n, 1 ≤ n ∧ n ≤ count kind ∧ value = rowId kind n

/-- A result that names rows which are there, and in passing all that are new: each with the
    next number of its kind. -/
inductive Introduces : List (String × Json) → (String → Nat) → (String → Nat) → Prop
  | nil {count : String → Nat} : Introduces [] count count
  | other {name : String} {value : Json} {rest : List (String × Json)} {count count' : String → Nat}
      (other : idPrefix? name = none) (h : Introduces rest count count') :
      Introduces ((name, value) :: rest) count count'
  | known {name kind : String} {n : Nat} {rest : List (String × Json)}
      {count count' : String → Nat} (named : idPrefix? name = some kind) (pos : 1 ≤ n)
      (le : n ≤ count kind) (h : Introduces rest count count') :
      Introduces ((name, .str (rowId kind n)) :: rest) count count'
  | new {name kind : String} {rest : List (String × Json)} {count count' : String → Nat}
      (named : idPrefix? name = some kind)
      (h : Introduces rest (Function.update count kind (count kind + 1)) count') :
      Introduces ((name, .str (rowId kind (count kind + 1))) :: rest) count count'

section Names

variable {aliases : Aliases} {result : List (String × Json)} {count count' : String → Nat}
  {name kind : String}

/-- What a result says besides identifiers introduces nothing. -/
theorem Introduces.text {value : Json} (other : idPrefix? name = none) :
    Introduces [(name, value)] count count := .other other .nil

theorem Introduces.le (h : Introduces result count count') : count ≤ count' := by
  induction h with
  | nil => exact le_rfl
  | other _ _ ih | known _ _ _ _ ih => exact ih
  | new _ _ ih =>
    refine le_trans (fun kind => ?_) ih
    rw [Function.update_apply]
    split_ifs with same
    · rw [same]
      exact Nat.le_succ _
    · exact le_rfl

/-- A result that comes a second time introduces nothing. -/
theorem Introduces.again (h : Introduces result count count') {later : String → Nat}
    (le : count' ≤ later) : Introduces result later later := by
  induction h with
  | nil => exact .nil
  | other other _ ih => exact .other other (ih le)
  | known named pos below h ih => exact .known named pos (below.trans ((h.le.trans le) _)) (ih le)
  | @new name kind _ _ _ named h ih =>
    refine .known named (Nat.le_add_left ..) ?_ (ih le)
    have grown := (h.le.trans le) kind
    rwa [Function.update_self] at grown

theorem Aliases.Canonical.learn_known (canonical : aliases.Canonical count) {n : Nat}
    (named : idPrefix? name = some kind) (pos : 1 ≤ n) (le : n ≤ count kind) :
    aliases.learn (name, .str (rowId kind n)) = aliases := by
  rw [Aliases.learn, named]
  exact if_pos ((canonical.known kind _).2 ⟨n, pos, le, rfl⟩)

/-- The next row of a kind gets the next alias of its kind, which is its own name. -/
theorem Aliases.Canonical.learn_new (canonical : aliases.Canonical count)
    (named : idPrefix? name = some kind) :
    (aliases.learn (name, .str (rowId kind (count kind + 1)))).Canonical
      (Function.update count kind (count kind + 1)) := by
  have new : (kind, rowId kind (count kind + 1)) ∉ aliases.knownAliasValues := by
    intro known
    obtain ⟨n, -, le, same⟩ := (canonical.known kind _).1 known
    have := rowId_injective kind same
    omega
  have learnt : aliases.learn (name, .str (rowId kind (count kind + 1))) =
      { aliases := insertEntry aliases.aliases (rowId kind (count kind + 1))
          (rowId kind (count kind + 1))
        aliasCounts := insertEntry aliases.aliasCounts kind (count kind + 1)
        knownAliasValues := (kind, rowId kind (count kind + 1)) :: aliases.knownAliasValues } := by
    rw [Aliases.learn, named]
    dsimp only
    rw [if_neg new, canonical.counts]
    rfl
  rw [learnt]
  refine ⟨fun id value h => ?_, fun other => ?_, fun other value => ?_⟩
  · dsimp only at h
    by_cases same : id = rowId kind (count kind + 1)
    · rw [same, InMemoryRuntimeStore.insertEntry_self] at h
      rw [same, Option.some.inj h]
    · rw [InMemoryRuntimeStore.insertEntry_of_ne same] at h
      exact canonical.own id value h
  · dsimp only
    by_cases same : other = kind
    · rw [same, InMemoryRuntimeStore.insertEntry_self, Function.update_self]
      rfl
    · rw [InMemoryRuntimeStore.insertEntry_of_ne same, Function.update_of_ne same]
      exact canonical.counts other
  · dsimp only
    rw [List.mem_cons, canonical.known]
    by_cases same : other = kind
    · subst same
      rw [Function.update_self]
      constructor
      · rintro (h | ⟨n, pos, le, rfl⟩)
        · exact ⟨_, Nat.le_add_left .., le_rfl, (Prod.mk.inj h).2⟩
        · exact ⟨n, pos, Nat.le_succ_of_le le, rfl⟩
      · rintro ⟨n, pos, le, rfl⟩
        rcases Nat.le_succ_iff.1 le with le | rfl
        · exact .inr ⟨n, pos, le, rfl⟩
        · exact .inl rfl
    · rw [Function.update_of_ne same]
      constructor
      · rintro (h | h)
        · exact absurd (Prod.mk.inj h).1 same
        · exact h
      · exact .inr

/-- What a result introduces is learnt under its own names. -/
theorem Introduces.learn (h : Introduces result count count')
    (canonical : aliases.Canonical count) :
    (result.foldl Aliases.learn aliases).Canonical count' := by
  induction h generalizing aliases with
  | nil => exact canonical
  | @other name value rest _ _ other _ ih =>
    have same : aliases.learn (name, value) = aliases := by
      unfold Aliases.learn
      split
      · next h =>
        obtain ⟨rfl, -⟩ := Prod.mk.inj h
        rw [other]
      · rfl
    rw [List.foldl_cons, same]
    exact ih canonical
  | known named pos le _ ih =>
    rw [List.foldl_cons, canonical.learn_known named pos le]
    exact ih canonical
  | new named _ ih => exact ih (canonical.learn_new named)

/-- Aliases that are their own change nothing. -/
theorem Aliases.Canonical.named_eq (canonical : aliases.Canonical count) (value : String) :
    aliases.named value = value := by
  rw [Aliases.named]
  cases h : aliases.aliases value with
  | none => rfl
  | some found => exact canonical.own value found h

theorem Aliases.Canonical.posted_eq (canonical : aliases.Canonical count) (index : Nat)
    (action : SimAction) : aliases.posted index action = { action with
      arguments := SimAction.argumentDict action.arguments
      idempotencyKey := some (action.replayKey index) } := by
  have target : (action.targetId.map fun target =>
      if target = "" then target else aliases.named target) = action.targetId := by
    cases action.targetId <;> simp [canonical.named_eq]
  have argument : aliases.namedArgument = id := by
    funext argument
    obtain ⟨name, value⟩ := argument
    cases value <;> simp [Aliases.namedArgument, canonical.named_eq]
  rw [Aliases.posted, target, argument, List.map_id]

end Names

/-! ## Rows and results -/

namespace RunSpace

/-- The number of the rows of a kind. -/
def rowCount (run : RunSpace) (kind : String) : Nat :=
  if kind = "user" then run.user.toList.length
  else if kind = "coupon" then run.coupons.length
  else if kind = "order" then run.orders.length
  else if kind = "refund" then run.refunds.length
  else if kind = "membership" then run.memberships.length
  else if kind = "entitlement" then run.entitlements.length
  else 0

theorem rowCount_eq (run : RunSpace) (kind : String) : run.rowCount kind =
    if kind = "user" then run.user.toList.length
    else if kind = "coupon" then run.coupons.length
    else if kind = "order" then run.orders.length
    else if kind = "refund" then run.refunds.length
    else if kind = "membership" then run.memberships.length
    else if kind = "entitlement" then run.entitlements.length
    else 0 := rfl

/-- Two runs with as many rows of each kind. -/
structure Level (run run' : RunSpace) : Prop where
  user : run'.user.isSome = run.user.isSome
  coupons : run'.coupons.length = run.coupons.length
  orders : run'.orders.length = run.orders.length
  refunds : run'.refunds.length = run.refunds.length
  memberships : run'.memberships.length = run.memberships.length
  entitlements : run'.entitlements.length = run.entitlements.length

variable {run run' run'' : RunSpace} {command : ActionCommand} {key : String} {now : Nat}
  {outcome : Outcome}

theorem Level.rowCount (level : Level run run') : run'.rowCount = run.rowCount := by
  have user : run'.user.toList.length = run.user.toList.length := by
    have := level.user
    cases hu : run'.user <;> cases hu' : run.user <;> simp_all
  funext kind
  rw [rowCount_eq, rowCount_eq, user, level.coupons, level.orders, level.refunds,
    level.memberships, level.entitlements]

theorem Level.rfl : Level run run := ⟨.refl _, .refl _, .refl _, .refl _, .refl _, .refl _⟩

theorem Level.trans (h : Level run run') (h' : Level run' run'') : Level run run'' :=
  ⟨h'.user.trans h.user, h'.coupons.trans h.coupons, h'.orders.trans h.orders,
    h'.refunds.trans h.refunds, h'.memberships.trans h.memberships,
    h'.entitlements.trans h.entitlements⟩

theorem useCoupon_level {order : Order} (h : run.useCoupon key now order = .ok run') :
    Level run run' := by
  rcases useCoupon_ok h with ⟨-, rfl⟩ | ⟨coupon, -, -, -, -, rfl⟩
  · exact .rfl
  · constructor <;> simp

theorem grantPoints_level {user : TestUser} {order : Order} {points : Int} {ledgerKey : String}
    (present : run.user.isSome)
    (h : run.grantPoints key now user order points ledgerKey = .ok run') : Level run run' := by
  rw [grantPoints_ok h]
  constructor <;> simp [present]

theorem releaseCoupon_level {order : Order} (h : run.releaseCoupon key now order = .ok run') :
    Level run run' := by
  rcases releaseCoupon_ok h with rfl | ⟨coupon, -, -, -, -, rfl⟩
  · exact .rfl
  · constructor <;> simp

theorem refundPoints_level {user : TestUser} {order : Order} {amount : Int}
    (present : run.user.isSome) (h : run.refundPoints key now user order amount = .ok run') :
    Level run run' := by
  rcases refundPoints_ok h with ⟨-, rfl⟩ | ⟨-, -, h⟩ | ⟨-, -, h⟩
  · exact .rfl
  · exact grantPoints_level present h
  · rcases revokePoints_ok h with ⟨-, rfl⟩ | ⟨_, -, -, -, rfl⟩
    · exact .rfl
    · constructor <;> simp [present]

theorem restoreCoupon_level {order : Order} (h : run.restoreCoupon key now order = .ok run') :
    Level run run' := by
  rcases restoreCoupon_ok h with rfl | ⟨coupon, -, -, -, rfl⟩
  · exact .rfl
  · constructor <;> simp

theorem revokeEntitlement_level {allowed : Bool} {entitlement : Entitlement}
    (h : run.revokeEntitlement key now allowed entitlement = .ok run') : Level run run' := by
  rcases revokeEntitlement_ok h with ⟨-, rfl⟩ | ⟨-, -, rfl⟩
  · exact .rfl
  · constructor <;> simp

/-! ### New rows -/

theorem nextId_eq {α : Type} {rows : List α} {kind : String} (h : run.rowCount kind = rows.length) :
    nextId rows kind = rowId kind (run.rowCount kind + 1) := by
  rw [h]
  rfl

theorem rowCount_user : run.rowCount "user" = run.user.toList.length := if_pos rfl

theorem rowCount_coupon : run.rowCount "coupon" = run.coupons.length := by simp [rowCount_eq]

theorem rowCount_order : run.rowCount "order" = run.orders.length := by simp [rowCount_eq]

theorem rowCount_refund : run.rowCount "refund" = run.refunds.length := by simp [rowCount_eq]

theorem rowCount_membership : run.rowCount "membership" = run.memberships.length := by
  simp [rowCount_eq]

theorem rowCount_entitlement : run.rowCount "entitlement" = run.entitlements.length := by
  simp [rowCount_eq]

/-- The next row of a kind is counted, and no other one. -/
theorem rowCount_new {kind : String} (one : run'.rowCount kind = run.rowCount kind + 1)
    (others : ∀ other ≠ kind, run'.rowCount other = run.rowCount other) :
    run'.rowCount = Function.update run.rowCount kind (run.rowCount kind + 1) := by
  funext other
  by_cases same : other = kind
  · rw [same, Function.update_self, one]
  · rw [Function.update_of_ne same, others other same]

theorem rowCount_newUser {user : TestUser} (none : run.user = none) :
    (run.setUser user).rowCount =
      Function.update run.rowCount "user" (run.rowCount "user" + 1) := by
  refine rowCount_new (by simp [rowCount_eq, none]) fun other h => ?_
  simp [rowCount_eq, h]

theorem rowCount_addCoupon (coupon : Coupon) : (run.addCoupon coupon).rowCount =
    Function.update run.rowCount "coupon" (run.rowCount "coupon" + 1) := by
  refine rowCount_new (by simp [rowCount_eq]) fun other h => ?_
  simp [rowCount_eq, h]

theorem rowCount_addOrder (order : Order) : (run.addOrder order).rowCount =
    Function.update run.rowCount "order" (run.rowCount "order" + 1) := by
  refine rowCount_new (by simp [rowCount_eq]) fun other h => ?_
  simp [rowCount_eq, h]

theorem rowCount_addMembership (membership : Membership) :
    (run.addMembership membership).rowCount =
      Function.update run.rowCount "membership" (run.rowCount "membership" + 1) := by
  refine rowCount_new (by simp [rowCount_eq]) fun other h => ?_
  simp [rowCount_eq, h]

theorem rowCount_addEntitlement (entitlement : Entitlement) :
    (run.addEntitlement entitlement).rowCount =
      Function.update run.rowCount "entitlement" (run.rowCount "entitlement" + 1) := by
  refine rowCount_new (by simp [rowCount_eq]) fun other h => ?_
  simp [rowCount_eq, h]

theorem rowCount_refunded {user user' : TestUser} {order : Order} {amount : Amount}
    (present : run.user = some user') : (run.refunded user order amount key now).rowCount =
      Function.update run.rowCount "refund" (run.rowCount "refund" + 1) := by
  refine rowCount_new (by simp [rowCount_eq, refunded]) fun other h => ?_
  simp [rowCount_eq, refunded, h, present]

theorem rowCount_activated {user user' : TestUser} {amount quantity : Int} {currency : Currency}
    (present : run.user = some user') :
    (run.activated user amount quantity currency key now).rowCount =
      Function.update (Function.update run.rowCount "membership" (run.rowCount "membership" + 1))
        "entitlement" (run.rowCount "entitlement" + 1) := by
  have level : Level run (run.setUser ((user.pay amount).withMembership .active)) := by
    constructor <;> simp [present]
  change ((run.setUser _).addMembership _ |>.addEntitlement _).rowCount = _
  rw [rowCount_addEntitlement, rowCount_addMembership, level.rowCount,
    Function.update_of_ne (by decide)]

/-! ### Results -/

/-- A row that is found has a number. -/
theorem number_of_getRow {α : Type} {kind : String} {rowKey : α → String} {rows : List α}
    (numbered : Table.Numbered (rowId kind) rowKey rows) {id : String} {missing : Fault} {row : α}
    (h : getRow rowKey rows id missing = .ok row) :
    ∃ n, 1 ≤ n ∧ n ≤ rows.length ∧ rowKey row = rowId kind n := by
  have mem := List.mem_map_of_mem (f := rowKey) (Table.mem_of_find? (getRow_eq_ok.1 h).2)
  rw [numbered] at mem
  obtain ⟨n, range, same⟩ := List.mem_map.1 mem
  have := List.mem_range'_1.1 range
  exact ⟨n, this.1, by omega, same.symm⟩

theorem createUser_introduces (h : run.createUser command key now = .ok (run', outcome)) :
    Introduces outcome.result run.rowCount run'.rowCount := by
  obtain ⟨_, _, -, none, rfl⟩ := createUser_ok h
  simp only [createUser, Checked.bind_eq_ok, Checked.ensure_eq_ok, Checked.pure_eq_ok] at h
  obtain ⟨-, -, ⟨amount, currency⟩, -, -, -, -, -, r, -, h⟩ := h
  obtain rfl := (Prod.mk.inj h).2
  have first : "user-1" = rowId "user" (run.rowCount "user" + 1) := by
    rw [rowCount_user, none]
    decide
  change Introduces [("user_id", .str "user-1"), _] _ (run.setUser _).rowCount
  rw [rowCount_newUser none, first]
  exact .new (by decide) (.text (by decide))

theorem issueCoupon_introduces (h : run.issueCoupon command key now = .ok (run', outcome)) :
    Introduces outcome.result run.rowCount run'.rowCount := by
  obtain ⟨_, _, _, _, -, -, -, rfl⟩ := issueCoupon_ok h
  simp only [issueCoupon, Checked.bind_eq_ok, Checked.ensure_eq_ok, Checked.pure_eq_ok] at h
  obtain ⟨-, -, user, -, ⟨value, _⟩, -, ⟨threshold, _⟩, -, -, -, -, -, r, -, h⟩ := h
  obtain rfl := (Prod.mk.inj h).2
  change Introduces (("coupon_id", .str (nextId run.coupons "coupon")) :: _) _
    (run.addCoupon _).rowCount
  rw [rowCount_addCoupon, nextId_eq rowCount_coupon]
  exact .new (by decide) (.other (by decide) (.text (by decide)))

theorem createOrder_introduces (h : run.createOrder command key now = .ok (run', outcome)) :
    Introduces outcome.result run.rowCount run'.rowCount := by
  obtain ⟨_, _, _, -, -, rfl⟩ := createOrder_ok h
  simp only [createOrder, Checked.bind_eq_ok, Checked.ensure_eq_ok, Checked.pure_eq_ok] at h
  obtain ⟨-, -, user, -, ⟨amount, _⟩, -, -, -, -, -, r, -, h⟩ := h
  obtain rfl := (Prod.mk.inj h).2
  change Introduces (("order_id", .str (nextId run.orders "order")) :: _) _
    (run.addOrder _).rowCount
  rw [rowCount_addOrder, nextId_eq rowCount_order]
  exact .new (by decide) (.text (by decide))

theorem applyCoupon_introduces (identified : Identified run)
    (h : run.applyCoupon command key now = .ok (run', outcome)) :
    Introduces outcome.result run.rowCount run'.rowCount := by
  have level : Level run run' := by
    obtain ⟨_, _, -, -, -, -, -, rfl⟩ := applyCoupon_ok h
    constructor <;> simp
  simp only [applyCoupon, Checked.bind_eq_ok, Checked.ensure_eq_ok, Checked.pure_eq_ok] at h
  obtain ⟨-, -, _, -, order, ho, -, -, _, -, coupon, hc, -, -, -, -, -, -, -, -, r, -, h⟩ := h
  obtain rfl := (Prod.mk.inj h).2
  obtain ⟨n, pos, le, named⟩ := number_of_getRow identified.orders ho
  obtain ⟨m, pos', le', named'⟩ := number_of_getRow identified.coupons hc
  have below : n ≤ run.rowCount "order" := rowCount_order ▸ le
  have below' : m ≤ run.rowCount "coupon" := rowCount_coupon ▸ le'
  rw [level.rowCount]
  change Introduces [("order_id", .str order.id), ("coupon_id", .str coupon.id), _] _ _
  rw [named, named']
  exact .known (by decide) pos below (.known (by decide) pos' below' (.text (by decide)))

theorem payOrder_introduces (identified : Identified run)
    (h : run.payOrder command key now = .ok (run', outcome)) :
    Introduces outcome.result run.rowCount run'.rowCount := by
  obtain ⟨_, user, r, -, -, -, present, -, -, used, paid⟩ := payOrder_ok h
  have captured : Level run r :=
    Level.trans (by constructor <;> simp [present]) (useCoupon_level used)
  have level : Level run run' := by
    rcases paid with ⟨-, rfl⟩ | ⟨-, granted⟩
    · exact captured.trans (by constructor <;> simp)
    · refine Level.trans ?_ (grantPoints_level ?_ granted)
      · exact captured.trans (by constructor <;> simp)
      · change r.user.isSome
        rw [captured.user, present]
        rfl
  simp only [payOrder, Checked.bind_eq_ok, Checked.ensure_eq_ok] at h
  obtain ⟨-, -, _, -, order, ho, -, -, -, -, _, -, -, -, -, -, _, -, _, -, h⟩ := h
  obtain ⟨n, pos, le, named⟩ := number_of_getRow identified.orders ho
  rw [level.rowCount]
  have below : n ≤ run.rowCount "order" := rowCount_order ▸ le
  split at h
  · simp only [Checked.bind_eq_ok, Checked.pure_eq_ok] at h
    obtain ⟨_, -, h⟩ := h
    obtain rfl := (Prod.mk.inj h).2
    change Introduces [("order_id", .str order.id), _, _] _ _
    rw [named]
    exact .known (by decide) pos below (.other (by decide) (.text (by decide)))
  · obtain rfl := (Prod.mk.inj (Checked.pure_eq_ok.1 h)).2
    change Introduces [("order_id", .str order.id), _] _ _
    rw [named]
    exact .known (by decide) pos below (.text (by decide))

theorem cancelOrder_introduces (identified : Identified run)
    (h : run.cancelOrder command key now = .ok (run', outcome)) :
    Introduces outcome.result run.rowCount run'.rowCount := by
  have level : Level run run' := by
    obtain ⟨_, r, -, -, released, rfl⟩ := cancelOrder_ok h
    exact (releaseCoupon_level released).trans (by constructor <;> simp)
  simp only [cancelOrder, Checked.bind_eq_ok, Checked.ensure_eq_ok, Checked.pure_eq_ok] at h
  obtain ⟨-, -, _, -, order, ho, -, -, _, -, _, -, h⟩ := h
  obtain rfl := (Prod.mk.inj h).2
  obtain ⟨n, pos, le, named⟩ := number_of_getRow identified.orders ho
  have below : n ≤ run.rowCount "order" := rowCount_order ▸ le
  rw [level.rowCount]
  change Introduces [("order_id", .str order.id), _] _ _
  rw [named]
  exact .known (by decide) pos below (.text (by decide))

theorem refundOrder_introduces (identified : Identified run)
    (h : run.refundOrder command key now = .ok (run', outcome)) :
    Introduces outcome.result run.rowCount run'.rowCount := by
  have counted : run'.rowCount =
      Function.update run.rowCount "refund" (run.rowCount "refund" + 1) := by
    obtain ⟨_, user, amount, r, -, -, -, -, -, -, present, points, restored, -⟩ := refundOrder_ok h
    rw [((refundPoints_level (by rfl) points).trans (restoreCoupon_level restored)).rowCount]
    exact rowCount_refunded present
  simp only [refundOrder, Checked.bind_eq_ok, Checked.ensure_eq_ok, Checked.pure_eq_ok] at h
  obtain ⟨-, -, _, -, order, ho, -, -, ⟨_, _⟩, -, -, -, -, -, _, -, _, -, _, -, _, -, h⟩ := h
  obtain rfl := (Prod.mk.inj h).2
  obtain ⟨n, pos, le, named⟩ := number_of_getRow identified.orders ho
  have below : n ≤ Function.update run.rowCount "refund" (run.rowCount "refund" + 1) "order" := by
    rw [Function.update_of_ne (by decide), rowCount_order]
    exact le
  rw [counted]
  change Introduces [("refund_id", .str (nextId run.refunds "refund")),
    ("order_id", .str order.id), _, _] _ _
  rw [nextId_eq rowCount_refund, named]
  exact .new (by decide) (.known (by decide) pos below (.other (by decide) (.text (by decide))))

theorem redeemPoints_introduces (owned : Owned run)
    (h : run.redeemPoints command key now = .ok (run', outcome)) :
    Introduces outcome.result run.rowCount run'.rowCount := by
  have level : Level run run' := by
    obtain ⟨user, amount, present, -, -, rfl⟩ := redeemPoints_ok h
    constructor <;> simp [present]
  simp only [redeemPoints, Checked.bind_eq_ok, Checked.ensure_eq_ok, Checked.pure_eq_ok] at h
  obtain ⟨-, -, amount, -, user, hu, -, -, _, -, h⟩ := h
  obtain rfl := (Prod.mk.inj h).2
  have present := ((getUser_eq_ok _).1 hu).2.1
  have named : user.id = rowId "user" 1 := (owned.user user present).trans (by decide)
  have below : 1 ≤ run.rowCount "user" := by
    rw [rowCount_user, present]
    exact le_rfl
  rw [level.rowCount]
  change Introduces [("user_id", .str user.id), _] _ _
  rw [named]
  exact .known (by decide) le_rfl below (.text (by decide))

theorem activateMembership_introduces
    (h : run.activateMembership command key now = .ok (run', outcome)) :
    Introduces outcome.result run.rowCount run'.rowCount := by
  have counted : run'.rowCount =
      Function.update (Function.update run.rowCount "membership" (run.rowCount "membership" + 1))
        "entitlement" (run.rowCount "entitlement" + 1) := by
    obtain ⟨user, amount, quantity, currency, present, -, -, -, -, rfl⟩ := activateMembership_ok h
    change (run.activated user amount quantity currency key now).rowCount = _
    exact rowCount_activated present
  simp only [activateMembership, Checked.bind_eq_ok, Checked.ensure_eq_ok,
    Checked.pure_eq_ok] at h
  obtain ⟨-, -, user, -, ⟨_, _⟩, -, quantity, -, -, -, -, -, -, -, _, -, _, -, h⟩ := h
  obtain rfl := (Prod.mk.inj h).2
  have granted : run.rowCount "entitlement" = Function.update run.rowCount "membership"
      (run.rowCount "membership" + 1) "entitlement" :=
    (Function.update_of_ne (by decide) ..).symm
  rw [counted]
  change Introduces [("membership_id", .str (nextId run.memberships "membership")),
    ("entitlement_id", .str (nextId run.entitlements "entitlement")), _] _ _
  rw [nextId_eq rowCount_membership, nextId_eq rowCount_entitlement, granted]
  exact .new (by decide) (.new (by decide) (.text (by decide)))

theorem consumeEntitlement_introduces (identified : Identified run)
    (h : run.consumeEntitlement command key now = .ok (run', outcome)) :
    Introduces outcome.result run.rowCount run'.rowCount := by
  have level : Level run run' := by
    obtain ⟨_, _, -, -, -, -, -, rfl⟩ := consumeEntitlement_ok h
    constructor <;> simp
  simp only [consumeEntitlement, Checked.bind_eq_ok, Checked.ensure_eq_ok,
    Checked.pure_eq_ok] at h
  obtain ⟨-, -, quantity, -, _, -, entitlement, he, -, -, -, -, _, -, h⟩ := h
  obtain rfl := (Prod.mk.inj h).2
  obtain ⟨n, pos, le, named⟩ := number_of_getRow identified.entitlements he
  have below : n ≤ run.rowCount "entitlement" := rowCount_entitlement ▸ le
  rw [level.rowCount]
  change Introduces [("entitlement_id", .str entitlement.id), _] _ _
  rw [named]
  exact .known (by decide) pos below (.text (by decide))

theorem cancelMembership_introduces (identified : Identified run)
    (h : run.cancelMembership command key now = .ok (run', outcome)) :
    Introduces outcome.result run.rowCount run'.rowCount := by
  have level : Level run run' := by
    obtain ⟨_, user, _, r, -, -, present, -, ⟨-, revoked, rfl⟩ | ⟨revoked, rfl⟩⟩ :=
      cancelMembership_ok h <;>
    · refine Level.trans ?_ ((revokeEntitlement_level revoked).trans ?_)
      · constructor <;> simp [present]
      · constructor <;> simp
  simp only [cancelMembership, Checked.bind_eq_ok, Checked.ensure_eq_ok] at h
  obtain ⟨-, -, refundRequested, -, _, -, membership, hm, -, -, _, -, _, -, h⟩ := h
  obtain ⟨n, pos, le, named⟩ := number_of_getRow identified.memberships hm
  have below : n ≤ run.rowCount "membership" := rowCount_membership ▸ le
  rw [level.rowCount]
  cases refundRequested with
  | true =>
    simp only [if_true, Checked.bind_eq_ok, Checked.ensure_eq_ok, Checked.pure_eq_ok] at h
    obtain ⟨-, -, _, -, _, -, h⟩ := h
    obtain rfl := (Prod.mk.inj h).2
    change Introduces [("membership_id", .str membership.id), _, _] _ _
    rw [named]
    exact .known (by decide) pos below (.other (by decide) (.text (by decide)))
  | false =>
    simp only [Bool.false_eq_true, if_false, Checked.bind_eq_ok, Checked.pure_eq_ok] at h
    obtain ⟨_, -, _, -, h⟩ := h
    obtain rfl := (Prod.mk.inj h).2
    change Introduces [("membership_id", .str membership.id), _] _ _
    rw [named]
    exact .known (by decide) pos below (.text (by decide))

theorem inspectState_introduces [Python]
    (h : run.inspectState command now = .ok (run', outcome)) :
    Introduces outcome.result run.rowCount run'.rowCount := by
  obtain rfl := inspectState_ok h
  simp only [inspectState, Checked.bind_eq_ok, Checked.pure_eq_ok] at h
  obtain ⟨-, -, scope, -, h⟩ := h
  obtain rfl := (Prod.mk.inj h).2
  exact .other (by decide) (.text (by decide))

/-- What a handler creates is in its result, and every row that it names is there. -/
theorem handler_introduces [Python] (identified : Identified run) (owned : Owned run)
    (h : run.handler command key now = .ok (run', outcome)) :
    Introduces outcome.result run.rowCount run'.rowCount := by
  unfold handler at h
  split at h
  · exact createUser_introduces h
  · exact issueCoupon_introduces h
  · exact createOrder_introduces h
  · exact applyCoupon_introduces identified h
  · exact payOrder_introduces identified h
  · exact cancelOrder_introduces identified h
  · exact refundOrder_introduces identified h
  · exact redeemPoints_introduces owned h
  · exact activateMembership_introduces h
  · exact consumeEntitlement_introduces identified h
  · exact cancelMembership_introduces identified h
  · exact inspectState_introduces h

/-- What a command that is committed creates is in its receipt. -/
theorem perform_introduces [Python] {record : ActionReceiptRecord} (identified : Identified run)
    (owned : Owned run) (h : run.perform command key now = .ok (run', record)) :
    Introduces record.result run.rowCount run'.rowCount := by
  rcases perform_ok h with ⟨-, ⟨r, outcome, hd, rfl, -, rfl⟩ | ⟨error, -, rfl, rfl⟩⟩
  · change Introduces outcome.result run.rowCount r.rowCount
    exact handler_introduces identified owned (dispatch_ok hd).1
  · exact .nil

/-- What a receipt of this epoch names is there. -/
theorem Reachable.introduced [Python] (h : Reachable run) :
    ∀ record ∈ run.epochReceipts, Introduces record.result run.rowCount run.rowCount := by
  refine h.induct (P := fun run => ∀ record ∈ run.epochReceipts,
    Introduces record.result run.rowCount run.rowCount)
    (by simp [createRun, epochReceipts]) fun run op hr ih => ?_
  cases op with
  | reset =>
    intro record hm
    rw [RunSpace.apply, hr.epochReceipts_reset] at hm
    cases hm
  | execute command uuid now =>
    rw [RunSpace.apply]
    rcases execute_cases run command now uuid with e | ⟨added, -, performed, -⟩
    · rw [e]
      exact ih
    · have introduced := perform_introduces hr.identified hr.owned performed
      rw [perform_receipts performed]
      intro record hm
      rcases List.mem_append.1 hm with hm | hm
      · exact (ih record hm).again introduced.le
      · rw [List.mem_singleton.1 hm]
        exact introduced.again le_rfl

/-- What a command creates is in the receipt that answers it, unless the answer is lost. -/
theorem execute_introduces [Python] (reachable : Reachable run)
    (answered : run.profile.losesRefundAcknowledgement = false) {uuid : String}
    {receipt : ActionReceipt}
    (h : Replay.receiptOf (run.execute command now uuid).1 key (run.execute command now uuid).2 =
      .ok receipt) :
    Introduces receipt.result run.rowCount (run.execute command now uuid).1.rowCount := by
  have answer (record : ActionReceiptRecord) :
      run.acknowledge command record = .receipt (record.toReceipt run.id) := by
    rw [acknowledge, answered]
    exact if_neg nofun
  unfold execute at h ⊢
  split at h
  · cases h
  · rename_i required
    rw [if_neg required]
    dsimp only at h ⊢
    split at h
    · cases h
    · rename_i clean
      rw [if_neg clean]
      cases existing : run.existing command.action (effectiveKey command uuid) with
      | some record =>
        simp only [existing, answer] at h ⊢
        obtain rfl := Except.ok.inj h
        exact reachable.introduced record (List.mem_of_find?_eq_some existing)
      | none =>
        cases performed : run.perform command (effectiveKey command uuid) now with
        | ok done =>
          obtain ⟨run', record⟩ := done
          simp only [existing, performed, answer] at h ⊢
          obtain rfl := Except.ok.inj h
          exact perform_introduces reachable.identified reachable.owned performed
        | error fault =>
          cases fault <;> simp only [existing, performed] at h <;> cases h

/-- No command changes the environment of a run. -/
theorem execute_profile [Python] (run : RunSpace) (command : ActionCommand) (now : Nat)
    (uuid : String) : (run.execute command now uuid).1.profile = run.profile := by
  rcases execute_cases run command now uuid with e | ⟨record, -, performed, -⟩
  · rw [e]
  · rcases perform_ok performed with ⟨-, ⟨r, outcome, hd, -, -, e⟩ | ⟨error, -, -, e⟩⟩ <;> rw [e]
    · exact (handler_frame (dispatch_ok hd).1).profile
    · rfl

end RunSpace

/-! ## What a replay posts -/

/-- The payload of an action with the target and the arguments of the trace. -/
def SimAction.written (action : SimAction) (index : Nat) : SimAction :=
  { action with
    arguments := argumentDict action.arguments
    idempotencyKey := some (action.replayKey index) }

namespace Replay

variable [Python] {replay : Replay}

/-- The aliases of a replay are the rows of its run, whose answers all come back. -/
structure Aligned (replay : Replay) : Prop where
  reachable : RunSpace.Reachable replay.run
  answered : replay.run.profile.losesRefundAcknowledgement = false
  canonical : replay.aliases.Canonical replay.run.rowCount

theorem aligned_start {request : CreateRunRequest} (runId : String) (capturedAt : Nat)
    (answered : .refundAckLost ∉ (SandboxProfile.forRun request.sandboxVersion
      request.defectAxes).axes) : (start request runId capturedAt).Aligned where
  reachable := ⟨request, runId, [], rfl⟩
  answered := decide_eq_false answered
  canonical := by
    have empty : (createRun request runId).rowCount = fun _ => 0 := by
      funext kind
      simp [RunSpace.rowCount, createRun]
    refine ⟨?_, ?_, ?_⟩
    · intro id value h
      cases h
    · intro kind
      rw [start, empty]
      rfl
    · intro kind value
      rw [start, empty]
      refine ⟨fun known => ?_, ?_⟩
      · cases known
      · rintro ⟨n, pos, le, -⟩
        exact absurd (pos.trans le) (Nat.not_succ_le_zero 0)

/-- A step of a replay: the action is posted as it is written, and the aliases stay aligned for
    the next one. -/
theorem Aligned.post (aligned : replay.Aligned) (index : Nat) (moment : Moment)
    (action : SimAction) :
    (replay.post index moment action).1.posted = replay.posted ++ [action.written index] ∧
    (∀ id value, (replay.post index moment action).1.aliases.aliases id = some value →
      value = id) ∧
    ((replay.post index moment action).2 = none →
      (replay.post index moment action).1.Aligned) := by
  have payload : replay.aliases.posted index action = action.written index :=
    aligned.canonical.posted_eq index action
  unfold Replay.post
  rw [payload]
  dsimp only
  split_ifs
  · exact ⟨rfl, aligned.canonical.own, nofun⟩
  cases (action.written index).command? with
  | none => exact ⟨rfl, aligned.canonical.own, nofun⟩
  | some command =>
    dsimp only [execute]
    cases answer : receiptOf (replay.run.execute command moment.now moment.uuid).1
      (action.replayKey index) (replay.run.execute command moment.now moment.uuid).2 with
    | error error => exact ⟨rfl, aligned.canonical.own, nofun⟩
    | ok receipt =>
      have introduced := RunSpace.execute_introduces aligned.reachable aligned.answered answer
      have canonical := introduced.learn aligned.canonical
      refine ⟨rfl, canonical.own, fun _ => ⟨?_, ?_, canonical⟩⟩
      · exact aligned.reachable.apply (.execute command moment.uuid moment.now)
      · exact (congrArg _ (RunSpace.execute_profile ..)).trans aligned.answered

/-- A run of steps: what is posted is a first part of the actions as they are written, and all of
    them if the replay does not fail. -/
theorem Aligned.actions (aligned : replay.Aligned) (moments : Nat → Moment) (index : Nat)
    (trace : List SimAction) :
    (∃ more, more <+: trace.mapIdx (fun i action => action.written (index + i)) ∧
      (replay.actions moments index trace).1.posted = replay.posted ++ more ∧
      ((replay.actions moments index trace).2 = none → more.length = trace.length)) ∧
    ∀ id value, (replay.actions moments index trace).1.aliases.aliases id = some value →
      value = id := by
  induction trace generalizing replay index with
  | nil => exact ⟨⟨[], List.nil_prefix, (List.append_nil _).symm, fun _ => rfl⟩,
      aligned.canonical.own⟩
  | cons action rest ih =>
    obtain ⟨posted, own, next⟩ := aligned.post index (moments index) action
    rw [Replay.actions]
    have later : (fun i (action : SimAction) => action.written (index + (i + 1))) =
        fun i action => action.written (index + 1 + i) := by
      funext i action
      rw [Nat.add_assoc, Nat.add_comm 1 i]
    rw [List.mapIdx_cons, later]
    rcases step : replay.post index (moments index) action with ⟨replay', _ | error⟩
    · rw [step] at posted own next
      obtain ⟨⟨more, initial, posted', all⟩, own'⟩ := ih (next rfl) (index + 1)
      refine ⟨⟨action.written index :: more, (List.prefix_cons_inj _).2 initial, ?_, ?_⟩, own'⟩
      · dsimp only at posted' posted ⊢
        rw [posted', posted, List.append_assoc]
        rfl
      · intro ended
        rw [List.length_cons, List.length_cons, all ended]
    · rw [step] at posted own
      refine ⟨⟨[action.written index], ?_, posted, nofun⟩, own⟩
      exact (List.prefix_cons_inj _).2 List.nil_prefix

end Replay

/-- In an environment that loses no acknowledgement no alias stands for anything but itself, and
    every action of the trace that is posted has the target and the arguments it is written
    with. -/
theorem replay_posts [Python] (request : CreateRunRequest)
    (answered : .refundAckLost ∉ (SandboxProfile.forRun request.sandboxVersion
      request.defectAxes).axes)
    (runId : String) (capturedAt : Nat) (moments : Nat → Moment) (trace : List SimAction) :
    let ended := (Replay.start request runId capturedAt).actions moments 0 trace
    (∀ id value, ended.1.aliases.aliases id = some value → value = id) ∧
    ended.1.posted <+: trace.mapIdx (fun index action => action.written index) ∧
    (ended.2 = none →
      ended.1.posted = trace.mapIdx (fun index action => action.written index)) := by
  obtain ⟨⟨more, initial, posted, all⟩, own⟩ :=
    (Replay.aligned_start runId capturedAt answered).actions moments 0 trace
  simp only [Nat.zero_add] at initial
  rw [show (Replay.start request runId capturedAt).posted = [] from rfl, List.nil_append] at posted
  refine ⟨own, posted ▸ initial, fun none => posted.trans (initial.eq_of_length ?_)⟩
  rw [all none, List.length_mapIdx]

/-- A trace with a rejected order and one that is placed twice under one key. -/
def orderTwice : List SimAction := [
  { actionType := .createUser, arguments := [("initial_balance", .str "100.00")] },
  { actionType := .createOrder, arguments := [("amount", .str "0.00")] },
  { actionType := .createOrder, arguments := [("amount", .str "10.00")],
    idempotencyKey := some "order" },
  { actionType := .createOrder, arguments := [("amount", .str "10.00")],
    idempotencyKey := some "order" },
  { actionType := .payOrder, targetId := some "order-1" }]

theorem replay_posts_orderTwice :
    let _ := Python.transparent
    let ended := (Replay.start { scenarioType := .promotion } "run" 0).actions (fun _ => {}) 0
      orderTwice
    ended.2 = none ∧ ended.1.aliases.aliases "order-1" = some "order-1" ∧
      ended.1.posted = orderTwice.mapIdx (fun index action => action.written index) := by
  intro _ ended
  have finishes : ended.2 = none := by decide +kernel
  exact ⟨finishes, by decide +kernel,
    (replay_posts { scenarioType := .promotion } (by decide) "run" 0 (fun _ => {}) orderTwice).2.2
      finishes⟩

end RuleArena
