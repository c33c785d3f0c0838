import RuleArena.Sandbox.RunSpace

/-!
# Commands and their arguments

A command carries its arguments as the members of a JSON object, of any shape.
The parsers here are the ones every handler shares: they accept a value or
reject the command, and are exact about which values they accept.
-/

namespace RuleArena

/-- A command that passed the request schema. -/
structure ActionCommand where
  action : ActionName
  actorId : String
  targetId : Option String := none
  arguments : List (String × Json) := []
  idempotencyKey : Option String := none
  actor_length : 1 ≤ actorId.length ∧ actorId.length ≤ 128 := by decide
  target_length : ∀ target ∈ targetId, target.length ≤ 128 := by decide
  key_length : ∀ key ∈ idempotencyKey, 1 ≤ key.length ∧ key.length ≤ 256 := by decide

namespace ActionCommand

theorem user_length : 1 ≤ "user-1".length ∧ "user-1".length ≤ 128 := by decide

theorem no_target : ∀ target ∈ (none : Option String), target.length ≤ 128 := by decide

theorem no_key : ∀ key ∈ (none : Option String), 1 ≤ key.length ∧ key.length ≤ 256 := by decide

variable (command : ActionCommand)

def requiresIdempotencyKey : Bool := command.action ≠ .inspectState

def argumentNames : List String := command.arguments.map Prod.fst

/-- `command.arguments[name]`, for a name that is there. -/
def argument (name : String) : Json := (Json.obj command.arguments).get name

/-- `command.target_id or command.actor_id` -/
def targetOrActor : String :=
  match command.targetId with
  | some target => if target = "" then command.actorId else target
  | none => command.actorId

/-- `_args`: no argument is unknown and none is missing. -/
def checkArgs (allowed required : List String) : Except Fault Unit := do
  let unknown := command.argumentNames.filter (· ∉ allowed)
  ensure (unknown = []) (.domain {
    code := "UNKNOWN_ARGUMENT", message := "unknown action argument",
    details := [("fields", .arr ((unknown.insertionSort (· ≤ ·)).map .str))] })
  let missing := required.filter (· ∉ command.argumentNames)
  ensure (missing = []) (.domain {
    code := "MISSING_ARGUMENT", message := "required action argument is missing",
    details := [("fields", .arr ((missing.insertionSort (· ≤ ·)).map .str))] })

/-- `_target`: the target of the command, by the name it goes by. -/
def target (name : String) : Except Fault String :=
  match command.targetId with
  | some target => do
    ensure (target ≠ "") (.reject "TARGET_REQUIRED" (name ++ " is required"))
    return target
  | none => throw (.reject "TARGET_REQUIRED" (name ++ " is required"))

theorem target_eq_ok {name id : String} :
    command.target name = .ok id ↔ command.targetId = some id ∧ id ≠ "" := by
  unfold target
  cases command.targetId with
  | none => simp
  | some t =>
    simp only [Checked.bind_eq_ok, Checked.ensure_eq_ok, Checked.pure_eq_ok, exists_const,
      Option.some.injEq]
    constructor
    · rintro ⟨h, rfl⟩; exact ⟨rfl, h⟩
    · rintro ⟨rfl, h⟩; exact ⟨h, rfl⟩

end ActionCommand

/-! ## Values -/

def invalidArgument (message : String) : Fault := .reject "INVALID_ARGUMENT" message

def invalidMoney (message : String) : Fault := .reject "INVALID_MONEY" message

/-- `_string` -/
def stringArgument (value : Json) (field : String) : Except Fault String :=
  match value with
  | .str s => do
    ensure (s ≠ "") (invalidArgument (field ++ " must be a non-empty string"))
    return s
  | _ => throw (invalidArgument (field ++ " must be a non-empty string"))

/-- `_strict_bool` -/
def strictBool (value : Json) (field : String) : Except Fault Bool :=
  match value with
  | .bool b => return b
  | _ => throw (invalidArgument (field ++ " must be boolean"))

/-- `_positive_int`. Of the texts it takes those `str` gives of a positive
    number, of the floating-point numbers none: `str` gives a point or an
    exponent. A number too long for `str` is read, but cannot be compared. -/
def positiveInt (value : Json) (field : String) : Except Fault Int :=
  let invalid := invalidArgument (field ++ " must be a positive integer")
  match value with
  | .int i => do
    ensure (0 < i) invalid
    ensure ((toString i).length ≤ 4300) (.crash .valueError)
    return i
  | .str s =>
    match canonicalInt? s with
    | some i => do
      ensure (0 < i) invalid
      return i
    | none => throw invalid
  | .float (.inf _) => throw (.crash .overflowError)
  | _ => throw invalid

theorem pos_of_positiveInt {value : Json} {field : String} {i : Int}
    (h : positiveInt value field = .ok i) : 0 < i := by
  unfold positiveInt at h
  split at h
  · simp only [Checked.bind_eq_ok, Checked.ensure_eq_ok, Checked.pure_eq_ok] at h
    obtain ⟨-, hp, -, -, rfl⟩ := h
    exact hp
  · split at h
    · simp at h; omega
    · simp at h
  · simp at h
  · simp at h

/-- The amount and the currency a monetary argument names. -/
def rawMoney (value : Json) (field : String) : Except Fault (Json × Json) :=
  match value with
  | .obj members => do
    ensure ((∀ m ∈ members, m.1 = "amount" ∨ m.1 = "currency") ∧
        "amount" ∈ members.map Prod.fst)
      (invalidMoney (field ++ " must contain amount and currency"))
    return (value.get "amount", (value.get? "currency").getD (.str "CNY"))
  | _ => return (value, .str "CNY")

/-- `Decimal(raw_amount)`, or `none` where the amount is no numeral. -/
def rawDecimal (rawAmount : Json) (field : String) : Except Fault (Option PyDecimal) :=
  match rawAmount with
  | .str s => return PyDecimal.parse s
  | .int i => return some (PyDecimal.ofInt i)
  | _ => throw (invalidMoney (field ++ " must use a decimal string amount"))

/-- `_money` -/
def money (value : Json) (field : String) : Except Fault (Amount × Currency) := do
  let raw ← rawMoney value field
  let decimal ← rawDecimal raw.1 field
  match decimal.bind PyDecimal.quantize, Currency.ofJson? raw.2 with
  | some (.inl amount), some currency =>
    ensure (0 ≤ amount.toInt) (invalidMoney (field ++ " must be non-negative"))
    return (amount, currency)
  | some (.inr ()), some _ => throw (invalidMoney (field ++ " must be non-negative"))
  | _, _ => throw (invalidMoney (field ++ " is not a valid monetary value"))

/-- An accepted amount is not negative. -/
theorem nonneg_of_money {value : Json} {field : String} {amount : Amount} {currency : Currency}
    (h : money value field = .ok (amount, currency)) : 0 ≤ amount.toInt := by
  simp only [money, Checked.bind_eq_ok] at h
  obtain ⟨raw, -, decimal, -, h⟩ := h
  split at h
  · simp only [Checked.bind_eq_ok, Checked.ensure_eq_ok, Checked.pure_eq_ok, Prod.mk.injEq] at h
    obtain ⟨_, ha, rfl, -⟩ := h
    exact ha
  · simp at h
  · simp at h

/-- What is written as an amount is accepted as that amount. -/
theorem money_text {amount : Amount} (h : 0 ≤ amount.toInt) (small : amount.cents < 10 ^ 28)
    (field : String) : money (.str amount.text) field = .ok (amount, .cny) := by
  have digits : numDigits amount.cents ≤ 10 ^ 18 :=
    ((numDigits_le_iff (by omega)).2 small).trans (by norm_num)
  have read : (PyDecimal.parse amount.text).bind PyDecimal.quantize = some (.inl amount) := by
    rw [PyDecimal.parse_text digits, Option.bind_some, PyDecimal.quantize_amount small]
  have currency : Currency.ofJson? (.str "CNY") = some .cny := by decide
  simp [money, rawMoney, rawDecimal, read, currency, Checked.ensure_of_pos h]

/-- `_amount_text` of an amount that is stored. -/
def amountText (cents : Int) : String := (Amount.ofInt cents).text

/-- `_points_for`: a point for each full unit. -/
def pointsFor (cents : Int) : Int := cents / 100

example : money (.str "12.345") "amount" = .ok (⟨false, 1235⟩, .cny) := by decide

example : money (.obj [("amount", .int 7), ("currency", .str "USD")]) "amount" =
    .ok (⟨false, 700⟩, .usd) := by decide

end RuleArena
