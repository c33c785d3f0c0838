import RuleArena.Foundation.Decimal
import RuleArena.Foundation.Json

/-!
# Values as Python sees them

What Python makes of a value it has read: its truth, its text (`str`), its
integer (`int`), and whether it is in a set. What the standard library computes
and the model has no use to compute itself is a parameter, `Python`.
-/

namespace RuleArena

/-- What the model takes from Python: the hexadecimal SHA-256 digest of a text in
    UTF-8, the ISO text of a time, and the text of a value that is no text. -/
class Python where
  sha256 : String → String
  isoformat : Nat → String
  repr : Json → String

/-- A stand-in for the library, to compute with: the digest of a text is the text
    itself behind a mark, and the text of a time its number. -/
@[reducible] def Python.transparent : Python where
  sha256 text := "sha256:" ++ text
  isoformat now := toString now
  repr _ := "..."

/-- The exceptions that reading a value can raise. -/
inductive PyException
  | typeError
  | valueError
  | overflowError
  | invalidOperation
  | decimalOverflow
  deriving DecidableEq, Repr

/-! ## Integers -/

/-- The integer whose `str` a text is, if there is one: what `int(text)` reads,
    provided `str` gives the text back. `int` refuses more than 4300 digits, and a sign is
    none. -/
def canonicalInt? (text : String) : Option Int :=
  let digits := text.toList.dropWhile (· = '-')
  if digits.length ≤ 4300 then
    let n : Int := ofDigits (digitValues digits)
    if toString n = text then some n
    else if toString (-n) = text then some (-n)
    else none
  else none

/-- The digits of an integer literal: underscores may stand between digits. -/
def spanUnderscored : List Char → List Nat × List Char
  | c :: '_' :: d :: cs =>
    match digitValue? c, digitValue? d with
    | some n, some _ =>
      let (ns, rest) := spanUnderscored (d :: cs)
      (n :: ns, rest)
    | some n, none => ([n], '_' :: d :: cs)
    | none, _ => ([], c :: '_' :: d :: cs)
  | c :: cs =>
    match digitValue? c with
    | some n =>
      let (ns, rest) := spanUnderscored cs
      (n :: ns, rest)
    | none => ([], c :: cs)
  | [] => ([], [])

/-- `int(text)`: white space around it is ignored, and more than 4300 digits are
    refused. -/
def parseInt (text : String) : Option Int :=
  let (negative, cs) := spanSign (strip text.toList)
  match spanUnderscored cs with
  | ([], _) => none
  | (ds, []) =>
    if ds.length ≤ 4300 then
      let n : Int := ofDigits ds
      some (if negative then -n else n)
    else none
  | _ => none

namespace Json

/-- `bool(value)` -/
def truthy : Json → Bool
  | null => false
  | bool b => b
  | int i => i ≠ 0
  | float (.finite _ isZero _) => !isZero
  | float _ => true
  | str s => s ≠ ""
  | arr items => items ≠ []
  | obj members => members ≠ []

/-- `int(value)` -/
def toInt : Json → Except PyException Int
  | bool b => return if b then 1 else 0
  | int i => return i
  | float (.finite trunc _ _) => return trunc
  | float (.inf _) => throw .overflowError
  | float .nan => throw .valueError
  | str s =>
    match parseInt s with
    | some i => return i
    | none => throw .valueError
  | _ => throw .typeError

/-- `str(value)` of a value that `json.loads` may give: no integer in it has more than 4300 digits,
    which `str` would refuse. -/
def toStr [Python] : Json → String
  | str s => s
  | value => Python.repr value

@[simp] theorem toStr_str [Python] (s : String) : (str s).toStr = s := rfl

/-- `value in names`: a list or an object cannot be looked up in a set. -/
def isIn (value : Json) (names : List String) : Except PyException Bool :=
  match value with
  | str s => return decide (s ∈ names)
  | arr _ | obj _ => throw .typeError
  | _ => return false

end Json

example : parseInt " -1_000 " = some (-1000) := by decide

end RuleArena
