import RuleArena.Foundation.JsonPlace
import RuleArena.Runtime.Compiler

/-!
# Field paths on both sides

A question of the compiler names a field of the specification by a path, which is
read twice: by `value_at_path` for the suggestion, and by the user interface, in
another language, to write the answer back (`SpecPath.valueAtPath`,
`SpecPath.setAtPath`).

A value of the user interface has more members than its document: an object
inherits some from its prototype, and so does an array, which besides has its
length and its items under their numbers. Both readers agree, and the writer
changes what they read, as long as a path does not stray to such a member, and
its indices are written so that both can read them (`paths_agree_iff`).
-/

namespace RuleArena

/-! ## Values of the user interface -/

/-- A value that an expression of the user interface reaches from a document: a part of it,
    or an object of the host. -/
inductive JsValue (η : Type)
  | json (value : Json)
  | host (object : η)
  deriving DecidableEq

/-- The objects of the host that a document inherits from, prototypes and their functions, with
    their members. -/
class JsHost (η : Type) where
  /-- The members of `Object.prototype`. -/
  objectMember : String → Option (JsValue η)
  /-- The members of `Array.prototype`, those it inherits included. -/
  arrayMember : String → Option (JsValue η)
  /-- What `typeof` calls an object, which a function is not. -/
  isObject : η → Bool
  member : η → String → Option (JsValue η)

namespace JsValue

variable {η : Type} [JsHost η]

/-- The member that a value of the document has itself, and the place of it. An array has its
    items under their numbers. -/
def ownMember? : Json → String → Option (JsonStep × Json)
  | .obj members, name => (members.lookup name).map fun value => (.member name, value)
  | .arr items, name => do
    let index ← (List.range items.length).find? fun index => toString index = name
    return (.item index, ← items[index]?)
  | _, _ => none

/-- What a value of the document inherits under a name. The length of an array stands with it. -/
def inherited? : Json → String → Option (JsValue η)
  | .obj _, name => JsHost.objectMember name
  | .arr items, name => if name = "length" then some (.json (.int items.length)) else
    JsHost.arrayMember name
  | _, _ => none

/-- `current[name]`, if `current` is an object other than null and `name in current`. -/
def member? : JsValue η → String → Option (JsValue η)
  | json value, name =>
    match ownMember? value name with
    | some (_, child) => some (json child)
    | none => inherited? value name
  | host object, name => if JsHost.isObject object then JsHost.member object name else none

/-- `current[index]`, if `current` is an array and so long. `Array.prototype` is an array
    without items. -/
def item? : JsValue η → Nat → Option (JsValue η)
  | json (.arr items), index => items[index]?.map json
  | _, _ => none

end JsValue

namespace SpecPath

/-! ## Reading and writing -/

/-- A segment of a path: a name, and an index. An index that is no array's is too large, however
    it is rounded. -/
def segment (segment : List Char) : Option (String × Option Nat) :=
  let name := segment.takeWhile fun c => c ≠ '[' ∧ c ≠ ']'
  if name = [] then none
  else
    match segment.dropWhile fun c => c ≠ '[' ∧ c ≠ ']' with
    | [] => some (String.ofList name, none)
    | '[' :: rest =>
      match rest.takeWhile Char.isDigit, rest.dropWhile Char.isDigit with
      | d :: ds, [']'] => some (String.ofList name, some (ofDigits (digitValues (d :: ds))))
      | _, _ => none
    | _ => none

/-- `segments` -/
def segments (path : String) : Option (List (String × Option Nat)) :=
  (path.toList.splitOn '.').mapM segment

section Walk

variable {η : Type} [JsHost η]

/-- The loop of `valueAtPath`; there is no value where it gives back `undefined`. -/
def walk : JsValue η → List (String × Option Nat) → Option (JsValue η)
  | current, [] => some current
  | current, (name, index) :: parts =>
    match current.member? name, index with
    | none, _ => none
    | some value, none => walk value parts
    | some value, some index =>
      match value.item? index with
      | none => none
      | some item => walk item parts

variable (η) in
/-- `valueAtPath` -/
def valueAtPath (document : Json) (path : String) : Option (JsValue η) :=
  match segments path with
  | none => none
  | some parts => walk (.json document) parts

end Walk

/-- What `setAtPath` gives back: the document itself, or a copy that was written to. It can also
    write to what is no part of a document: an object of the host, or a member that only an
    array of the user interface has. -/
inductive Written
  | unchanged
  | copy (document : Json)
  | elsewhere
  deriving DecidableEq

namespace Written

/-- The outcome for a value, from that for a part of it. -/
def within (around : Json → Json) : Written → Written
  | unchanged => unchanged
  | copy document => copy (around document)
  | elsewhere => elsewhere

end Written

section Write

variable (η : Type) [JsHost η] (value : Json)

/-- The loop of `setAtPath` on the copy. An inherited name is assigned to as a new member of an
    object, but for `__proto__`; what is behind it is no part of the copy. -/
def write : Json → List (String × Option Nat) → Written
  | _, [] => .copy value
  | current, (name, index) :: parts =>
    match JsValue.ownMember? current name with
    | some (step, child) =>
      match index with
      | none => (write child parts).within (current.put step)
      | some index =>
        match child.child? (.item index) with
        | none => .unchanged
        | some item => (write item parts).within fun item =>
          current.put step (child.put (.item index) item)
    | none =>
      match walk (.json current : JsValue η) ((name, index) :: parts) with
      | none => .unchanged
      | some _ =>
        match current, index, parts with
        | .obj members, none, [] =>
          if name = "__proto__" then .elsewhere else .copy (.obj (members ++ [(name, value)]))
        | _, _, _ => .elsewhere

/-- `setAtPath` -/
def setAtPath (document : Json) (path : String) : Written :=
  match segments path with
  | none => .unchanged
  | some parts => write η value document parts

end Write

/-! ## Segments -/

/-- The index of a segment is written with the digits 0 to 9, and nothing stands behind it. -/
def AsciiIndex (segment : List Char) : Prop :=
  ∀ c ∈ segment.dropWhile fun c => c ≠ '[' ∧ c ≠ ']', c = '[' ∨ c = ']' ∨ c.isDigit = true

/-- The part of a path that is read with the digits of an index. -/
def numbered (part : String × Option (List Nat)) : String × Option Nat :=
  (part.1, part.2.map ofDigits)

theorem spanDigits_spec (cs : List Char) : ∃ digits : List Char,
    cs = digits ++ (spanDigits cs).2 ∧ (spanDigits cs).1 = digitValues digits ∧
      ∀ c ∈ digits, (digitValue? c).isSome := by
  induction cs with
  | nil => exact ⟨[], rfl, rfl, nofun⟩
  | cons c cs ih =>
    rw [spanDigits]
    cases value : digitValue? c with
    | none => exact ⟨[], rfl, rfl, nofun⟩
    | some d =>
      obtain ⟨digits, whole, values, all⟩ := ih
      refine ⟨c :: digits, congrArg (c :: ·) whole, ?_, ?_⟩
      · dsimp only
        rw [values, digitValues, digitValues, List.map_cons, value, Option.getD_some]
      · exact List.forall_mem_cons.2 ⟨by simp [value], all⟩

theorem bracket_value : digitValue? ']' = none := by decide +kernel

theorem bracket_head {P : Char → Prop} {rest : List Char} (h : P ']') :
    ∀ c ∈ (']' :: rest).head?, P c := by
  intro c mem
  rwa [← Option.mem_some_iff.1 mem]

/-- What the user interface reads, the compiler reads the same. -/
theorem fieldSegment_of_segment {cs : List Char} {part : String × Option Nat}
    (h : segment cs = some part) :
    ∃ reading, fieldSegment cs = some reading ∧ AsciiIndex cs ∧ part = numbered reading := by
  unfold segment at h
  dsimp only at h
  split_ifs at h with empty
  split at h
  · rename_i tail
    cases h
    refine ⟨(String.ofList (cs.takeWhile fun c => c ≠ '[' ∧ c ≠ ']'), none), ?_, ?_, rfl⟩
    · unfold fieldSegment
      rw [if_neg empty, tail]
    · rw [AsciiIndex, tail]
      exact nofun
  · rename_i rest tail
    split at h
    · rename_i d ds taken left
      cases h
      have all : ∀ c ∈ d :: ds, c.isDigit = true := fun c mem =>
        List.mem_takeWhile_imp (taken ▸ mem)
      have whole : rest = (d :: ds) ++ [']'] := by
        rw [← taken, ← left, List.takeWhile_append_dropWhile]
      have read : spanDigits rest = (digitValues (d :: ds), [']']) := by
        rw [whole]
        exact spanDigits_append all (bracket_head bracket_value)
      refine ⟨(_, some (digitValues (d :: ds))), ?_, ?_, rfl⟩
      · unfold fieldSegment
        rw [if_neg empty, tail]
        simp only [read]
        rfl
      · rw [AsciiIndex, tail, whole]
        intro c mem
        simp only [List.mem_cons, List.mem_append, List.not_mem_nil, or_false] at mem
        rcases mem with rfl | mem | rfl
        · exact .inl rfl
        · exact .inr (.inr (all c (List.mem_cons.2 mem)))
        · exact .inr (.inl rfl)
    · cases h
  · cases h

/-- The index of a text that is all digits up to the closing bracket. -/
theorem digits_of_ascii {rest ending : List Char} {d : Nat} {ds : List Nat}
    (ascii : ∀ c ∈ rest, c = '[' ∨ c = ']' ∨ c.isDigit = true)
    (h : spanDigits rest = (d :: ds, ending)) (stop : ∀ c ∈ ending.head?, c.isDigit = false) :
    ∃ c digits, rest.takeWhile Char.isDigit = c :: digits ∧
      rest.dropWhile Char.isDigit = ending ∧ digitValues (c :: digits) = d :: ds := by
  obtain ⟨digits, whole, values, all⟩ := spanDigits_spec rest
  rw [h] at whole values
  have all : ∀ c ∈ digits, c.isDigit = true := by
    intro c mem
    have value := all c mem
    rcases ascii c (whole ▸ List.mem_append_left _ mem) with rfl | rfl | digit
    · exact absurd value (by decide)
    · exact absurd value (by decide)
    · exact digit
  cases digits with
  | nil => cases values
  | cons c digits =>
    refine ⟨c, digits, ?_, ?_, values.symm⟩
    · rw [whole, List.takeWhile_append_of_pos all]
      cases ending with
      | nil => simp
      | cons e ending =>
        have last : e.isDigit = false := stop e rfl
        simp [last]
    · rw [whole, List.dropWhile_append_of_pos all]
      cases ending with
      | nil => rfl
      | cons e ending =>
        have last : e.isDigit = false := stop e rfl
        simp [last]

/-- What the compiler reads, the user interface reads the same, if its index is in ASCII. -/
theorem segment_of_fieldSegment {cs : List Char} {reading : String × Option (List Nat)}
    (h : fieldSegment cs = some reading) (ascii : AsciiIndex cs) :
    segment cs = some (numbered reading) := by
  unfold fieldSegment at h
  dsimp only at h
  unfold AsciiIndex at ascii
  unfold segment
  split_ifs at h with empty
  rw [if_neg empty]
  generalize cs.dropWhile (fun c => decide (c ≠ '[' ∧ c ≠ ']')) = tail at h ascii ⊢
  split at h
  · cases h
    rfl
  · rename_i rest
    have ascii := fun c mem => ascii c (List.mem_cons_of_mem _ mem)
    split at h
    · rename_i d ds read
      cases h
      obtain ⟨c, digits, taken, left, values⟩ := digits_of_ascii ascii read (bracket_head rfl)
      simp only [taken, left, values]
      rfl
    · rename_i d ds read
      obtain ⟨digits, whole, -, -⟩ := spanDigits_spec rest
      have newline : '\n' ∈ rest := by
        rw [whole, read]
        simp
      exact absurd (ascii _ newline) (by decide)
    · cases h
  · cases h

/-- The segments of a path are read by both where they are read by the compiler and in ASCII. -/
theorem mapM_segment_iff {cs : List (List Char)} {parts : List (String × Option Nat)} :
    cs.mapM segment = some parts ↔ ∃ reading, cs.mapM fieldSegment = some reading ∧
      (∀ segment ∈ cs, AsciiIndex segment) ∧ parts = reading.map numbered := by
  induction cs generalizing parts with
  | nil => simp [eq_comm]
  | cons first cs ih =>
    simp only [List.mapM_cons, Option.bind_eq_bind, Option.bind_eq_some_iff, Option.pure_def,
      Option.some.injEq, List.forall_mem_cons]
    constructor
    · rintro ⟨part, h, parts, rest, rfl⟩
      obtain ⟨reading, read, ascii, rfl⟩ := fieldSegment_of_segment h
      obtain ⟨readings, reads, asciis, rfl⟩ := ih.1 rest
      exact ⟨_, ⟨reading, read, readings, reads, rfl⟩, ⟨ascii, asciis⟩, rfl⟩
    · rintro ⟨_, ⟨reading, read, readings, reads, rfl⟩, ⟨ascii, asciis⟩, rfl⟩
      exact ⟨_, segment_of_fieldSegment read ascii, _, ih.2 ⟨readings, reads, asciis, rfl⟩, rfl⟩

/-! ## Places -/

/-- The place that the parts of a path lead to. -/
def steps : List (String × Option Nat) → List JsonStep
  | [] => []
  | (name, none) :: parts => .member name :: steps parts
  | (name, some index) :: parts => .member name :: .item index :: steps parts

section Places

variable {η : Type} [JsHost η] {document current child : Json} {name : String}

theorem ownMember_of_child (h : current.child? (.member name) = some child) :
    JsValue.ownMember? current name = some (.member name, child) := by
  cases current <;> simp only [Json.child?, reduceCtorEq] at h
  simp [JsValue.ownMember?, h]

theorem member_of_child (h : current.child? (.member name) = some child) :
    (JsValue.json current : JsValue η).member? name = some (.json child) := by
  simp only [JsValue.member?, ownMember_of_child h]

omit [JsHost η] in
theorem item_eq (current : Json) (index : Nat) :
    (JsValue.json current : JsValue η).item? index = (current.child? (.item index)).map .json := by
  cases current <;> rfl

variable (η) in
/-- The parts lead to a value of the user interface, but by a member that is not an own member
    of an object. -/
def Strays : Json → List (String × Option Nat) → Prop
  | _, [] => False
  | current, (name, index) :: parts =>
    match current.child? (.member name) with
    | none => (walk (.json current : JsValue η) ((name, index) :: parts)).isSome
    | some child =>
      match index with
      | none => Strays child parts
      | some index =>
        match child.child? (.item index) with
        | none => False
        | some item => Strays item parts

/-- A place that the document has is read, and reading it strays nowhere. -/
theorem walk_of_at {parts : List (String × Option Nat)} {value : Json}
    (h : document.at? (steps parts) = some value) :
    walk (.json document) parts = some (.json value : JsValue η) ∧ ¬ Strays η document parts := by
  induction parts generalizing document with
  | nil =>
    cases h
    exact ⟨rfl, id⟩
  | cons part parts ih =>
    obtain ⟨name, index⟩ := part
    cases index with
    | none =>
      obtain ⟨child, first, rest⟩ := Option.bind_eq_some_iff.1 h
      simp only [walk, Strays, member_of_child first, first]
      exact ih rest
    | some index =>
      obtain ⟨child, first, rest⟩ := Option.bind_eq_some_iff.1 h
      obtain ⟨item, second, rest⟩ := Option.bind_eq_some_iff.1 rest
      simp only [walk, Strays, member_of_child first, first, item_eq, second, Option.map_some]
      exact ih rest

/-- What is read without straying stands at the place. -/
theorem at_of_walk {parts : List (String × Option Nat)} {value : JsValue η}
    (straight : ¬ Strays η document parts) (h : walk (.json document) parts = some value) :
    ∃ found, document.at? (steps parts) = some found ∧ value = .json found := by
  induction parts generalizing document with
  | nil =>
    cases h
    exact ⟨document, rfl, rfl⟩
  | cons part parts ih =>
    obtain ⟨name, index⟩ := part
    cases first : document.child? (.member name) with
    | none =>
      rw [Strays, first] at straight
      exact absurd (by rw [h]; rfl) straight
    | some child =>
      cases index with
      | none =>
        simp only [walk, Strays, member_of_child first, first] at h straight
        rw [steps, Json.at?, first]
        exact ih straight h
      | some index =>
        cases second : child.child? (.item index) with
        | none =>
          simp only [walk, member_of_child first, item_eq, second, Option.map_none] at h
          cases h
        | some item =>
          simp only [walk, Strays, member_of_child first, first, item_eq, second,
            Option.map_some] at h straight
          rw [steps, Json.at?, first, Option.bind_some, Json.at?, second]
          exact ih straight h

theorem strays_reads {parts : List (String × Option Nat)} (h : Strays η document parts) :
    ∃ value, walk (.json document : JsValue η) parts = some value := by
  induction parts generalizing document with
  | nil => exact h.elim
  | cons part parts ih =>
    obtain ⟨name, index⟩ := part
    cases first : document.child? (.member name) with
    | none =>
      rw [Strays, first] at h
      exact Option.isSome_iff_exists.1 h
    | some child =>
      cases index with
      | none =>
        simp only [walk, Strays, member_of_child first, first] at h ⊢
        exact ih h
      | some index =>
        cases second : child.child? (.item index) with
        | none =>
          simp only [Strays, first, second] at h
        | some item =>
          simp only [walk, Strays, member_of_child first, first, item_eq, second,
            Option.map_some] at h ⊢
          exact ih h

/-! ### Writing -/

/-- At a place of the document the value is put. -/
theorem write_eq {parts : List (String × Option Nat)} {found value : Json}
    (h : document.at? (steps parts) = some found) :
    write η value document parts = .copy (Json.graft value document (steps parts)) := by
  induction parts generalizing document with
  | nil => rfl
  | cons part parts ih =>
    obtain ⟨name, index⟩ := part
    obtain ⟨child, first, rest⟩ : ∃ child, document.child? (.member name) = some child ∧
        child.at? (index.toList.map .item ++ steps parts) = some found := by
      cases index <;> exact Option.bind_eq_some_iff.1 h
    cases index with
    | none =>
      simp only [write, ownMember_of_child first, steps, Json.graft, first, ih rest, Written.within]
    | some index =>
      obtain ⟨item, second, rest⟩ := Option.bind_eq_some_iff.1 rest
      simp only [write, ownMember_of_child first, steps, Json.graft, first, second, ih rest,
        Written.within]

/-- Where nothing is read the document stays. -/
theorem write_unchanged {parts : List (String × Option Nat)} {value : Json}
    (h : walk (.json document : JsValue η) parts = none) :
    write η value document parts = .unchanged := by
  induction parts generalizing document with
  | nil => cases h
  | cons part parts ih =>
    obtain ⟨name, index⟩ := part
    cases own : JsValue.ownMember? document name with
    | none => simp only [write, own, h]
    | some member =>
      obtain ⟨step, child⟩ := member
      have member : (JsValue.json document : JsValue η).member? name = some (.json child) := by
        simp only [JsValue.member?, own]
      cases index with
      | none =>
        simp only [walk, member] at h
        simp only [write, own, ih h, Written.within]
      | some index =>
        cases second : child.child? (.item index) with
        | none => simp only [write, own, second]
        | some item =>
          simp only [walk, member, item_eq, second, Option.map_some] at h
          simp only [write, own, second, ih h, Written.within]

end Places

/-! ## The compiler's reader -/

/-- No index of a path is too long to be read. -/
def Short (reading : List (String × Option (List Nat))) : Prop :=
  ∀ part ∈ reading, ∀ digits ∈ part.2, digits.length ≤ 4300

theorem short_cons {part : String × Option (List Nat)}
    {reading : List (String × Option (List Nat))} : Short (part :: reading) ↔
      (∀ digits ∈ part.2, digits.length ≤ 4300) ∧ Short reading :=
  List.forall_mem_cons

theorem get?_eq_child? (current : Json) (name : String) :
    current.get? name = current.child? (.member name) := by
  cases current <;> rfl

/-- An index is taken of an array only, and only a short one is read. -/
theorem valueAtPath_index {child : Json} {digits : List Nat} {name : String} {current : Json}
    {segment : List Char} {cs : List (List Char)} {value : Json}
    (read : fieldSegment segment = some (name, some digits))
    (first : current.child? (.member name) = some child) :
    RuleArena.valueAtPath current (segment :: cs) = .ok (some value) ↔
      digits.length ≤ 4300 ∧ ∃ item, child.child? (.item (ofDigits digits)) = some item ∧
        RuleArena.valueAtPath item cs = .ok (some value) := by
  rw [RuleArena.valueAtPath, read]
  dsimp only
  rw [get?_eq_child?, first]
  cases child with
  | arr items =>
    dsimp only
    split_ifs with long
    · simp [not_le.2 long]
    · rw [and_iff_right (not_lt.1 long), Json.child?]
      cases items[ofDigits digits]? <;> simp
  | _ => simp [Json.child?]

theorem valueAtPath_member {child : Json} {name : String} {current : Json} {segment : List Char}
    {cs : List (List Char)} (read : fieldSegment segment = some (name, none))
    (first : current.child? (.member name) = some child) :
    RuleArena.valueAtPath current (segment :: cs) = RuleArena.valueAtPath child cs := by
  rw [RuleArena.valueAtPath, read]
  dsimp only
  rw [get?_eq_child?, first]

/-- The compiler reads the value at the place of a path, if no index is too long. -/
theorem valueAtPath_iff {document value : Json} {cs : List (List Char)} :
    RuleArena.valueAtPath document cs = .ok (some value) ↔
      ∃ reading, cs.mapM fieldSegment = some reading ∧
        document.at? (steps (reading.map numbered)) = some value ∧ Short reading := by
  induction cs generalizing document with
  | nil => simp [RuleArena.valueAtPath, steps, Json.at?, Short]
  | cons segment cs ih =>
    cases read : fieldSegment segment with
    | none => simp [RuleArena.valueAtPath, read]
    | some part =>
      have readings : (segment :: cs).mapM fieldSegment =
          (cs.mapM fieldSegment).map (part :: ·) := by
        rw [List.mapM_cons, read]
        cases cs.mapM fieldSegment <;> rfl
      simp only [readings, Option.map_eq_some_iff, exists_exists_and_eq_and, List.map_cons,
        short_cons]
      obtain ⟨name, digits⟩ := part
      cases first : document.child? (.member name) with
      | none =>
        have missing : ∀ parts, document.at? (steps (numbered (name, digits) :: parts)) = none := by
          intro parts
          cases digits <;> simp [numbered, steps, Json.at?, first]
        simp [RuleArena.valueAtPath, read, get?_eq_child?, first, missing]
      | some child =>
        cases digits with
        | none =>
          rw [valueAtPath_member read first, ih]
          simp [numbered, steps, Json.at?, first]
        | some digits =>
          rw [valueAtPath_index read first]
          simp only [ih, numbered, steps, Json.at?, first, Option.map_some, Option.bind_some,
            Option.bind_eq_some_iff, Option.mem_def, Option.some.injEq, forall_eq']
          constructor
          · rintro ⟨short, item, second, reading, reads, found, shorts⟩
            exact ⟨reading, reads, ⟨item, second, found⟩, short, shorts⟩
          · rintro ⟨reading, reads, ⟨item, second, found⟩, short, shorts⟩
            exact ⟨short, item, second, reading, reads, found, shorts⟩

/-! ## Agreement -/

section Agreement

variable (η : Type) [JsHost η] (document : Json) (path : String)

/-- The path of a question, read with all that the compiler accepts, leads to a place that the
    document has. -/
def Located (value : Json) : Prop :=
  ∃ reading, (path.toList.splitOn '.').mapM fieldSegment = some reading ∧
    document.at? (steps (reading.map numbered)) = some value

/-- No index of the path is too long for the compiler. -/
def ShortIndices : Prop :=
  ∀ reading, (path.toList.splitOn '.').mapM fieldSegment = some reading → Short reading

/-- No index of the path is written in a way that the user interface does not read. -/
def AsciiIndices : Prop := ∀ segment ∈ path.toList.splitOn '.', AsciiIndex segment

/-- What both readers agree under: where the path leads to a place of the document, either both
    can read its indices or neither; and the user interface does not stray. -/
structure ReadAlike : Prop where
  indices : (∃ value, Located document path value) → (AsciiIndices path ↔ ShortIndices path)
  straight : ∀ parts, segments path = some parts → ¬ Strays η document parts

/-- Both readers find the same value, or neither finds one. -/
def SameReading : Prop :=
  (∃ value, RuleArena.valueAtPath document (path.toList.splitOn '.') = .ok (some value) ∧
    valueAtPath η document path = some (.json value)) ∨
  ((∀ value, RuleArena.valueAtPath document (path.toList.splitOn '.') ≠ .ok (some value)) ∧
    valueAtPath η document path = none)

/-- A value is written where it is read, and nowhere else. -/
structure WritesBack (value : Json) : Prop where
  unresolved : valueAtPath η document path = none →
    setAtPath η value document path = .unchanged
  resolved : valueAtPath η document path ≠ none → ∃ parts copy, segments path = some parts ∧
    setAtPath η value document path = .copy copy ∧
    valueAtPath η copy path = some (.json value) ∧
    ∀ place, ¬ steps parts <+: place →
      (copy.at? place).map Json.shape = (document.at? place).map Json.shape

variable {η} {document} {path}

theorem compiler_iff {value : Json} :
    RuleArena.valueAtPath document (path.toList.splitOn '.') = .ok (some value) ↔
      Located document path value ∧ ShortIndices path := by
  rw [valueAtPath_iff]
  constructor
  · rintro ⟨reading, reads, found, short⟩
    refine ⟨⟨reading, reads, found⟩, fun reading' reads' => ?_⟩
    rwa [← Option.some.inj (reads.symm.trans reads')]
  · rintro ⟨⟨reading, reads, found⟩, short⟩
    exact ⟨reading, reads, found, short reading reads⟩

theorem segments_of_ascii {value : Json} (located : Located document path value)
    (ascii : AsciiIndices path) :
    ∃ parts, segments path = some parts ∧ document.at? (steps parts) = some value := by
  obtain ⟨reading, reads, found⟩ := located
  exact ⟨_, mapM_segment_iff.2 ⟨reading, reads, ascii, rfl⟩, found⟩

theorem located_of_segments {parts : List (String × Option Nat)} {value : Json}
    (h : segments path = some parts) (found : document.at? (steps parts) = some value) :
    Located document path value ∧ AsciiIndices path := by
  obtain ⟨reading, reads, ascii, rfl⟩ := mapM_segment_iff.1 h
  exact ⟨⟨reading, reads, found⟩, ascii⟩

theorem valueAtPath_eq {parts : List (String × Option Nat)} (h : segments path = some parts) :
    valueAtPath η document path = walk (.json document) parts := by
  rw [valueAtPath, h]

/-- The user interface reads what stands at a place it can read, and nothing else if it does not
    stray. -/
theorem interface_eq {value : Json} (located : Located document path value)
    (ascii : AsciiIndices path) : valueAtPath η document path = some (.json value) := by
  obtain ⟨parts, h, found⟩ := segments_of_ascii located ascii
  rw [valueAtPath_eq h]
  exact (walk_of_at found).1

theorem interface_found (straight : ∀ parts, segments path = some parts → ¬ Strays η document parts)
    {value : JsValue η} (h : valueAtPath η document path = some value) :
    ∃ parts found, segments path = some parts ∧ document.at? (steps parts) = some found ∧
      value = .json found := by
  unfold valueAtPath at h
  split at h
  · cases h
  · rename_i parts read
    obtain ⟨found, place, rfl⟩ := at_of_walk (straight parts read) h
    exact ⟨parts, found, read, place, rfl⟩

theorem writes_back (straight : ∀ parts, segments path = some parts → ¬ Strays η document parts)
    (value : Json) : WritesBack η document path value := by
  constructor
  · intro missing
    unfold valueAtPath at missing
    unfold setAtPath
    split at missing
    · rfl
    · exact write_unchanged missing
  · intro resolved
    obtain ⟨old, h⟩ := Option.ne_none_iff_exists'.1 resolved
    obtain ⟨parts, found, read, place, -⟩ := interface_found straight h
    refine ⟨parts, Json.graft value document (steps parts), read, ?_, ?_, fun other apart =>
      Json.shape_graft document value apart⟩
    · rw [setAtPath, read]
      exact write_eq place
    · rw [valueAtPath_eq read]
      exact (walk_of_at (Json.at?_graft value place)).1

theorem sameReading_iff : SameReading η document path ↔ ReadAlike η document path := by
  constructor
  · intro same
    refine ⟨?_, fun parts read strays => ?_⟩
    · rintro ⟨value, located⟩
      constructor
      · intro ascii
        rcases same with ⟨value', read, -⟩ | ⟨-, missing⟩
        · exact (compiler_iff.1 read).2
        · rw [interface_eq located ascii] at missing
          cases missing
      · intro short
        have read := compiler_iff.2 ⟨located, short⟩
        rcases same with ⟨value', -, found⟩ | ⟨missing, -⟩
        · unfold valueAtPath at found
          split at found
          · cases found
          · rename_i parts read
            exact (mapM_segment_iff.1 read).choose_spec.2.1
        · exact absurd read (missing value)
    · obtain ⟨value, found⟩ := strays_reads strays
      have found : valueAtPath η document path = some value := (valueAtPath_eq read).trans found
      rcases same with ⟨value', read', -⟩ | ⟨-, missing⟩
      · have ascii : AsciiIndices path := (mapM_segment_iff.1 read).choose_spec.2.1
        obtain ⟨parts', h, place⟩ := segments_of_ascii (compiler_iff.1 read').1 ascii
        obtain rfl := Option.some.inj (read.symm.trans h)
        exact (walk_of_at place).2 strays
      · rw [found] at missing
        cases missing
  · intro alike
    cases found : valueAtPath η document path with
    | none =>
      refine .inr ⟨fun value read => ?_, found⟩
      obtain ⟨located, short⟩ := compiler_iff.1 read
      rw [interface_eq located ((alike.indices ⟨value, located⟩).2 short)] at found
      cases found
    | some value =>
      obtain ⟨parts, place, read, at', rfl⟩ := interface_found alike.straight found
      obtain ⟨located, ascii⟩ := located_of_segments read at'
      exact .inl ⟨place, compiler_iff.2 ⟨located, (alike.indices ⟨place, located⟩).1 ascii⟩, found⟩

end Agreement

end SpecPath

open SpecPath in
/-- Both readers agree, and the writer changes what they read, exactly where the user interface
    does not stray from the document, and both can read the indices or neither. -/
theorem paths_agree_iff (η : Type) [JsHost η] (document : Json) (path : String) :
    (SameReading η document path ∧ ∀ value, WritesBack η document path value) ↔
      ReadAlike η document path :=
  ⟨fun claim => sameReading_iff.1 claim.1,
    fun alike => ⟨sameReading_iff.2 alike, writes_back alike.straight⟩⟩

/-- A host without objects. -/
@[reducible] def JsHost.bare : JsHost Empty where
  objectMember _ := none
  arrayMember _ := none
  isObject _ := false
  member _ _ := none

open SpecPath in
/-- The items of an array are members under their numbers, for the user interface only. -/
theorem not_paths_agree :
    let _ := JsHost.bare
    ¬ ∀ (document : Json) (path : String),
      SameReading Empty document path ∧ ∀ value, WritesBack Empty document path value := by
  intro _ claim
  have compiler : RuleArena.valueAtPath (.obj [("rules", .arr [.int 1])])
      ("rules.0".toList.splitOn '.') = .ok none := by
    decide +kernel
  have stray : SpecPath.valueAtPath Empty (.obj [("rules", .arr [.int 1])]) "rules.0" =
      some (.json (.int 1)) := by
    decide +kernel
  rcases (claim (.obj [("rules", .arr [.int 1])]) "rules.0").1 with ⟨value, read, -⟩ | ⟨-, none⟩
  · rw [compiler] at read
    cases read
  · rw [stray] at none
    cases none

end RuleArena
