import RuleArena.Foundation.Json

/-!
# Places in JSON values

A place in a value is given by steps from its root: to a member of an object, and
to an item of an array. What is put at a place (`Json.graft`) is found there
(`Json.at?_graft`), and every place that is not under it looks as before
(`Json.shape_graft`).
-/

namespace RuleArena

inductive JsonStep
  | member (name : String)
  | item (index : Nat)
  deriving DecidableEq, Repr

namespace Json

/-- What a step leads to. -/
def child? : Json → JsonStep → Option Json
  | obj members, .member name => members.lookup name
  | arr items, .item index => items[index]?
  | _, _ => none

/-- What stands at a place. -/
def at? (j : Json) : List JsonStep → Option Json
  | [] => some j
  | step :: steps => (j.child? step).bind fun child => child.at? steps

/-- Members with another value at a name they have. -/
def putMember (name : String) (value : Json) : List (String × Json) → List (String × Json)
  | [] => []
  | (k, a) :: members =>
    if k = name then (k, value) :: members else (k, a) :: putMember name value members

/-- A value with another one where a step leads. -/
def put : Json → JsonStep → Json → Json
  | obj members, .member name, value => obj (putMember name value members)
  | arr items, .item index, value => arr (items.set index value)
  | j, _, _ => j

/-- A value with another one at a place it has. -/
def graft (value : Json) : Json → List JsonStep → Json
  | _, [] => value
  | j, step :: steps =>
    match j.child? step with
    | some child => j.put step (graft value child steps)
    | none => j

/-- What a value is without what stands in it: the names of an object, the length of an array. -/
def shape : Json → Json
  | obj members => obj (members.map fun member => (member.1, null))
  | arr items => arr (items.map fun _ => null)
  | j => j

/-! ## One step -/

theorem lookup_putMember_self {name : String} {value child : Json} :
    ∀ {members : List (String × Json)}, members.lookup name = some child →
      (putMember name value members).lookup name = some value
  | [], h => by cases h
  | (k, a) :: members, h => by
    rw [putMember]
    split_ifs with same
    · simp [same]
    · have other : (name == k) = false := beq_false_of_ne (Ne.symm same)
      rw [List.lookup_cons, other] at h ⊢
      exact lookup_putMember_self h

theorem lookup_putMember_of_ne {name other : String} {value : Json} (ne : other ≠ name) :
    ∀ members : List (String × Json),
      (putMember name value members).lookup other = members.lookup other
  | [] => rfl
  | (k, a) :: members => by
    rw [putMember]
    split_ifs with same
    · have differ : (other == k) = false := beq_false_of_ne (same ▸ ne)
      rw [List.lookup_cons, List.lookup_cons, differ]
    · rw [List.lookup_cons, List.lookup_cons, lookup_putMember_of_ne ne members]

theorem names_putMember (name : String) (value : Json) : ∀ members : List (String × Json),
    (putMember name value members).map Prod.fst = members.map Prod.fst
  | [] => rfl
  | (k, a) :: members => by
    rw [putMember]
    split_ifs
    · rfl
    · rw [List.map_cons, List.map_cons, names_putMember name value members]

theorem child?_put_self {j child value : Json} {step : JsonStep}
    (h : j.child? step = some child) : (j.put step value).child? step = some value := by
  cases j <;> cases step <;> simp only [child?, reduceCtorEq] at h
  · rename_i items index
    obtain ⟨inside, -⟩ := List.getElem?_eq_some_iff.1 h
    exact List.getElem?_set_self inside
  · exact lookup_putMember_self h

theorem child?_put_of_ne {j value : Json} {step other : JsonStep} (ne : other ≠ step) :
    (j.put step value).child? other = j.child? other := by
  cases j <;> cases step <;> cases other <;> try rfl
  · rename_i items index index'
    exact List.getElem?_set_ne fun same => ne (by rw [same])
  · rename_i members name name'
    exact lookup_putMember_of_ne (fun same => ne (by rw [same])) members

theorem shape_put (j : Json) (step : JsonStep) (value : Json) :
    (j.put step value).shape = j.shape := by
  cases j <;> cases step <;> try rfl
  · rename_i items index
    simp [put, shape, List.map_const']
  · rename_i members name
    have names := congrArg (List.map fun name => (name, null)) (names_putMember name value members)
    rw [List.map_map, List.map_map] at names
    exact congrArg obj names

/-! ## Many steps -/

/-- What is put at a place stands there. -/
theorem at?_graft {j child : Json} (value : Json) {steps : List JsonStep}
    (h : j.at? steps = some child) : (graft value j steps).at? steps = some value := by
  induction steps generalizing j with
  | nil => rfl
  | cons step steps ih =>
    obtain ⟨next, first, rest⟩ := Option.bind_eq_some_iff.1 h
    rw [graft, first]
    dsimp only
    rw [at?, child?_put_self first, Option.bind_some]
    exact ih rest

/-- Every other place, where it is not under the one that was changed, looks as before. -/
theorem shape_graft (j value : Json) {steps place : List JsonStep} (apart : ¬ steps <+: place) :
    ((graft value j steps).at? place).map shape = (j.at? place).map shape := by
  induction steps generalizing j place with
  | nil => exact absurd List.nil_prefix apart
  | cons step steps ih =>
    rw [graft]
    cases first : j.child? step with
    | none => rfl
    | some next =>
      dsimp only
      cases place with
      | nil => exact congrArg some (shape_put j step _)
      | cons other place =>
        by_cases same : other = step
        · subst same
          have apart : ¬ steps <+: place := fun under =>
            apart (List.cons_prefix_cons.2 ⟨rfl, under⟩)
          rw [at?, at?, child?_put_self first, first, Option.bind_some, Option.bind_some]
          exact ih next apart
        · rw [at?, at?, child?_put_of_ne same]

end Json

end RuleArena
