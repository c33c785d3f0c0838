import Mathlib.Logic.Relation
import RuleArena.Foundation.Interaction

/-!
# Computations that are served

A service has a state. In each state a question can have one answer or another, and
with its answer the service goes to a further state (`Service`). A log of exchanges
is served if its answers can be given one after the other (`Chain`), and so is a
computation if a run of it is (`Served`).

Between two answers a service may move by itself (`Service.moving`). What each move and
each answer keep is kept by all that is served (`Chain.keeps`, `Served.keeps`).
-/

namespace RuleArena

namespace Interaction

variable {ε Q α β W : Type} {A : Q → Type}

/-- The states that a service goes to from a state with an exchange. -/
abbrev Service (A : Q → Type) (W : Type) := W → Exchange A → W → Prop

/-- A service that may move before it answers. -/
def Service.moving (moves : W → W → Prop) (answers : Service A W) : Service A W :=
  fun w exchange w' => ∃ w₁, Relation.ReflTransGen moves w w₁ ∧ answers w₁ exchange w'

/-- The states that a service goes to from a state with a log of exchanges. -/
inductive Chain (service : Service A W) : W → List (Exchange A) → W → Prop
  | nil (w : W) : Chain service w [] w
  | cons {w w₁ w' : W} {exchange : Exchange A} {log : List (Exchange A)}
      (answer : service w exchange w₁) (rest : Chain service w₁ log w') :
      Chain service w (exchange :: log) w'

section Chain

variable {service : Service A W} {w w' : W} {exchange : Exchange A}
  {log log' : List (Exchange A)}

theorem chain_nil : Chain service w [] w' ↔ w' = w := by
  constructor
  · rintro ⟨⟩
    rfl
  · rintro rfl
    exact .nil w'

theorem chain_cons :
    Chain service w (exchange :: log) w' ↔
      ∃ w₁, service w exchange w₁ ∧ Chain service w₁ log w' := by
  constructor
  · rintro ⟨⟩
    exact ⟨_, ‹_›, ‹_›⟩
  · rintro ⟨w₁, answer, rest⟩
    exact .cons answer rest

theorem chain_append :
    Chain service w (log ++ log') w' ↔
      ∃ w₁, Chain service w log w₁ ∧ Chain service w₁ log' w' := by
  induction log generalizing w with
  | nil => simp only [List.nil_append, chain_nil, exists_eq_left]
  | cons exchange log ih =>
    simp only [List.cons_append, chain_cons, ih]
    constructor
    · rintro ⟨w₁, answer, w₂, first, rest⟩
      exact ⟨w₂, ⟨w₁, answer, first⟩, rest⟩
    · rintro ⟨w₂, ⟨w₁, answer, first⟩, rest⟩
      exact ⟨w₁, answer, w₂, first, rest⟩

/-- What holds at first and is kept by every exchange of a log holds at its end. -/
theorem Chain.keeps {I : W → Prop} (chain : Chain service w log w')
    (step : ∀ exchange ∈ log, ∀ w w', service w exchange w' → I w → I w') (first : I w) :
    I w' := by
  induction chain with
  | nil _ => exact first
  | cons answer _ ih =>
    exact ih (fun exchange mem => step exchange (List.mem_cons_of_mem _ mem))
      (step _ List.mem_cons_self _ _ answer first)

end Chain

/-- What the moves of a service keep it keeps before it answers. -/
theorem Service.moving_keeps {moves : W → W → Prop} {answers : Service A W} {I : W → Prop}
    {w w' : W} {exchange : Exchange A} (kept : ∀ w w', moves w w' → I w → I w')
    (served : Service.moving moves answers w exchange w') (first : I w) :
    ∃ w₁, I w₁ ∧ answers w₁ exchange w' := by
  obtain ⟨w₁, moved, answer⟩ := served
  refine ⟨w₁, ?_, answer⟩
  clear answer
  induction moved with
  | refl => exact first
  | tail _ move ih => exact kept _ _ move ih

/-! ## Computations -/

/-- The states that a service goes to from a state with a run of a computation, and how the run
    ends. -/
def Served (service : Service A W) (w : W) (x : Interaction ε A α) (w' : W)
    (result : Except ε α) : Prop :=
  ∃ log, Runs x log result ∧ Chain service w log w'

section Served

variable {service : Service A W} {w w' : W}

theorem served_pure {a : α} {result : Except ε α} :
    Served service w (pure a : Interaction ε A α) w' result ↔ w' = w ∧ result = .ok a := by
  constructor
  · rintro ⟨log, run, chain⟩
    obtain ⟨rfl, rfl⟩ := runs_pure.1 run
    exact ⟨chain_nil.1 chain, rfl⟩
  · rintro ⟨rfl, rfl⟩
    exact ⟨[], .done a, .nil w'⟩

theorem served_raise {e : ε} {result : Except ε α} :
    Served service w (raise e : Interaction ε A α) w' result ↔ w' = w ∧ result = .error e := by
  constructor
  · rintro ⟨log, run, chain⟩
    obtain ⟨rfl, rfl⟩ := runs_raise.1 run
    exact ⟨chain_nil.1 chain, rfl⟩
  · rintro ⟨rfl, rfl⟩
    exact ⟨[], .raise e, .nil w'⟩

/-- The first part of a sequence is served first, and if it comes to a value then the rest. -/
theorem served_bind {x : Interaction ε A α} {f : α → Interaction ε A β} {result : Except ε β} :
    Served service w (x >>= f) w' result ↔
      (∃ a w₁, Served service w x w₁ (.ok a) ∧ Served service w₁ (f a) w' result) ∨
        ∃ e, Served service w x w' (.error e) ∧ result = .error e := by
  constructor
  · rintro ⟨log, both, chain⟩
    obtain ⟨a, first, rest, rfl, run, run'⟩ | ⟨e, run, rfl⟩ := runs_bind.1 both
    · obtain ⟨w₁, chain, chain'⟩ := chain_append.1 chain
      exact .inl ⟨a, w₁, ⟨first, run, chain⟩, rest, run', chain'⟩
    · exact .inr ⟨e, ⟨log, run, chain⟩, rfl⟩
  · rintro (⟨a, w₁, ⟨first, run, chain⟩, rest, run', chain'⟩ | ⟨e, ⟨log, run, chain⟩, rfl⟩)
    · exact ⟨first ++ rest, runs_bind.2 (.inl ⟨a, first, rest, rfl, run, run'⟩),
        chain_append.2 ⟨w₁, chain, chain'⟩⟩
    · exact ⟨log, runs_bind.2 (.inr ⟨e, run, rfl⟩), chain⟩

/-- What holds at first and is kept by every exchange holds when a computation has been served. -/
theorem Served.keeps {I : W → Prop} {x : Interaction ε A α} {result : Except ε α}
    (served : Served service w x w' result)
    (step : ∀ exchange w w', service w exchange w' → I w → I w') (first : I w) : I w' := by
  obtain ⟨log, -, chain⟩ := served
  exact chain.keeps (fun exchange _ => step exchange) first

end Served

/-- What comes of a computation with a server that answers some of the questions. -/
def serve (answer : W → (q : Q) → Option (A q × W)) :
    W → Interaction ε A α → Option (W × Except ε α)
  | w, .done a => some (w, .ok a)
  | w, .raise e => some (w, .error e)
  | w, .ask q next => (answer w q).bind fun answered => serve answer answered.2 (next answered.1)

/-- A server that answers as a service may gives one of the ways in which it is served. -/
theorem served_serve {service : Service A W} {answer : W → (q : Q) → Option (A q × W)}
    (faithful : ∀ w q a w', answer w q = some (a, w') → service w ⟨q, a⟩ w') {w w' : W}
    {x : Interaction ε A α} {result : Except ε α} (h : serve answer w x = some (w', result)) :
    Served service w x w' result := by
  induction x generalizing w with
  | done a =>
    obtain ⟨rfl, rfl⟩ := Prod.mk.inj (Option.some.inj h)
    exact ⟨[], .done a, .nil w⟩
  | raise e =>
    obtain ⟨rfl, rfl⟩ := Prod.mk.inj (Option.some.inj h)
    exact ⟨[], .raise e, .nil w⟩
  | ask q next ih =>
    obtain ⟨⟨a, w₁⟩, answered, rest⟩ := Option.bind_eq_some_iff.1 h
    obtain ⟨log, run, chain⟩ := ih a rest
    exact ⟨_, .ask run, .cons (faithful _ _ _ _ answered) chain⟩

section Serve

variable {answer : W → (q : Q) → Option (A q × W)} {w w₁ : W}

theorem serve_pure {a : α} : serve answer w (pure a : Interaction ε A α) = some (w, .ok a) := rfl

theorem serve_query {q : Q} {a : A q} (answered : answer w q = some (a, w₁)) :
    serve answer w (query q : Interaction ε A (A q)) = some (w₁, .ok a) := by
  rw [query, serve, answered]
  rfl

/-- A sequence goes on from where its first part ends. -/
theorem serve_bind {x : Interaction ε A α} {f : α → Interaction ε A β} {a : α}
    (first : serve answer w x = some (w₁, .ok a)) :
    serve answer w (x >>= f) = serve answer w₁ (f a) := by
  change serve answer w (x.bind f) = _
  induction x generalizing w with
  | done b =>
    obtain ⟨rfl, same⟩ := Prod.mk.inj (Option.some.inj first)
    obtain rfl := Except.ok.inj same
    rfl
  | raise e =>
    obtain ⟨-, same⟩ := Prod.mk.inj (Option.some.inj first)
    cases same
  | ask q next ih =>
    obtain ⟨⟨b, w₂⟩, answered, rest⟩ := Option.bind_eq_some_iff.1 first
    rw [Interaction.bind, serve, answered]
    exact ih b rest

end Serve

end Interaction

end RuleArena
