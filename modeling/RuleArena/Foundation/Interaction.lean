import RuleArena.Foundation.Checked

/-!
# Computations that ask

A computation asks its surroundings questions, one after the other, and goes on
from the answers (`Interaction`). Nothing is assumed of the answers: a *run* is
what happens for any answers, the questions with their answers in order and how
the computation ends (`Runs`). An *environment* answers every question, knowing
what has been asked before, and determines a run (`exchanges`, `outcome`).

Two computations are *similar* if they ask the same questions as long as the
answers are related, and end alike (`Similar`). Between environments that give
related answers they cannot be told apart by what they ask and how they end.
-/

namespace RuleArena

/-- A computation that asks questions `q` for answers in `A q`, and ends with a value or an
    exception. -/
inductive Interaction (ε : Type) {Q : Type} (A : Q → Type) (α : Type)
  | done (a : α)
  | raise (e : ε)
  | ask (q : Q) (next : A q → Interaction ε A α)

/-- A question with its answer. -/
abbrev Exchange {Q : Type} (A : Q → Type) := Sigma A

/-- Answers to all questions, given what has been asked and answered before. -/
abbrev Environment {Q : Type} (A : Q → Type) := List (Exchange A) → ∀ q, A q

namespace Interaction

variable {ε Q α β : Type} {A : Q → Type}

def bind : Interaction ε A α → (α → Interaction ε A β) → Interaction ε A β
  | done a, f => f a
  | raise e, _ => raise e
  | ask q next, f => ask q fun a => (next a).bind f

instance : Monad (Interaction ε A) where
  pure := done
  bind := bind

/-- One question, for its answer. -/
def query (q : Q) : Interaction ε A (A q) := ask q done

/-! ## Runs -/

/-- A run of a computation, for some answers. -/
inductive Runs : Interaction ε A α → List (Exchange A) → Except ε α → Prop
  | done (a : α) : Runs (done a) [] (.ok a)
  | raise (e : ε) : Runs (raise e) [] (.error e)
  | ask {q : Q} {next : A q → Interaction ε A α} {a : A q} {log : List (Exchange A)}
      {result : Except ε α} (rest : Runs (next a) log result) :
      Runs (ask q next) (⟨q, a⟩ :: log) result

variable {log : List (Exchange A)} {result : Except ε α}

theorem runs_done {a : α} :
    Runs (done a : Interaction ε A α) log result ↔ log = [] ∧ result = .ok a := by
  constructor
  · rintro ⟨⟩
    exact ⟨rfl, rfl⟩
  · rintro ⟨rfl, rfl⟩
    exact .done a

theorem runs_pure {a : α} :
    Runs (pure a : Interaction ε A α) log result ↔ log = [] ∧ result = .ok a := runs_done

theorem runs_raise {e : ε} :
    Runs (raise e : Interaction ε A α) log result ↔ log = [] ∧ result = .error e := by
  constructor
  · rintro ⟨⟩
    exact ⟨rfl, rfl⟩
  · rintro ⟨rfl, rfl⟩
    exact .raise e

theorem runs_ask {q : Q} {next : A q → Interaction ε A α} :
    Runs (ask q next) log result ↔
      ∃ a log', log = ⟨q, a⟩ :: log' ∧ Runs (next a) log' result := by
  constructor
  · rintro ⟨⟩
    exact ⟨_, _, rfl, ‹_›⟩
  · rintro ⟨a, log', rfl, rest⟩
    exact rest.ask

/-- A question comes first, and the rest goes on from any answer to it. -/
theorem runs_query {q : Q} {f : A q → Interaction ε A α} :
    Runs (query q >>= f) log result ↔ ∃ a log', log = ⟨q, a⟩ :: log' ∧ Runs (f a) log' result :=
  runs_ask

/-- A run of a sequence is a run of its first part, and if that comes to a value then a run of the
    rest. -/
theorem runs_bind {x : Interaction ε A α} {f : α → Interaction ε A β} {result : Except ε β} :
    Runs (x >>= f) log result ↔
      (∃ a first rest, log = first ++ rest ∧ Runs x first (.ok a) ∧ Runs (f a) rest result) ∨
        ∃ e, Runs x log (.error e) ∧ result = .error e := by
  change Runs (x.bind f) log result ↔ _
  induction x generalizing log with
  | done a =>
    constructor
    · exact fun h => .inl ⟨a, [], log, rfl, .done a, h⟩
    · rintro (⟨_, _, rest, rfl, ⟨⟩, h⟩ | ⟨e, ⟨⟩, -⟩)
      exact h
  | raise e =>
    constructor
    · rintro ⟨⟩
      exact .inr ⟨e, .raise e, rfl⟩
    · rintro (⟨_, _, _, -, ⟨⟩, -⟩ | ⟨_, ⟨⟩, rfl⟩)
      exact .raise e
  | ask q next ih =>
    simp only [runs_ask, bind, ih]
    constructor
    · rintro ⟨a, log', rfl, ⟨b, first, rest, rfl, h, h'⟩ | ⟨e, h, rfl⟩⟩
      · exact .inl ⟨b, ⟨q, a⟩ :: first, rest, rfl, ⟨a, first, rfl, h⟩, h'⟩
      · exact .inr ⟨e, ⟨a, log', rfl, h⟩, rfl⟩
    · rintro (⟨b, _, rest, rfl, ⟨a, first, rfl, h⟩, h'⟩ | ⟨e, ⟨a, log', rfl, h⟩, rfl⟩)
      · exact ⟨a, first ++ rest, rfl, .inl ⟨b, first, rest, rfl, h, h'⟩⟩
      · exact ⟨a, log', rfl, .inr ⟨e, h, rfl⟩⟩

/-! ## Environments -/

/-- What is asked in an environment, after `history`. -/
def exchanges (environment : Environment A) : Interaction ε A α → List (Exchange A) →
    List (Exchange A)
  | done _, _ | raise _, _ => []
  | ask q next, history =>
    ⟨q, environment history q⟩ :: (next (environment history q)).exchanges environment
      (history ++ [⟨q, environment history q⟩])

/-- How a computation ends in an environment, after `history`. -/
def outcome (environment : Environment A) : Interaction ε A α → List (Exchange A) → Except ε α
  | done a, _ => .ok a
  | raise e, _ => .error e
  | ask q next, history => (next (environment history q)).outcome environment
      (history ++ [⟨q, environment history q⟩])

/-- An environment determines a run. -/
theorem runs_environment (environment : Environment A) (x : Interaction ε A α)
    (history : List (Exchange A)) :
    Runs x (x.exchanges environment history) (x.outcome environment history) := by
  induction x generalizing history with
  | done a => exact .done a
  | raise e => exact .raise e
  | ask q next ih => exact (ih _ _).ask

/-- What is asked in an environment is answered by it. -/
theorem mem_exchanges {environment : Environment A} {x : Interaction ε A α}
    {history : List (Exchange A)} {exchange : Exchange A}
    (mem : exchange ∈ x.exchanges environment history) :
    ∃ history, exchange.2 = environment history exchange.1 := by
  induction x generalizing history with
  | done a => cases mem
  | raise e => cases mem
  | ask q next ih =>
    rcases List.mem_cons.1 mem with rfl | later
    · exact ⟨history, rfl⟩
    · exact ih _ later

/-! ## Two computations side by side -/

section Similar

variable {γ δ : Type} (R : ∀ q, A q → A q → Prop)

/-- Two computations ask the same questions, as long as their answers are related, and end with
    related values or the same exception. -/
inductive Similar (S : α → β → Prop) : Interaction ε A α → Interaction ε A β → Prop
  | done {a : α} {b : β} (h : S a b) : Similar S (done a) (done b)
  | raise (e : ε) : Similar S (raise e) (raise e)
  | ask {q : Q} {next : A q → Interaction ε A α} {next' : A q → Interaction ε A β}
      (rest : ∀ a a', R q a a' → Similar S (next a) (next' a')) :
      Similar S (ask q next) (ask q next')

variable {R} {S : α → β → Prop} {T : γ → δ → Prop}

theorem Similar.bind {x : Interaction ε A α} {y : Interaction ε A β}
    {f : α → Interaction ε A γ} {g : β → Interaction ε A δ} (h : Similar R S x y)
    (rest : ∀ a b, S a b → Similar R T (f a) (g b)) : Similar R T (x >>= f) (y >>= g) := by
  induction h with
  | done h => exact rest _ _ h
  | raise e => exact .raise e
  | ask _ ih => exact .ask ih

theorem Similar.query (q : Q) : Similar (ε := ε) R (R q) (query q) (query q) :=
  .ask fun _ _ h => .done h

/-- The same question with an answer each. -/
def RelatedExchange (R : ∀ q, A q → A q → Prop) (e e' : Exchange A) : Prop :=
  ∃ q a a', e = ⟨q, a⟩ ∧ e' = ⟨q, a'⟩ ∧ R q a a'

/-- Environments that give related answers after related histories. -/
def RelatedEnvironments (R : ∀ q, A q → A q → Prop) (environment environment' : Environment A) :
    Prop :=
  ∀ history history', List.Forall₂ (RelatedExchange R) history history' →
    ∀ q, R q (environment history q) (environment' history' q)

/-- In related environments similar computations ask the same, get related answers, and end
    alike. -/
theorem Similar.run {x : Interaction ε A α} {y : Interaction ε A β} (h : Similar R S x y)
    {environment environment' : Environment A}
    (related : RelatedEnvironments R environment environment')
    {history history' : List (Exchange A)}
    (before : List.Forall₂ (RelatedExchange R) history history') :
    List.Forall₂ (RelatedExchange R) (x.exchanges environment history)
        (y.exchanges environment' history') ∧
      Checked.Related S (x.outcome environment history) (y.outcome environment' history') := by
  induction h generalizing history history' with
  | done h => exact ⟨.nil, .ok h⟩
  | raise e => exact ⟨.nil, .error e⟩
  | @ask q _ _ _ ih =>
    have answers := related history history' before q
    have exchange : RelatedExchange R ⟨q, environment history q⟩ ⟨q, environment' history' q⟩ :=
      ⟨q, _, _, rfl, rfl, answers⟩
    obtain ⟨asked, ended⟩ := ih _ _ answers (List.rel_append before (.cons exchange .nil))
    exact ⟨.cons exchange asked, ended⟩

theorem RelatedExchange.fst_eq {e e' : Exchange A} (h : RelatedExchange R e e') : e.1 = e'.1 := by
  obtain ⟨q, a, a', rfl, rfl, -⟩ := h
  rfl

/-- Related exchanges are about the same questions. -/
theorem map_fst_eq {log log' : List (Exchange A)}
    (h : List.Forall₂ (RelatedExchange R) log log') : log.map Sigma.fst = log'.map Sigma.fst := by
  induction h with
  | nil => rfl
  | cons h _ ih => rw [List.map_cons, List.map_cons, h.fst_eq, ih]

end Similar

end Interaction

end RuleArena
