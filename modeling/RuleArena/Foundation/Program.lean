import Mathlib.Order.Defs.Unbundled
import RuleArena.Foundation.Checked

/-!
# Programs with a state

A program changes a state, and ends with a value or an exception; what it has
done to the state before an exception stays done (`Program`). A triple
(`Program.Meets`) says what holds afterwards, of the value and the state or of
the exception and the state. There is a rule for each way to put programs
together.
-/

namespace RuleArena

/-- A program over a state `σ` that may raise an exception `ε`. -/
def Program (ε σ α : Type) : Type := σ → Except ε α × σ

namespace Program

variable {ε σ α β : Type}

def bind (m : Program ε σ α) (f : α → Program ε σ β) : Program ε σ β := fun s =>
  match m s with
  | (.ok a, s) => f a s
  | (.error e, s) => (.error e, s)

instance : Monad (Program ε σ) where
  pure a s := (.ok a, s)
  bind := bind

def raise (e : ε) : Program ε σ α := fun s => (.error e, s)

/-- A change of the state. -/
def modify (f : σ → σ) : Program ε σ Unit := fun s => (.ok (), f s)

/-- A computation without a state. -/
def ofExcept : Except ε α → Program ε σ α
  | .ok a => pure a
  | .error e => raise e

/-- A program with a handler, after which its exception is raised again. -/
def rescue (m : Program ε σ α) (handler : ε → Program ε σ Unit) : Program ε σ α := fun s =>
  match m s with
  | (.ok a, s) => (.ok a, s)
  | (.error e, s) => (handler e >>= fun _ => raise e) s

/-! ## Results -/

/-- What a program ends with, unless it raises an exception. -/
def result? (m : Program ε σ α) (s : σ) : Option (α × σ) :=
  match m s with
  | (.ok a, s) => some (a, s)
  | (.error _, _) => none

theorem result?_eq_some {m : Program ε σ α} {s s' : σ} {a : α} :
    m.result? s = some (a, s') ↔ m s = (.ok a, s') := by
  unfold result?
  cases m s with
  | mk result s₁ =>
    cases result with
    | ok b => simp
    | error e => simp

theorem bind_ok {m : Program ε σ α} {f : α → Program ε σ β} {s s' : σ} {a : α}
    (h : m s = (.ok a, s')) : (m >>= f) s = f a s' := by
  change Program.bind m f s = _
  rw [Program.bind, h]

theorem of_bind_ok {m : Program ε σ α} {f : α → Program ε σ β} {s s' : σ} {b : β}
    (h : (m >>= f) s = (.ok b, s')) : ∃ a s₁, m s = (.ok a, s₁) ∧ f a s₁ = (.ok b, s') := by
  change Program.bind m f s = _ at h
  unfold Program.bind at h
  cases hm : m s with
  | mk result s₁ =>
    rw [hm] at h
    cases result with
    | ok a => exact ⟨a, s₁, rfl, h⟩
    | error e => cases h

/-! ## Triples -/

/-- From a state with the property `P` a program ends with a value and a state in `Q`, or with
    an exception and a state in `E`. -/
def Meets (P : σ → Prop) (m : Program ε σ α) (Q : α → σ → Prop) (E : ε → σ → Prop) : Prop :=
  ∀ s, P s → (∀ a s', m s = (.ok a, s') → Q a s') ∧ ∀ e s', m s = (.error e, s') → E e s'

variable {P P' : σ → Prop} {Q Q' : α → σ → Prop} {R : β → σ → Prop} {E E' : ε → σ → Prop}
  {m : Program ε σ α}

theorem Meets.mono (h : Meets P' m Q' E') (pre : ∀ s, P s → P' s)
    (post : ∀ a s, Q' a s → Q a s) (raised : ∀ e s, E' e s → E e s) : Meets P m Q E := by
  intro s hs
  obtain ⟨ok, error⟩ := h s (pre s hs)
  exact ⟨fun a s' eq => post a s' (ok a s' eq), fun e s' eq => raised e s' (error e s' eq)⟩

/-- Two triples of one program are one. -/
theorem Meets.and (h : Meets P m Q E) (h' : Meets P' m Q' E') :
    Meets (fun s => P s ∧ P' s) m (fun a s => Q a s ∧ Q' a s) fun e s => E e s ∧ E' e s := by
  intro s hs
  obtain ⟨ok, error⟩ := h s hs.1
  obtain ⟨ok', error'⟩ := h' s hs.2
  exact ⟨fun a s' eq => ⟨ok a s' eq, ok' a s' eq⟩, fun e s' eq => ⟨error e s' eq, error' e s' eq⟩⟩

/-- From either of two states the same is met. -/
theorem Meets.or (h : Meets P m Q E) (h' : Meets P' m Q E) : Meets (fun s => P s ∨ P' s) m Q E :=
  fun s hs => hs.elim (h s) (h' s)

/-- A triple that is of use in some cases only. -/
theorem Meets.imp {R : Prop} (h : R → Meets P m Q E) :
    Meets (fun s => R → P s) m (fun a s => R → Q a s) fun e s => R → E e s :=
  fun s hs => ⟨fun a s' eq r => (h r s (hs r)).1 a s' eq, fun e s' eq r => (h r s (hs r)).2 e s' eq⟩

/-- What holds whatever the state is can be used as a hypothesis. -/
theorem Meets.of_pre {φ : Prop} (h : ∀ s, P s → φ) (rest : φ → Meets P m Q E) : Meets P m Q E :=
  fun s hs => rest (h s hs) s hs

/-- A part of the state can be fixed. -/
theorem Meets.of_part {τ : Type} (part : σ → τ) {I : τ → Prop}
    (h : ∀ t, I t → Meets (fun s => part s = t) m Q E) : Meets (fun s => I (part s)) m Q E :=
  fun s hs => h (part s) hs s rfl

theorem Meets.pure {a : α} (h : ∀ s, P s → Q a s) : Meets P (pure a : Program ε σ α) Q E := by
  intro s hs
  refine ⟨?_, ?_⟩
  · rintro _ _ ⟨⟩
    exact h s hs
  · rintro _ _ ⟨⟩

theorem Meets.raise {e : ε} (h : ∀ s, P s → E e s) :
    Meets P (Program.raise e : Program ε σ α) Q E := by
  intro s hs
  refine ⟨?_, ?_⟩
  · rintro _ _ ⟨⟩
  · rintro _ _ ⟨⟩
    exact h s hs

/-- A sequence goes on from what holds after its first part. -/
theorem Meets.bind {f : α → Program ε σ β} (h : Meets P m Q E) (rest : ∀ a, Meets (Q a) (f a) R E) :
    Meets P (m >>= f) R E := by
  intro s hs
  obtain ⟨ok, error⟩ := h s hs
  change (∀ b s', Program.bind m f s = _ → _) ∧ ∀ e s', Program.bind m f s = _ → _
  unfold Program.bind
  cases hm : m s with
  | mk result s₁ =>
    cases result with
    | ok a => exact rest a s₁ (ok a s₁ hm)
    | error e =>
      refine ⟨?_, ?_⟩
      · rintro _ _ ⟨⟩
      · rintro _ _ ⟨⟩
        exact error e s₁ hm

theorem Meets.modify {f : σ → σ} {Q : Unit → σ → Prop} (h : ∀ s, P s → Q () (f s)) :
    Meets P (modify f) Q E := by
  intro s hs
  refine ⟨?_, ?_⟩
  · rintro _ _ ⟨⟩
    exact h s hs
  · rintro _ _ ⟨⟩

theorem Meets.ofExcept {x : Except ε α} (ok : ∀ a, x = .ok a → ∀ s, P s → Q a s)
    (error : ∀ e, x = .error e → ∀ s, P s → E e s) :
    Meets P (ofExcept x : Program ε σ α) Q E := by
  cases x with
  | ok a => exact .pure (ok a rfl)
  | error e => exact .raise (error e rfl)

theorem Meets.ite {c : Prop} [Decidable c] {n : Program ε σ α} (pos : c → Meets P m Q E)
    (neg : ¬ c → Meets P n Q E) : Meets P (if c then m else n) Q E := by
  split
  · exact pos ‹_›
  · exact neg ‹_›

/-- A handler that keeps what holds of the exception. -/
theorem Meets.rescue {handler : ε → Program ε σ Unit} (h : Meets P m Q E)
    (keeps : ∀ e, Meets (E e) (handler e) (fun _ => E e) E) : Meets P (rescue m handler) Q E := by
  intro s hs
  obtain ⟨ok, error⟩ := h s hs
  unfold Program.rescue
  cases hm : m s with
  | mk result s₁ =>
    cases result with
    | ok a =>
      refine ⟨?_, ?_⟩
      · rintro _ _ ⟨⟩
        exact ok a s₁ hm
      · rintro _ _ ⟨⟩
    | error e =>
      have after : Meets (E e) (handler e >>= fun _ => Program.raise e) Q E :=
        (keeps e).bind fun _ => .raise fun _ h => h
      exact after s₁ (error e s₁ hm)

/-! ## Parts of the state -/

/-- A program that leaves a part of the state alone. -/
def Keeps {τ : Type} (part : σ → τ) (m : Program ε σ α) : Prop :=
  ∀ s, part (m s).2 = part s

section Keeps

variable {τ : Type} {part : σ → τ}

theorem Keeps.pure (a : α) : Keeps part (pure a : Program ε σ α) := fun _ => rfl

theorem Keeps.raise (e : ε) : Keeps part (Program.raise e : Program ε σ α) := fun _ => rfl

theorem Keeps.bind {f : α → Program ε σ β} (h : Keeps part m) (rest : ∀ a, Keeps part (f a)) :
    Keeps part (m >>= f) := by
  intro s
  have kept := h s
  change part (Program.bind m f s).2 = part s
  unfold Program.bind
  cases hm : m s with
  | mk result s₁ =>
    rw [hm] at kept
    cases result with
    | ok a => exact (rest a s₁).trans kept
    | error e => exact kept

theorem Keeps.ite {c : Prop} [Decidable c] {n : Program ε σ α} (pos : Keeps part m)
    (neg : Keeps part n) : Keeps part (if c then m else n) := by
  split
  · exact pos
  · exact neg

theorem Keeps.of_eq {s s' : σ} {result : Except ε α} (h : Keeps part m)
    (eq : m s = (result, s')) : part s' = part s := by
  rw [← h s, eq]

/-- What holds of the part holds afterwards, however the program ends. -/
theorem Keeps.meets (h : Keeps part m) (I : τ → Prop) :
    Meets (fun s => I (part s)) m (fun _ s => I (part s)) fun _ s => I (part s) := by
  intro s hs
  refine ⟨fun a s' eq => ?_, fun e s' eq => ?_⟩
  · change I (part s')
    rw [h.of_eq eq]
    exact hs
  · change I (part s')
    rw [h.of_eq eq]
    exact hs

end Keeps

/-! ## Moves of the state -/

/-- A program that moves the state along a relation, however it ends. -/
def Moves (r : σ → σ → Prop) (m : Program ε σ α) : Prop :=
  ∀ s, r s (m s).2

section Moves

variable {r : σ → σ → Prop}

theorem Moves.pure [Std.Refl r] (a : α) : Moves r (pure a : Program ε σ α) :=
  fun s => Std.Refl.refl s

theorem Moves.raise [Std.Refl r] (e : ε) : Moves r (Program.raise e : Program ε σ α) :=
  fun s => Std.Refl.refl s

theorem Moves.bind [IsTrans σ r] {f : α → Program ε σ β} (h : Moves r m)
    (rest : ∀ a, Moves r (f a)) : Moves r (m >>= f) := by
  intro s
  have moved := h s
  change r s (Program.bind m f s).2
  unfold Program.bind
  cases hm : m s with
  | mk result s₁ =>
    rw [hm] at moved
    cases result with
    | ok a => exact IsTrans.trans _ _ _ moved (rest a s₁)
    | error e => exact moved

theorem Moves.ite {c : Prop} [Decidable c] {n : Program ε σ α} (pos : Moves r m)
    (neg : Moves r n) : Moves r (if c then m else n) := by
  split
  · exact pos
  · exact neg

/-- What holds before and is kept along the relation holds afterwards, however the program
    ends. -/
theorem Moves.meets (h : Moves r m) {I : σ → Prop} (keeps : ∀ s s', r s s' → I s → I s') :
    Meets I m (fun _ => I) fun _ => I := by
  intro s hs
  have kept : I (m s).2 := keeps s _ (h s) hs
  refine ⟨fun a s' eq => ?_, fun e s' eq => ?_⟩
  · rw [eq] at kept
    exact kept
  · rw [eq] at kept
    exact kept

end Moves

end Program

end RuleArena
