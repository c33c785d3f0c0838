import Mathlib

/-!
# Checked computations

A handler is a sequence of checks and updates, run in `Except`: the first check
that fails decides the outcome. The rules here take such a sequence apart, so
that a proof about a successful run starts from the facts its checks
established.
-/

namespace RuleArena

/-- Go on only if `c` holds, and fail with `e` otherwise. -/
def ensure {ε : Type} (c : Prop) [Decidable c] (e : ε) : Except ε Unit :=
  if c then .ok () else .error e

namespace Checked

variable {ε α β : Type}

@[simp] theorem ensure_eq_ok {c : Prop} [Decidable c] {e : ε} {u : Unit} :
    ensure c e = .ok u ↔ c := by
  unfold ensure; split <;> simp_all

@[simp] theorem ensure_eq_error {c : Prop} [Decidable c] {e e' : ε} :
    ensure c e = .error e' ↔ ¬ c ∧ e = e' := by
  unfold ensure; split <;> simp_all

theorem ensure_of_pos {c : Prop} [Decidable c] {e : ε} (h : c) : ensure c e = .ok () := if_pos h

theorem ensure_of_neg {c : Prop} [Decidable c] {e : ε} (h : ¬ c) : ensure c e = .error e :=
  if_neg h

/-- A sequence succeeds when its first part does and the rest succeeds on its value. -/
@[simp] theorem bind_eq_ok {x : Except ε α} {f : α → Except ε β} {b : β} :
    x >>= f = .ok b ↔ ∃ a, x = .ok a ∧ f a = .ok b := by
  cases x <;> simp [bind, Except.bind]

@[simp] theorem map_eq_ok {x : Except ε α} {f : α → β} {b : β} :
    f <$> x = .ok b ↔ ∃ a, x = .ok a ∧ f a = b := by
  cases x <;> simp [Functor.map, Except.map]

@[simp] theorem ok_bind {a : α} {f : α → Except ε β} : (Except.ok a >>= f) = f a := rfl

@[simp] theorem error_bind {e : ε} {f : α → Except ε β} :
    ((Except.error e : Except ε α) >>= f) = .error e := rfl

@[simp] theorem pure_eq_ok {a b : α} : (pure a : Except ε α) = .ok b ↔ a = b := by
  simp [pure, Except.pure]

@[simp] theorem throw_ne_ok {e : ε} {b : α} : (throw e : Except ε α) = .ok b ↔ False := by
  simp [throw, throwThe, MonadExceptOf.throw]

/-- Whether a computation comes to a value with a property. -/
instance decidableExistsOk {x : Except ε α} {Q : α → Prop} [DecidablePred Q] :
    Decidable (∃ a, x = .ok a ∧ Q a) :=
  match x with
  | .ok a => decidable_of_iff (Q a) ⟨fun h => ⟨a, rfl, h⟩, by rintro ⟨_, ⟨⟩, h⟩; exact h⟩
  | .error _ => .isFalse (by rintro ⟨_, ⟨⟩, -⟩)

/-! ## Errors -/

/-- Every error of a computation has a property. -/
def Fails (P : ε → Prop) (x : Except ε α) : Prop := ∀ e, x = .error e → P e

variable {P : ε → Prop}

theorem Fails.ok {a : α} : Fails P (.ok a) := nofun

theorem Fails.pure {a : α} : Fails P (pure a) := Fails.ok

theorem Fails.throw {e : ε} (h : P e) : Fails P (throw e : Except ε α) := by
  rintro _ ⟨⟩; exact h

theorem Fails.ensure {c : Prop} [Decidable c] {e : ε} (h : ¬ c → P e) : Fails P (ensure c e) := by
  intro e' he
  obtain ⟨hc, rfl⟩ := ensure_eq_error.1 he
  exact h hc

theorem Fails.ite {c : Prop} [Decidable c] {x y : Except ε α} (pos : Fails P x)
    (neg : Fails P y) : Fails P (if c then x else y) := by
  split
  · exact pos
  · exact neg

/-- A sequence fails where its first part fails, or the rest on its value. -/
theorem Fails.bind {x : Except ε α} {f : α → Except ε β} (h : Fails P x)
    (rest : ∀ a, x = .ok a → Fails P (f a)) : Fails P (x >>= f) := by
  intro e he
  cases x with
  | error e' => exact h e (by cases he; rfl)
  | ok a => exact rest a rfl e he

/-- The condition for every error of a sequence to have a property, first part first. -/
theorem fails_bind {x : Except ε α} {f : α → Except ε β} :
    Fails P (x >>= f) ↔ Fails P x ∧ ∀ a, x = .ok a → Fails P (f a) := by
  refine ⟨fun h => ⟨fun e he => h e (by rw [he]; rfl), ?_⟩, fun h => h.1.bind h.2⟩
  rintro a rfl
  exact h

theorem fails_ensure {c : Prop} [Decidable c] {e : ε} : Fails P (ensure c e) ↔ (¬ c → P e) :=
  ⟨fun h hc => h e (ensure_of_neg hc), Fails.ensure⟩

theorem fails_pure {a : α} : Fails P (pure a) ↔ True := iff_true_intro .pure

theorem fails_throw {e : ε} : Fails P (throw e : Except ε α) ↔ P e :=
  ⟨fun h => h e rfl, .throw⟩

/-- After a check that fails as it may, the rest counts only where the check passes. -/
theorem fails_ensure_bind {c : Prop} [Decidable c] {e : ε} {f : Unit → Except ε β} (h : P e) :
    Fails P (ensure c e >>= f) ↔ (c → Fails P (f ())) := by
  simp only [fails_bind, fails_ensure, ensure_eq_ok]
  exact ⟨fun h' => h'.2 (), fun h' => ⟨fun _ => h, fun _ => h'⟩⟩

/-! ## Values -/

/-- Every value that a computation comes to has a property. -/
def Yields (Q : α → Prop) (x : Except ε α) : Prop := ∀ a, x = .ok a → Q a

section Yields

variable {Q : α → Prop} {Q' : β → Prop}

theorem Yields.pure {a : α} (h : Q a) : Yields Q (pure a : Except ε α) := by
  rintro _ ⟨⟩; exact h

theorem Yields.bind {x : Except ε α} {f : α → Except ε β}
    (rest : ∀ a, x = .ok a → Yields Q' (f a)) : Yields Q' (x >>= f) := by
  intro b hb
  obtain ⟨a, ha, h⟩ := bind_eq_ok.1 hb
  exact rest a ha b h

/-- A sequence goes on from values that have the property of its first part. -/
theorem Yields.next {x : Except ε α} {f : α → Except ε β} (h : Yields Q x)
    (rest : ∀ a, Q a → Yields Q' (f a)) : Yields Q' (x >>= f) :=
  .bind fun a ha => rest a (h a ha)

theorem Yields.ite {c : Prop} [Decidable c] {x y : Except ε α} (pos : Yields Q x)
    (neg : Yields Q y) : Yields Q (if c then x else y) := by
  split
  · exact pos
  · exact neg

end Yields

/-! ## Two computations side by side -/

/-- Both computations succeed, with related values, or fail with the same error. -/
inductive Related (R : α → β → Prop) : Except ε α → Except ε β → Prop
  | ok {a : α} {b : β} (h : R a b) : Related R (.ok a) (.ok b)
  | error (e : ε) : Related R (.error e) (.error e)

variable {γ δ : Type} {R : α → β → Prop} {S : γ → δ → Prop}

theorem Related.pure {a : α} {b : β} (h : R a b) :
    Related R (pure a : Except ε α) (pure b) := .ok h

theorem Related.throw (e : ε) : Related R (throw e : Except ε α) (throw e) := .error e

/-- Two sequences go on from related values. -/
theorem Related.bind {x : Except ε α} {y : Except ε β} {f : α → Except ε γ} {g : β → Except ε δ}
    (h : Related R x y) (rest : ∀ a b, R a b → Related S (f a) (g b)) :
    Related S (x >>= f) (y >>= g) := by
  cases h with
  | ok h => exact rest _ _ h
  | error e => exact .error e

/-- Two sequences with the same first part go on from its value. -/
theorem Related.step (x : Except ε α) {f : α → Except ε γ} {g : α → Except ε δ}
    (rest : ∀ a, x = .ok a → Related S (f a) (g a)) : Related S (x >>= f) (x >>= g) := by
  cases x with
  | error e => exact .error e
  | ok a => exact rest a rfl

/-- Two computations that branch on the same condition. -/
theorem Related.ite {c : Prop} [Decidable c] {x x' : Except ε α} {y y' : Except ε β}
    (pos : c → Related R x y) (neg : ¬ c → Related R x' y') :
    Related R (if c then x else x') (if c then y else y') := by
  split
  · exact pos ‹_›
  · exact neg ‹_›

theorem Related.mono {T : α → β → Prop} {x : Except ε α} {y : Except ε β} (h : Related R x y)
    (imp : ∀ a b, R a b → T a b) : Related T x y := by
  cases h with
  | ok h => exact .ok (imp _ _ h)
  | error e => exact .error e

/-- Two computations related to a third one are related to each other. -/
theorem Related.join {x : Except ε α} {y : Except ε α} {z : Except ε β} (h : Related R x z)
    (h' : Related R y z) : Related (fun a b => ∃ c, R a c ∧ R b c) x y := by
  cases h with
  | ok h =>
    cases h' with
    | ok h' => exact .ok ⟨_, h, h'⟩
  | error e =>
    cases h' with
    | error => exact .error e

end Checked

end RuleArena
