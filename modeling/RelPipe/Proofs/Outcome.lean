/-!
Computations that may fail, taken apart: one that succeeds has succeeded at each of its steps.
-/

namespace RelPipe

set_option autoImplicit false

variable {ε α β : Type}

theorem exists_of_bind_eq_ok {x : Except ε α} {f : α → Except ε β} {b : β}
    (h : x.bind f = .ok b) : ∃ a, x = .ok a ∧ f a = .ok b := by
  cases x with
  | error e => cases h
  | ok a => exact ⟨a, rfl, h⟩

theorem exists_of_map_eq_ok {x : Except ε α} {f : α → β} {b : β} (h : x.map f = .ok b) :
    ∃ a, x = .ok a ∧ f a = b := by
  cases x with
  | error e => cases h
  | ok a => exact ⟨a, rfl, Except.ok.inj h⟩

def Yields (x : Except ε α) (Q : α → Prop) : Prop := ∀ a, x = .ok a → Q a

theorem Yields.ok {a : α} {Q : α → Prop} (h : Q a) : Yields (.ok a : Except ε α) Q := by
  intro b hb
  cases hb
  exact h

theorem Yields.error {e : ε} {Q : α → Prop} : Yields (.error e) Q := by
  intro a ha
  cases ha

theorem Yields.bind {x : Except ε α} {f : α → Except ε β} {Q : α → Prop} {R : β → Prop}
    (hx : Yields x Q) (hf : ∀ a, Q a → Yields (f a) R) : Yields (x.bind f) R := by
  intro b hb
  obtain ⟨a, ha, hb⟩ := exists_of_bind_eq_ok hb
  exact hf a (hx a ha) b hb

theorem Yields.map {x : Except ε α} {f : α → β} {Q : α → Prop} {R : β → Prop}
    (hx : Yields x Q) (hf : ∀ a, Q a → R (f a)) : Yields (x.map f) R := by
  intro b hb
  obtain ⟨a, ha, rfl⟩ := exists_of_map_eq_ok hb
  exact hf a (hx a ha)

theorem Yields.mono {x : Except ε α} {Q R : α → Prop} (hx : Yields x Q) (h : ∀ a, Q a → R a) :
    Yields x R :=
  fun a ha => h a (hx a ha)

theorem Yields.from_bind {x : Except ε α} {f : α → Except ε β} {R : β → Prop}
    (h : ∀ a, x = .ok a → Yields (f a) R) : Yields (x.bind f) R := by
  intro b hb
  obtain ⟨a, ha, hb⟩ := exists_of_bind_eq_ok hb
  exact h a ha b hb

theorem Yields.from_map {x : Except ε α} {f : α → β} {R : β → Prop}
    (h : ∀ a, x = .ok a → R (f a)) : Yields (x.map f) R := by
  intro b hb
  obtain ⟨a, ha, rfl⟩ := exists_of_map_eq_ok hb
  exact h a ha

def FailsOnly (P : ε → Prop) (x : Except ε α) : Prop := ∀ e, x = .error e → P e

section

variable {P : ε → Prop}

theorem FailsOnly.ok {a : α} : FailsOnly P (.ok a) := by
  intro e he
  cases he

theorem FailsOnly.error {e : ε} (h : P e) : FailsOnly P (.error e : Except ε α) := by
  intro e' he
  cases he
  exact h

theorem FailsOnly.bind {x : Except ε α} {f : α → Except ε β} (hx : FailsOnly P x)
    (hf : ∀ a, x = .ok a → FailsOnly P (f a)) : FailsOnly P (x.bind f) := by
  cases x with
  | error e => exact .error (hx e rfl)
  | ok a => exact hf a rfl

theorem FailsOnly.map {x : Except ε α} (hx : FailsOnly P x) (f : α → β) :
    FailsOnly P (x.map f) := by
  cases x with
  | error e => exact .error (hx e rfl)
  | ok a => exact .ok

theorem FailsOnly.mono {Q : ε → Prop} {x : Except ε α} (hx : FailsOnly P x)
    (h : ∀ e, P e → Q e) : FailsOnly Q x :=
  fun e he => h e (hx e he)

end

/-- Two outcomes correspond: both succeed with results that are related, or both fail for causes
that are. -/
inductive Correspond {ε' : Type} (E : ε → ε' → Prop) (R : α → β → Prop) :
    Except ε α → Except ε' β → Prop where
  | ok {a : α} {b : β} (h : R a b) : Correspond E R (.ok a) (.ok b)
  | error {e : ε} {e' : ε'} (h : E e e') : Correspond E R (.error e) (.error e')

namespace Correspond

variable {ε' α' β' : Type} {E : ε → ε' → Prop} {R : α → α' → Prop} {S : β → β' → Prop}
  {x : Except ε α} {x' : Except ε' α'}

theorem bind {f : α → Except ε β} {f' : α' → Except ε' β'} (hx : Correspond E R x x')
    (hf : ∀ a a', R a a' → Correspond E S (f a) (f' a')) :
    Correspond E S (x.bind f) (x'.bind f') := by
  cases hx with
  | ok h => exact hf _ _ h
  | error h => exact .error h

theorem imp {E' : ε → ε' → Prop} {R' : α → α' → Prop} (hx : Correspond E R x x')
    (hE : ∀ e e', E e e' → E' e e') (hR : ∀ a a', R a a' → R' a a') : Correspond E' R' x x' := by
  cases hx with
  | ok h => exact .ok (hR _ _ h)
  | error h => exact .error (hE _ _ h)

theorem map {f : α → β} {f' : α' → β'} (hx : Correspond E R x x')
    (hf : ∀ a a', R a a' → S (f a) (f' a')) : Correspond E S (x.map f) (x'.map f') := by
  cases hx with
  | ok h => exact .ok (hf _ _ h)
  | error h => exact .error h

end Correspond

theorem eq_ok_of_toOption {x : Except ε α} {a : α} (h : x.toOption = some a) :
    x = .ok a := by
  cases x with
  | error e => cases h
  | ok b => exact congrArg _ (Option.some.inj h)

end RelPipe
