/-
Outcomes of code that may crash.

A processor answers with a value or with an error.  It may also crash, which no
node and no pipeline handles: a crash ends whatever runs it, up to the executor
that contains it.  The payload of a crash may or may not carry a text.
-/
namespace Dataflow

inductive Outcome (ε α : Type) where
  | ok (value : α)
  | error (e : ε)
  | crash (message : Option String)
  deriving DecidableEq, Inhabited

namespace Outcome

variable {ε ε' α β : Type}

def bind (x : Outcome ε α) (f : α → Outcome ε β) : Outcome ε β :=
  match x with
  | ok a => f a
  | error e => error e
  | crash m => crash m

instance : Monad (Outcome ε) where
  pure := ok
  bind := bind

def mapError (f : ε → ε') : Outcome ε α → Outcome ε' α
  | ok a => ok a
  | error e => error (f e)
  | crash m => crash m

def ofExcept : Except ε α → Outcome ε α
  | .ok a => ok a
  | .error e => error e

instance : MonadLift (Except ε) (Outcome ε) := ⟨ofExcept⟩

@[simp] theorem ok_bind (a : α) (f : α → Outcome ε β) : (ok a >>= f) = f a := rfl

@[simp] theorem error_bind (e : ε) (f : α → Outcome ε β) : (error e >>= f) = error e := rfl

@[simp] theorem crash_bind (m : Option String) (f : α → Outcome ε β) :
    (crash m >>= f) = (crash m : Outcome ε β) := rfl

@[simp] theorem lift_ok (a : α) : (liftM (Except.ok a : Except ε α) : Outcome ε α) = ok a := rfl

@[simp] theorem lift_error (e : ε) :
    (liftM (Except.error e : Except ε α) : Outcome ε α) = error e := rfl

@[simp] theorem pure_eq (a : α) : (pure a : Outcome ε α) = ok a := rfl

instance : LawfulMonad (Outcome ε) := .mk' (Outcome ε)
  (fun x => by cases x <;> rfl)
  (fun _ _ => rfl)
  (fun x _ _ => by cases x <;> rfl)

@[simp] theorem mapError_ok (f : ε → ε') (a : α) : (ok a).mapError f = ok a := rfl

@[simp] theorem mapError_error (f : ε → ε') (e : ε) :
    (error e : Outcome ε α).mapError f = error (f e) := rfl

@[simp] theorem mapError_crash (f : ε → ε') (m : Option String) :
    (crash m : Outcome ε α).mapError f = crash m := rfl

theorem mapError_bind (f : ε → ε') (x : Outcome ε α) (g : α → Outcome ε β) :
    (x >>= g).mapError f = x.mapError f >>= fun a => (g a).mapError f := by
  cases x <;> rfl

theorem bind_eq_ok_iff {x : Outcome ε α} {f : α → Outcome ε β} {b : β} :
    (x >>= f) = ok b ↔ ∃ a, x = ok a ∧ f a = ok b := by
  cases x with
  | ok a => simp
  | error e => simp
  | crash m => simp

theorem mapError_eq_ok_iff {f : ε → ε'} {x : Outcome ε α} {a : α} :
    x.mapError f = ok a ↔ x = ok a := by
  cases x with
  | ok b => simp [mapError]
  | error e => simp [mapError]
  | crash m => simp [mapError]

theorem lift_eq_ok_iff {x : Except ε α} {a : α} :
    (liftM x : Outcome ε α) = ok a ↔ x = .ok a := by
  cases x with
  | ok b => exact ⟨fun h => by cases h; rfl, fun h => by cases h; rfl⟩
  | error e => exact ⟨nofun, nofun⟩

theorem bind_eq_error_iff {x : Outcome ε α} {f : α → Outcome ε β} {e : ε} :
    (x >>= f) = error e ↔ x = error e ∨ ∃ a, x = ok a ∧ f a = error e := by
  cases x with
  | ok a => simp
  | error e' => simp
  | crash m => simp

theorem mapError_eq_error_iff {f : ε → ε'} {x : Outcome ε α} {e : ε'} :
    x.mapError f = error e ↔ ∃ cause, x = error cause ∧ e = f cause := by
  cases x with
  | ok a => simp [mapError]
  | error cause => simp [mapError, eq_comm]
  | crash m => simp [mapError]

theorem lift_eq_error_iff {x : Except ε α} {e : ε} :
    (liftM x : Outcome ε α) = error e ↔ x = .error e := by
  cases x with
  | ok a => exact ⟨nofun, nofun⟩
  | error e' => exact ⟨fun h => by cases h; rfl, fun h => by cases h; rfl⟩

theorem bind_eq_crash_iff {x : Outcome ε α} {f : α → Outcome ε β} {m : Option String} :
    (x >>= f) = crash m ↔ x = crash m ∨ ∃ a, x = ok a ∧ f a = crash m := by
  cases x with
  | ok a => simp
  | error e => simp
  | crash m' => simp

theorem mapError_eq_crash_iff {f : ε → ε'} {x : Outcome ε α} {m : Option String} :
    x.mapError f = crash m ↔ x = crash m := by
  cases x with
  | ok a => simp [mapError]
  | error e => simp [mapError]
  | crash m' => simp [mapError]

theorem lift_ne_crash (x : Except ε α) (m : Option String) :
    (liftM x : Outcome ε α) ≠ crash m := by
  cases x with
  | ok a => exact nofun
  | error e => exact nofun

end Outcome

theorem Except.bind_eq_ok_iff {ε α β : Type} {x : Except ε α} {f : α → Except ε β} {b : β} :
    (x >>= f) = .ok b ↔ ∃ a, x = .ok a ∧ f a = .ok b := by
  cases x with
  | ok a => exact ⟨fun h => ⟨a, rfl, h⟩, fun ⟨_, ha, h⟩ => by cases ha; exact h⟩
  | error e => exact ⟨nofun, fun ⟨_, ha, _⟩ => nomatch ha⟩

theorem Except.bind_eq_error_iff {ε α β : Type} {x : Except ε α} {f : α → Except ε β} {e : ε} :
    (x >>= f) = .error e ↔ x = .error e ∨ ∃ a, x = .ok a ∧ f a = .error e := by
  cases x with
  | ok a =>
    refine ⟨fun h => .inr ⟨a, rfl, h⟩, ?_⟩
    rintro (h | ⟨_, ha, h⟩)
    · cases h
    · cases ha
      exact h
  | error e' =>
    refine ⟨fun h => .inl (by cases h; rfl), ?_⟩
    rintro (h | ⟨_, ha, -⟩)
    · cases h
      rfl
    · cases ha

theorem Except.mapError_eq_ok_iff {ε ε' α : Type} {f : ε → ε'} {x : Except ε α} {a : α} :
    x.mapError f = .ok a ↔ x = .ok a := by
  cases x with
  | ok b => exact ⟨fun h => by cases h; rfl, fun h => by cases h; rfl⟩
  | error e => exact ⟨nofun, nofun⟩

theorem Except.mapError_eq_error_iff {ε ε' α : Type} {f : ε → ε'} {x : Except ε α} {e : ε'} :
    x.mapError f = .error e ↔ ∃ cause, x = .error cause ∧ e = f cause := by
  cases x with
  | ok a => exact ⟨nofun, fun ⟨_, h, _⟩ => nomatch h⟩
  | error cause =>
    refine ⟨fun h => ⟨cause, rfl, by cases h; rfl⟩, ?_⟩
    rintro ⟨_, h, rfl⟩
    cases h
    rfl

theorem Except.toOption_eq_some_iff {ε α : Type} {x : Except ε α} {a : α} :
    x.toOption = some a ↔ x = .ok a := by
  cases x with
  | ok b => exact ⟨fun h => by cases h; rfl, fun h => by cases h; rfl⟩
  | error e => exact ⟨nofun, nofun⟩

/-- The text of a crash whose payload carried none. -/
def crashText (message : Option String) : String := message.getD "non-string panic payload"

end Dataflow
