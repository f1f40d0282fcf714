import TradeExecutor.State.Identifier

/-! # Python methods that mutate in place and may raise

The source mutates its state objects in place and signals failure by raising.
A method over a state `σ` is an `EStateM Error σ` computation (`TradeExecutor.Exec`):
when it raises, the error carries the state as it stood at the `raise`, with every
mutation made before it. `assert` is `TradeExecutor.pyAssert`. The lemmas below
peel a `do` block apart without unfolding the methods it calls.
-/

namespace TradeExecutor

/-- The exceptions the modelled code raises. Assertion messages are the text of the
source's message up to its first interpolated value. -/
inductive Error where
  | assertionError (message : String)
  | attributeError (name : String)
  | unknownAsset (asset : AssetIdentifier)
  | keyError
  | divisionByZero
  | liquidationRisked
  | repairAborted
  | indexError
  | valueError
  | unknownLendingReserve (message : String)
  | nodeError (message : String)
  deriving Repr

/-- A method that mutates a `σ` in place and may raise. -/
abbrev Exec (σ : Type) := EStateM Error σ

/-- Python's `assert condition, message`, in a method that mutates a state or in a
function that only raises. -/
def pyAssert {m : Type → Type} [Monad m] [MonadExceptOf Error m] (condition : Prop)
    [Decidable condition] (message : String) : m Unit :=
  if condition then pure () else throwThe Error (.assertionError message)

/-- Python's `Decimal` division, which raises on a zero divisor. -/
def decimalDiv {m : Type → Type} [Monad m] [MonadExceptOf Error m] (dividend divisor : ℚ) : m ℚ :=
  if divisor = 0 then throwThe Error .divisionByZero else pure (dividend / divisor)

variable {σ α β : Type} {s s' : σ} {e : Error}

@[simp] theorem pure_apply (a : α) : (pure a : Exec σ α) s = .ok a s := rfl

@[simp] theorem throw_apply : (throw e : Exec σ α) s = .error e s := rfl

@[simp] theorem throwThe_apply : (throwThe Error e : Exec σ α) s = .error e s := rfl

@[simp] theorem get_apply : (get : Exec σ σ) s = .ok s s := rfl

@[simp] theorem set_apply : (set s' : Exec σ PUnit) s = .ok ⟨⟩ s' := rfl

@[simp] theorem modify_apply (f : σ → σ) : (modify f : Exec σ PUnit) s = .ok ⟨⟩ (f s) := rfl

@[simp] theorem modifyGet_apply (f : σ → α × σ) :
    (modifyGet f : Exec σ α) s = .ok (f s).1 (f s).2 := rfl

@[simp] theorem get_bind (f : σ → Exec σ α) : (get >>= f) s = f s s := rfl

@[simp] theorem set_bind (f : PUnit → Exec σ α) : (set s' >>= f) s = f ⟨⟩ s' := rfl

@[simp] theorem modify_bind (g : σ → σ) (f : PUnit → Exec σ α) :
    (modify g >>= f) s = f ⟨⟩ (g s) := rfl

@[simp] theorem pure_bind_apply (a : α) (f : α → Exec σ β) : (pure a >>= f) s = f a s := rfl

@[simp] theorem throw_bind (f : α → Exec σ β) : (throw e >>= f) s = .error e s := rfl

/-- An assertion in a `do` block either passes on to the rest or raises its message. -/
@[simp] theorem pyAssert_bind {condition : Prop} [Decidable condition] {message : String}
    (f : Unit → Exec σ α) :
    (pyAssert condition message >>= f) s =
      if condition then f () s else .error (.assertionError message) s := by
  unfold pyAssert
  split <;> rfl

/-- A `Decimal` division in a `do` block either passes its quotient on or raises. -/
@[simp] theorem decimalDiv_bind (dividend divisor : ℚ) (f : ℚ → Exec σ α) :
    (decimalDiv dividend divisor >>= f) s =
      if divisor = 0 then .error .divisionByZero s else f (dividend / divisor) s := by
  unfold decimalDiv
  split <;> rfl

/-- A bind whose first part returned continues with the rest. -/
theorem bind_of_ok {x : Exec σ α} {f : α → Exec σ β} {a : α} (returned : x s = .ok a s') :
    (x >>= f) s = f a s' := by
  show EStateM.bind x f s = _
  unfold EStateM.bind
  rw [returned]

/-- A bind whose first part raised raises the same error from the same state. -/
theorem bind_of_error {x : Exec σ α} {f : α → Exec σ β} (raised : x s = .error e s') :
    (x >>= f) s = .error e s' := by
  show EStateM.bind x f s = _
  unfold EStateM.bind
  rw [raised]

/-- A bind that returns ran both parts to a return. -/
theorem bind_eq_ok {x : Exec σ α} {f : α → Exec σ β} {b : β} {s'' : σ} :
    (x >>= f) s = .ok b s'' ↔ ∃ a s', x s = .ok a s' ∧ f a s' = .ok b s'' := by
  show EStateM.bind x f s = _ ↔ _
  unfold EStateM.bind
  cases x s with
  | ok a s' => simp [and_assoc]
  | error e s' => simp

/-- A bind that raises raised in its first part, or in the rest after the first
part returned. -/
theorem bind_eq_error {x : Exec σ α} {f : α → Exec σ β} {s'' : σ} :
    (x >>= f) s = .error e s'' ↔
      x s = .error e s'' ∨ ∃ a s', x s = .ok a s' ∧ f a s' = .error e s'' := by
  show EStateM.bind x f s = _ ↔ _
  unfold EStateM.bind
  cases x s with
  | ok a s' => simp [and_assoc]
  | error e' s' => simp

/-- A passing assertion changes nothing. -/
theorem pyAssert_eq_ok {condition : Prop} [Decidable condition] {message : String}
    {u : Unit} : (pyAssert condition message : Exec σ Unit) s = .ok u s' ↔
      condition ∧ s' = s := by
  unfold pyAssert
  split <;> simp_all [eq_comm]

/-- A failing assertion raises its message and changes nothing. -/
theorem pyAssert_eq_error {condition : Prop} [Decidable condition] {message : String} :
    (pyAssert condition message : Exec σ Unit) s = .error e s' ↔
      ¬condition ∧ e = .assertionError message ∧ s' = s := by
  unfold pyAssert
  split <;> simp_all [eq_comm]

section Raising

/-! A function that raises but mutates nothing is an `Except Error` computation. -/

variable {α β : Type} {e : Error} {x : Except Error α}

@[simp] theorem ok_bind_except (a : α) (f : α → Except Error β) : (Except.ok a >>= f) = f a := rfl

@[simp] theorem error_bind_except (f : α → Except Error β) :
    (Except.error e >>= f) = .error e := rfl

@[simp] theorem throwThe_bind_except (f : α → Except Error β) :
    (throwThe Error e >>= f) = .error e := rfl

/-- A `Decimal` division in a function that only raises. -/
@[simp] theorem decimalDiv_except (dividend divisor : ℚ) :
    (decimalDiv dividend divisor : Except Error ℚ) =
      if divisor = 0 then .error .divisionByZero else .ok (dividend / divisor) := by
  unfold decimalDiv
  split <;> rfl

@[simp] theorem pyAssert_bind_except {condition : Prop} [Decidable condition] {message : String}
    (f : Unit → Except Error α) :
    (pyAssert condition message >>= f) =
      if condition then f () else .error (.assertionError message) := by
  unfold pyAssert
  split <;> rfl

@[simp] theorem pyAssert_map_except {condition : Prop} [Decidable condition] {message : String}
    (f : Unit → α) :
    (f <$> (pyAssert condition message : Except Error Unit)) =
      if condition then .ok (f ()) else .error (.assertionError message) := by
  unfold pyAssert
  split <;> rfl

/-- An assertion in a function that only raises lets a return through exactly when it
passes. -/
theorem pyAssert_bind_eq_ok_except {condition : Prop} [Decidable condition] {message : String}
    {f : Unit → Except Error α} {b : α} :
    (pyAssert condition message >>= f) = .ok b ↔ condition ∧ f () = .ok b := by
  rw [pyAssert_bind_except]
  split_ifs with passed <;> simp [passed]

/-- A pure function returns its value. -/
@[simp] theorem pure_eq_ok_except {a b : α} : (pure a : Except Error α) = .ok b ↔ a = b :=
  ⟨Except.ok.inj, congrArg _⟩

/-- A raise is not a return. -/
@[simp] theorem throw_ne_ok_except {a : α} : (throw e : Except Error α) ≠ .ok a := nofun

/-- A bind that returns returned from both parts. -/
theorem except_bind_eq_ok {f : α → Except Error β} {b : β} :
    x >>= f = .ok b ↔ ∃ a, x = .ok a ∧ f a = .ok b := by
  cases x <;> simp [bind, Except.bind]

/-- A map that returns mapped a return. -/
theorem except_map_eq_ok {f : α → β} {b : β} : f <$> x = .ok b ↔ ∃ a, x = .ok a ∧ f a = b := by
  cases x <;> simp [Functor.map, Except.map]

end Raising

end TradeExecutor
