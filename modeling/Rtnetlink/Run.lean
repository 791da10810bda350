/-!
# Runs: computations over a state that may be refused or halt

Composing a message, talking to the kernel and working on the machine are all steps that change a
state.  A step ends in one of three ways: with a value, refused for a stated cause, or halted by a
fault, which stops everything that was still to be done.  Either way the state that was reached is
kept, so what was done before stays done.

* `Run.bind_apply` and its companions compute a composed run from its parts.
-/

namespace Rtnetlink

/-- Why a run has no result at all. -/
inductive Fault where
  /-- A step reached outside the bytes it may touch. -/
  | outOfRange
  /-- Storage was asked for that is larger than any can be. -/
  | tooLarge
  /-- A call is retried for ever. -/
  | endless
deriving DecidableEq, Repr

/-- How a run over states `σ` ends. -/
inductive Outcome (ε σ α : Type) where
  /-- It ended with a value. -/
  | ok (value : α) (state : σ)
  /-- It was refused, leaving the state it had reached. -/
  | refused (cause : ε) (state : σ)
  /-- It stopped for good, leaving the state it had reached. -/
  | halted (fault : Fault) (state : σ)

/-- The state in which a run ended. -/
def Outcome.state {ε σ α : Type} : Outcome ε σ α → σ
  | .ok _ s | .refused _ s | .halted _ s => s

/-- A computation over states `σ` that yields an `α` or is refused with an `ε`. -/
def Run (ε σ α : Type) : Type := σ → Outcome ε σ α

namespace Run

variable {ε δ σ τ α β : Type}

/-- The run that yields a value and leaves the state alone. -/
protected def pure (value : α) : Run ε σ α := fun state => .ok value state

/-- One run after another: the second starts where the first one ended. -/
protected def bind (first : Run ε σ α) (next : α → Run ε σ β) : Run ε σ β := fun state =>
  match first state with
  | .ok value state' => next value state'
  | .refused cause state' => .refused cause state'
  | .halted fault state' => .halted fault state'

instance : Monad (Run ε σ) where
  pure := Run.pure
  bind := Run.bind

/-- The current state. -/
def state : Run ε σ σ := fun s => .ok s s

/-- Changes the state. -/
def modify (change : σ → σ) : Run ε σ Unit := fun s => .ok () (change s)

/-- Refuses for a cause, leaving the state alone. -/
def refuse (cause : ε) : Run ε σ α := fun s => .refused cause s

/-- Halts with a fault, leaving the state alone. -/
def halt (fault : Fault) : Run ε σ α := fun s => .halted fault s

/-- Yields what the state holds at some place and halts out of range if it holds nothing there. -/
def read? (look? : σ → Option α) : Run ε σ α := fun s =>
  match look? s with
  | some value => .ok value s
  | none => .halted .outOfRange s

/-- Takes the refusal of a run as a value; the result is never refused. -/
def attempt (run : Run ε σ α) : Run δ σ (Except ε α) := fun s =>
  match run s with
  | .ok value s' => .ok (.ok value) s'
  | .refused cause s' => .ok (.error cause) s'
  | .halted fault s' => .halted fault s'

/-- Restates the cause of a refusal. -/
def mapCause (restate : ε → δ) (run : Run ε σ α) : Run δ σ α := fun s =>
  match run s with
  | .ok value s' => .ok value s'
  | .refused cause s' => .refused (restate cause) s'
  | .halted fault s' => .halted fault s'

/-- Adds a last step to a run that halts. -/
def onHalt (last : Run ε σ Unit) (run : Run ε σ α) : Run ε σ α := fun s =>
  match run s with
  | .ok value s' => .ok value s'
  | .refused cause s' => .refused cause s'
  | .halted fault s' => .halted fault (last s').state

/-- Runs on a part of the state, taken out by `part` and put back by `put`. -/
def within (part : σ → τ) (put : τ → σ → σ) (run : Run ε τ α) : Run ε σ α := fun s =>
  match run (part s) with
  | .ok value t => .ok value (put t s)
  | .refused cause t => .refused cause (put t s)
  | .halted fault t => .halted fault (put t s)

theorem bind_apply (first : Run ε σ α) (next : α → Run ε σ β) (s : σ) :
    (first >>= next) s = match first s with
      | .ok value s' => next value s'
      | .refused cause s' => .refused cause s'
      | .halted fault s' => .halted fault s' := rfl

theorem bind_of_ok {first : Run ε σ α} {s s' : σ} {value : α} (h : first s = .ok value s')
    (next : α → Run ε σ β) : (first >>= next) s = next value s' := by
  rw [bind_apply, h]

theorem bind_eq_ok {first : Run ε σ α} {next : α → Run ε σ β} {s s' : σ} {value : β} :
    (first >>= next) s = .ok value s'
      ↔ ∃ middle t, first s = .ok middle t ∧ next middle t = .ok value s' := by
  rw [bind_apply]
  cases first s with
  | ok middle t =>
    refine ⟨fun h => ⟨middle, t, rfl, h⟩, fun ⟨_, _, hsame, h⟩ => ?_⟩
    cases hsame
    exact h
  | refused => simp
  | halted => simp

@[simp] theorem state_apply (s : σ) : (state : Run ε σ σ) s = .ok s s := rfl

theorem within_eq_ok {part : σ → τ} {put : τ → σ → σ} {run : Run ε τ α} {s s' : σ} {value : α} :
    within part put run s = .ok value s' ↔ ∃ t, run (part s) = .ok value t ∧ put t s = s' := by
  unfold within
  cases run (part s) <;> simp [and_assoc]

end Run

end Rtnetlink
