import Mathlib.Logic.Function.Iterate

/-!
# Cursors

A cursor is called again and again.  Each call yields an item, or nothing, and leaves a cursor for
the next call.

* `Cursor.after`: the cursor after some calls;
* `Cursor.Yields.call_eq`: what the calls yield is read off the list of what is ahead of the cursor.
-/

namespace Rtnetlink

namespace Cursor

variable {σ α : Type} {step : σ → Option α × σ} {ahead : σ → List α}

/-- The cursor after some calls. -/
def after (step : σ → Option α × σ) (calls : Nat) (s : σ) : σ := (fun s => (step s).2)^[calls] s

lemma after_succ (calls : Nat) (s : σ) : after step (calls + 1) s = after step calls (step s).2 :=
  rfl

/-- What is ahead of a cursor is what its calls yield: each call takes the first item, and nothing
is yielded any more once none is left. -/
structure Yields (step : σ → Option α × σ) (ahead : σ → List α) : Prop where
  /-- A call that yields an item takes it from the front. -/
  item : ∀ {s rest : σ} {a : α}, step s = (some a, rest) → ahead s = a :: ahead rest
  /-- A call yields nothing only if nothing is ahead, and then nothing is ahead of the next. -/
  none : ∀ {s rest : σ}, step s = (none, rest) → ahead s = [] ∧ ahead rest = []

lemma Yields.ahead_step (h : Yields step ahead) (s : σ) :
    (step s).1 = (ahead s)[0]? ∧ ahead (step s).2 = (ahead s).drop 1 := by
  rcases hstep : step s with ⟨- | a, rest⟩
  · obtain ⟨hnow, hthen⟩ := h.none hstep
    simp [hnow, hthen]
  · simp [h.item hstep]

lemma Yields.ahead_after (h : Yields step ahead) (calls : Nat) (s : σ) :
    ahead (after step calls s) = (ahead s).drop calls := by
  induction calls generalizing s with
  | zero => rfl
  | succ calls ih => rw [after_succ, ih, (h.ahead_step s).2, List.drop_drop, Nat.add_comm]

/-- Every call yields the item at its place, and nothing behind the last one. -/
lemma Yields.call_eq (h : Yields step ahead) (calls : Nat) (s : σ) :
    (step (after step calls s)).1 = (ahead s)[calls]? := by
  rw [(h.ahead_step _).1, h.ahead_after, List.getElem?_drop, Nat.add_zero]

end Cursor

end Rtnetlink
