import Mathlib.Tactic.Common
import Rtnetlink.Run

/-!
# How composed runs end

A composed run is followed part by part: what its first part comes to says whether the next one is
reached, and with which state.  Some runs are never refused, and this is kept by composing them.

* `Run.bind_of_refused`, `Run.bind_of_halted`: a run ends with its first part unless that has a
  value;
* `Run.attempt_of_ok`, `Run.attempt_of_refused`, `Run.attempt_of_halted`: how an attempt ends;
* `Run.Unrefused`: a run that ends with a value or halts.
-/

namespace Rtnetlink.Run

variable {ε δ σ τ α β : Type} {run : Run ε σ α} {s s' : σ} {value : α} {cause : ε} {fault : Fault}

@[simp] lemma pure_apply (value : α) (s : σ) : (pure value : Run ε σ α) s = .ok value s := rfl

@[simp] lemma modify_apply (change : σ → σ) (s : σ) :
    (modify change : Run ε σ Unit) s = .ok () (change s) := rfl

@[simp] lemma refuse_apply (cause : ε) (s : σ) :
    (refuse cause : Run ε σ α) s = .refused cause s := rfl

@[simp] lemma halt_apply (fault : Fault) (s : σ) :
    (halt fault : Run ε σ α) s = .halted fault s := rfl

lemma read?_eq_ok {look? : σ → Option α} :
    (read? look? : Run ε σ α) s = .ok value s' ↔ look? s = some value ∧ s' = s := by
  unfold read?
  cases look? s <;> simp [eq_comm]

/-! ## One run after another -/

lemma bind_of_refused (h : run s = .refused cause s') (next : α → Run ε σ β) :
    (run >>= next) s = .refused cause s' := by
  rw [bind_apply, h]

lemma bind_of_halted (h : run s = .halted fault s') (next : α → Run ε σ β) :
    (run >>= next) s = .halted fault s' := by
  rw [bind_apply, h]

/-- Only how the first run ends matters for what follows. -/
lemma bind_congr {run' : Run ε σ α} (h : run s = run' s') (next : α → Run ε σ β) :
    (run >>= next) s = (run' >>= next) s' := by
  rw [bind_apply, bind_apply, h]

/-! ## Attempts, restated causes and last steps -/

lemma attempt_of_ok (h : run s = .ok value s') :
    (attempt run : Run δ σ (Except ε α)) s = .ok (.ok value) s' := by
  unfold attempt
  rw [h]

lemma attempt_of_refused (h : run s = .refused cause s') :
    (attempt run : Run δ σ (Except ε α)) s = .ok (.error cause) s' := by
  unfold attempt
  rw [h]

lemma attempt_of_halted (h : run s = .halted fault s') :
    (attempt run : Run δ σ (Except ε α)) s = .halted fault s' := by
  unfold attempt
  rw [h]

lemma mapCause_of_refused {restate : ε → δ} (h : run s = .refused cause s') :
    mapCause restate run s = .refused (restate cause) s' := by
  unfold mapCause
  rw [h]

lemma mapCause_eq_ok {restate : ε → δ} :
    mapCause restate run s = .ok value s' ↔ run s = .ok value s' := by
  unfold mapCause
  cases run s <;> simp

section OnHalt

variable {last : Run ε σ Unit}

lemma onHalt_of_ok (h : run s = .ok value s') : onHalt last run s = .ok value s' := by
  unfold onHalt
  rw [h]

lemma onHalt_of_refused (h : run s = .refused cause s') :
    onHalt last run s = .refused cause s' := by
  unfold onHalt
  rw [h]

lemma onHalt_of_halted {s'' : σ} (h : run s = .halted fault s') (hlast : last s' = .ok () s'') :
    onHalt last run s = .halted fault s'' := by
  unfold onHalt
  simp only [h, hlast, Outcome.state]

end OnHalt

/-! ## Runs that are never refused -/

/-- A run that ends with a value or halts. -/
def Unrefused (run : Run ε σ α) : Prop := ∀ s cause s', run s ≠ .refused cause s'

lemma unrefused_pure (value : α) : Unrefused (pure value : Run ε σ α) := fun _ _ _ h => nomatch h

lemma unrefused_state : Unrefused (state : Run ε σ σ) := fun _ _ _ h => nomatch h

lemma unrefused_modify (change : σ → σ) : Unrefused (modify change : Run ε σ Unit) :=
  fun _ _ _ h => nomatch h

lemma Unrefused.bind {first : Run ε σ α} {next : α → Run ε σ β} (h : Unrefused first)
    (h' : ∀ value, Unrefused (next value)) : Unrefused (first >>= next) := by
  intro s cause s' hend
  rw [bind_apply] at hend
  rcases hfirst : first s with ⟨value, t⟩ | ⟨cause', t⟩ | ⟨fault, t⟩ <;> rw [hfirst] at hend
  · exact h' value t cause s' hend
  · exact h s cause' t hfirst
  · cases hend

lemma Unrefused.within {part : σ → τ} {put : τ → σ → σ} {run : Run ε τ α} (h : Unrefused run) :
    Unrefused (Run.within part put run) := by
  intro s cause s' hend
  rw [Run.within] at hend
  rcases hrun : run (part s) with ⟨value, t⟩ | ⟨cause', t⟩ | ⟨fault, t⟩ <;> rw [hrun] at hend
  · cases hend
  · exact h (part s) cause' t hrun
  · cases hend

/-- A refusal that is taken as a value is none. -/
lemma unrefused_attempt (run : Run ε σ α) : Unrefused (attempt run : Run δ σ (Except ε α)) := by
  intro s cause s' hend
  rw [attempt] at hend
  split at hend <;> cases hend

end Rtnetlink.Run
