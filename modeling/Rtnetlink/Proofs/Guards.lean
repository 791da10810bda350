import Rtnetlink.Proofs.Editing
import Rtnetlink.Proofs.Storage

/-!
# Attributes that close themselves

A guard opens an attribute, lets a body compose inside it, and closes the attribute with all that
the body left open, whether the body ended well or not.  A body makes edits and opens guards of its
own; what it does next may depend on the message and on what has been refused, and it may stop at
any point.

The attributes that were open before the guard are the end of the list of open ones.  An edit
changes the end of that list only by closing that deep, so a body that never does leaves it as it
is, and closing by hand as many attributes as there are in front of it does what the guard does.

* `Edit.opensOnly`: an edit closes some attributes, and leaves at most one more open;
* `Body.keeps_outer`: a body that does not close the attributes outside leaves them as they are;
* `Draft.closeDown_eq_closeTimes`, `Draft.Stages.closeTimes`: closing down to a level is closing so
  many attributes, and what that comes to;
* `Draft.nest_closes`: a guard closes what was opened inside it.
-/

namespace Rtnetlink

open LittleEndian

/-- What is done inside a guard. -/
inductive Body (α : Type) where
  /-- The body ends, with a result or refused. -/
  | stop (result : Except Misuse α)
  /-- An edit is made; what follows is told whether it was refused, and the draft. -/
  | edit (e : Edit) (next : Except Misuse Unit → Draft → Body α)
  /-- Another guard is opened, with a body of its own; what follows is told how that ended. -/
  | guard (kind : UInt16) (inner : Body α) (next : Except Misuse α → Draft → Body α)

/-- Ends with a result. -/
def Run.ofExcept {ε σ α : Type} : Except ε α → Run ε σ α
  | .ok value => pure value
  | .error cause => Run.refuse cause

namespace Body

variable {α : Type}

/-- What a body does to a draft. -/
def run : Body α → Run Misuse Draft α
  | stop result => Run.ofExcept result
  | edit e next => do
    let result ← Run.attempt e.run
    let d ← Run.state
    (next result d).run
  | guard kind inner next => do
    let result ← Run.attempt (Draft.nest kind inner.run)
    let d ← Run.state
    (next result d).run

end Body

/-- If the run ended with a value, it has the property, with the state. -/
def Outcome.IfOk {ε σ α : Type} (P : α → σ → Prop) : Outcome ε σ α → Prop
  | .ok value s => P value s
  | .refused .. | .halted .. => True

lemma Outcome.IfOk.of_eq {ε σ α : Type} {P : α → σ → Prop} {o : Outcome ε σ α} {value : α} {s : σ}
    (h : o.IfOk P) (ho : o = .ok value s) : P value s := by
  rw [ho] at h
  exact h

instance {ε σ α : Type} {P : α → σ → Prop} [∀ value s, Decidable (P value s)] :
    (o : Outcome ε σ α) → Decidable (o.IfOk P)
  | .ok value s => inferInstanceAs (Decidable (P value s))
  | .refused .. | .halted .. => .isTrue trivial

/-- What the edit makes of the draft is no longer than storage can be. -/
def Edit.IsSmall (e : Edit) (d : Draft) : Prop :=
  (e.effect d.arena.byteAt d.outline).2.length ≤ Size.greatest

instance (e : Edit) : DecidablePred e.IsSmall := fun _ => inferInstanceAs (Decidable (_ ≤ _))

/-- Wherever the body gets to from the draft, at least so many attributes are open, and the message
is no longer than storage can be. -/
def Body.StaysAbove {α : Type} (floor : Nat) : Body α → Draft → Prop
  | .stop _, d => floor ≤ d.depth
  | .edit e next, d => floor ≤ d.depth ∧ e.IsSmall d ∧
    ((Run.attempt e.run : Run Misuse Draft _) d).IfOk fun result t =>
      (next result t).StaysAbove floor t
  | .guard kind inner next, d => floor ≤ d.depth ∧ Edit.IsSmall (.openAttribute kind) d ∧
    (Draft.openAttribute kind d).IfOk (fun _ m => inner.StaysAbove floor m ∧
      ((Run.attempt inner.run : Run Misuse Draft _) m).IfOk fun _ t =>
        Edit.IsSmall (.closeFrom m.depth) t) ∧
    ((Run.attempt (Draft.nest kind inner.run) : Run Misuse Draft _) d).IfOk fun result t =>
      (next result t).StaysAbove floor t

instance Body.decidableStaysAbove {α : Type} (floor : Nat) :
    (body : Body α) → (d : Draft) → Decidable (body.StaysAbove floor d)
  | .stop _, d => inferInstanceAs (Decidable (floor ≤ d.depth))
  | .edit _ next, _ =>
    have _next := fun result t => decidableStaysAbove floor (next result t) t
    inferInstanceAs (Decidable (_ ∧ _ ∧ _))
  | .guard _ inner next, _ =>
    have _inner := fun m => decidableStaysAbove floor inner m
    have _next := fun result t => decidableStaysAbove floor (next result t) t
    have _closes : ∀ m, Decidable (((Run.attempt inner.run : Run Misuse Draft _) m).IfOk fun _ t =>
        Edit.IsSmall (.closeFrom m.depth) t) := fun _ => inferInstance
    inferInstanceAs (Decidable (_ ∧ _ ∧ _ ∧ _))

namespace Draft

/-- Closes so many attributes. -/
def closeTimes : (count : Nat) → Run Misuse Draft Unit
  | 0 => pure ()
  | count + 1 => do
    closeAttribute
    closeTimes count

/-- Where attributes start and end that are closed in a row, if the message has this length before:
each but the first ends where the padding of the one inside it ends. -/
def turns (length : Nat) : (marks : List Nat) → List Span
  | [] => []
  | mark :: outer => { start := mark, stop := length } :: turns (align length) outer

/-- None of the attributes that are open inside so many others is too long at its turn. -/
def ClosesDown (d : Draft) (depth : Nat) : Prop :=
  ∀ span ∈ turns d.length (d.marks.take (d.depth - depth)),
    span.stop - span.start ≤ maxAttributeLength

instance (d : Draft) : DecidablePred d.ClosesDown :=
  fun _ => inferInstanceAs (Decidable (∀ span ∈ _, _))

end Draft

/-! ## Which attributes stay open -/

namespace Run

variable {ε σ α β : Type} {P : σ → Prop} {s : σ}

/-- A property that holds where the first run ends is kept by the rest. -/
lemma state_bind {first : Run ε σ α} {next : α → Run ε σ β} (h : P (first s).state)
    (h' : ∀ value, Maintains P (next value)) : P ((first >>= next) s).state := by
  rw [bind_apply]
  rcases hfirst : first s with ⟨value, t⟩ | ⟨cause, t⟩ | ⟨fault, t⟩ <;> rw [hfirst] at h
  · exact h' value t h
  · exact h
  · exact h

end Run

namespace Draft

variable {ε : Type} {marks : List Nat} {d t : Draft}

/-- Nothing is open but some of the given attributes, the innermost of which may have been closed.
-/
def OpensOnly (marks : List Nat) (d : Draft) : Prop := d.marks <:+ marks

lemma opensOnly_onArena (run : Run ε Arena Unit) :
    Run.Maintains (OpensOnly marks) (onArena run) := by
  intro d hd
  rw [onArena, Run.within]
  rcases run d.arena with _ | _ | _ <;> exact hd

lemma opensOnly_closeAttribute : Run.Maintains (OpensOnly marks) closeAttribute := by
  intro d hd
  rw [closeAttribute, Run.bind_of_ok (Run.state_apply d)]
  rcases hmarks : d.marks with _ | ⟨mark, outer⟩
  · exact hd
  have houter : OpensOnly marks { d with marks := outer } :=
    (List.suffix_cons mark outer).trans (hmarks ▸ hd)
  dsimp only
  rcases Nat.lt_or_ge d.length mark with houtside | hinside
  · rw [Run.bind_of_halted (lengthFrom_of_lt houtside)]
    exact hd
  rw [Run.bind_of_ok (lengthFrom_of_le hinside)]
  split
  · exact hd
  · rw [Run.bind_of_ok (Run.modify_apply _ _)]
    exact ((opensOnly_onArena _).bind fun _ => opensOnly_onArena _) _ houter

lemma opensOnly_closeDown (level : Nat) : (count : Nat) →
    Run.Maintains (OpensOnly marks) (closeDown level count)
  | 0 => Run.maintains_pure _
  | count + 1 => by
    refine Run.maintains_state.bind fun d => ?_
    split
    · exact Run.maintains_pure _
    · refine opensOnly_closeAttribute.attempt.bind fun result => ?_
      cases result with
      | error => exact Run.maintains_pure _
      | ok => exact opensOnly_closeDown level count

lemma opensOnly_closeFrom (level : Nat) : Run.Maintains (OpensOnly marks) (closeFrom level) :=
  Run.maintains_state.bind fun d => opensOnly_closeDown level d.depth

/-- Opening an attribute adds one, if it adds any. -/
lemma opensOnly_openAttribute (kind : UInt16) (d : Draft) :
    OpensOnly (d.length :: d.marks) (openAttribute kind d).state := by
  rw [openAttribute, Run.bind_of_ok (Run.state_apply d)]
  split
  · exact List.suffix_cons ..
  · refine Run.state_bind (P := OpensOnly (d.length :: d.marks)) ?_ fun _ _ _ => List.suffix_rfl
    exact opensOnly_onArena _ d (List.suffix_cons ..)

end Draft

open Draft in
/-- An edit leaves open some of the attributes that were, and at most one more. -/
lemma Edit.opensOnly (e : Edit) (d : Draft) : OpensOnly (d.length :: d.marks) (e.run d).state := by
  have hsame : OpensOnly (d.length :: d.marks) d := List.suffix_cons ..
  cases e with
  | append bytes => exact opensOnly_onArena _ d hsame
  | appendCells cells => exact opensOnly_onArena _ d hsame
  | openAttribute kind => exact opensOnly_openAttribute kind d
  | closeAttribute => exact opensOnly_closeAttribute d hsame
  | addAttribute kind value =>
    exact Run.state_bind (P := OpensOnly (d.length :: d.marks)) (opensOnly_openAttribute kind d)
      fun _ => (opensOnly_onArena _).bind fun _ => opensOnly_closeAttribute
  | addAttributeCells kind cells =>
    exact Run.state_bind (P := OpensOnly (d.length :: d.marks)) (opensOnly_openAttribute kind d)
      fun _ => (opensOnly_onArena _).bind fun _ => opensOnly_closeAttribute
  | closeFrom level => exact opensOnly_closeFrom level d hsame

/-! ## What a body leaves -/

namespace Run

variable {ε δ σ α β : Type}

/-- The end of a run whose refusal is taken as a value is where the run ends. -/
lemma state_of_attempt {run : Run ε σ α} {s t : σ} {result : Except ε α}
    (h : (attempt run : Run δ σ (Except ε α)) s = .ok result t) : (run s).state = t := by
  rw [attempt] at h
  rcases hrun : run s with _ | _ | _ <;> rw [hrun] at h <;> cases h <;> rfl

lemma attempt_attempt_bind {first : Run ε σ α} {next : Except ε α → Run ε σ β} {s t : σ}
    {result : Except ε β}
    (h : (attempt (do let r ← attempt first; next r) : Run δ σ (Except ε β)) s = .ok result t) :
    ∃ r m, (attempt first : Run ε σ (Except ε α)) s = .ok r m ∧
      (attempt (next r) : Run δ σ (Except ε β)) m = .ok result t := by
  rcases hfirst : (attempt first : Run ε σ (Except ε α)) s with ⟨r, m⟩ | ⟨cause, m⟩ | ⟨fault, m⟩
  · rw [attempt, bind_of_ok hfirst] at h
    exact ⟨r, m, rfl, h⟩
  · exact absurd hfirst (unrefused_attempt first s cause m)
  · rw [attempt, bind_of_halted hfirst] at h
    cases h

end Run

/-- A small edit of a message in range leaves it in range, and leaves open what was open outside
unless it closes that deep. -/
lemma Edit.keeps_outer {e : Edit} {d t : Draft} {outer : List Nat} {result : Except Misuse Unit}
    (hd : d.InRange) (hsmall : e.IsSmall d) (houter : outer <:+ d.marks)
    (h : (Run.attempt e.run : Run Misuse Draft _) d = .ok result t)
    (hdepth : outer.length ≤ t.depth) : t.InRange ∧ outer <:+ t.marks := by
  have hstate := Run.state_of_attempt h
  constructor
  · rcases e.run_follows_or_stops hd.stages hsmall with ⟨m, ⟨hm, -⟩, hend⟩ | ⟨-, m, hend⟩
    · rw [hend] at hstate
      split at hstate <;> exact hstate ▸ hm.inRange
    · rw [Run.attempt_of_halted hend] at h
      cases h
  · have hopens := e.opensOnly d
    rw [hstate] at hopens
    exact List.suffix_of_suffix_length_le (houter.trans (List.suffix_cons ..)) hopens hdepth

namespace Draft

variable {α : Type} {kind : UInt16} {body : Run Misuse Draft α} {d m t : Draft}
  {result : Except Misuse α}

/-- Once its attribute is open, a guard runs the body and closes from its level on. -/
lemma nest_of_open (hopen : openAttribute kind d = .ok () m) : nest kind body d
    = (do let result ← Run.attempt body
          closeFrom m.depth
          Run.ofExcept result : Run Misuse Draft α) m := by
  rw [nest, Run.bind_of_ok hopen, Run.bind_of_ok (Run.state_apply m)]
  refine congrFun (congrArg _ (funext fun result => congrArg _ (funext fun _ => ?_))) m
  cases result <;> rfl

/-- A guard either was not opened, or its body ended and it was closed. -/
lemma attempt_nest (h : (Run.attempt (nest kind body) : Run Misuse Draft _) d = .ok result t) :
    t = d ∨ ∃ m u, openAttribute kind d = .ok () m ∧
      (Run.attempt body : Run Misuse Draft _) m = .ok result u ∧
      closeFrom m.depth u = .ok () t := by
  rcases hopen : openAttribute kind d with ⟨⟨⟩, m⟩ | ⟨cause, m⟩ | ⟨fault, m⟩
  · right
    rw [Run.attempt, nest_of_open hopen] at h
    rcases hbody : (Run.attempt body : Run Misuse Draft _) m with ⟨r, u⟩ | ⟨cause, u⟩ | ⟨fault, u⟩
    · rw [Run.bind_of_ok hbody] at h
      rcases hclose : closeFrom m.depth u with ⟨⟨⟩, v⟩ | ⟨cause, v⟩ | ⟨fault, v⟩
      · rw [Run.bind_of_ok hclose] at h
        have hend : r = result ∧ v = t := by
          cases r <;> cases h <;> exact ⟨rfl, rfl⟩
        obtain ⟨rfl, rfl⟩ := hend
        exact ⟨m, u, rfl, hbody, hclose⟩
      · exact absurd hclose (unrefused_closeFrom _ u cause v)
      · rw [Run.bind_of_halted hclose] at h
        cases h
    · exact absurd hbody (Run.unrefused_attempt body m cause u)
    · rw [Run.bind_of_halted hbody] at h
      cases h
  · left
    obtain ⟨-, -, rfl⟩ := openAttribute_eq_refused.1 hopen
    rw [Run.attempt, nest, Run.bind_of_refused hopen] at h
    cases h
    rfl
  · rw [Run.attempt, nest, Run.bind_of_halted hopen] at h
    cases h

end Draft

namespace Body

variable {α : Type} {floor : Nat} {d t : Draft}

lemma StaysAbove.le {body : Body α} (h : body.StaysAbove floor d) : floor ≤ d.depth := by
  cases body with
  | stop => exact h
  | edit => exact h.1
  | guard => exact h.1

/-- A body that never closes one of the attributes outside leaves them as they are, and the message
in range.  By induction on the body, for every draft that it may get to. -/
lemma keeps_outer (body : Body α) {outer : List Nat} {result : Except Misuse α}
    (habove : body.StaysAbove outer.length d) (hd : d.InRange) (houter : outer <:+ d.marks)
    (h : (Run.attempt body.run : Run Misuse Draft _) d = .ok result t) :
    t.InRange ∧ outer.length ≤ t.depth ∧ outer <:+ t.marks := by
  induction body generalizing d result t with
  | stop r =>
    have hend : t = d := by
      cases r <;> cases h <;> rfl
    exact hend ▸ ⟨hd, habove, houter⟩
  | edit e next ih =>
    obtain ⟨-, hsmall, hnext⟩ := habove
    obtain ⟨r, m, he, hrest⟩ := Run.attempt_attempt_bind h
    have hm := hnext.of_eq he
    obtain ⟨hrange, houter⟩ := Edit.keeps_outer hd hsmall houter he hm.le
    exact ih r m hm hrange houter hrest
  | guard kind inner next ihinner ihnext =>
    obtain ⟨-, hsmall, hinner, hnext⟩ := habove
    obtain ⟨r, m, hguard, hrest⟩ := Run.attempt_attempt_bind h
    have hm := hnext.of_eq hguard
    rcases Draft.attempt_nest hguard with rfl | ⟨m₁, u, hopen, hbody, hclose⟩
    · exact ihnext r m hm hd houter hrest
    · -- the attribute of the inner guard is opened, its body is run, and what it left is closed
      obtain ⟨habove₁, hsmall₁⟩ := hinner.of_eq hopen
      obtain ⟨hrange₁, houter₁⟩ := Edit.keeps_outer (e := .openAttribute kind) hd hsmall houter
        (Run.attempt_of_ok hopen) habove₁.le
      obtain ⟨hrange₂, -, houter₂⟩ := ihinner habove₁ hrange₁ houter₁ hbody
      obtain ⟨hrange, houter⟩ := Edit.keeps_outer (e := .closeFrom m₁.depth) hrange₂
        (hsmall₁.of_eq hbody) houter₂ (Run.attempt_of_ok hclose) hm.le
      exact ihnext r m hm hrange houter hrest

end Body

/-! ## Closing by hand -/

lemma align_align (n : Nat) : align (align n) = align n := align_of_dvd (four_dvd_align n)

namespace Draft

variable {tape : Nat → UInt8} {limit level count : Nat} {d t : Draft} {o : Outline}
  {inner outer : List Nat}

/-- Closing an attribute that is not too long only stops where the padding has no room. -/
lemma closeAttribute_of_short {mark : Nat} (hd : d.InRange)
    (hsmall : align d.length ≤ Size.greatest) (hmarks : d.marks = mark :: outer)
    (hshort : d.length - mark ≤ maxAttributeLength) :
    (∃ t, closeAttribute d = .ok () t ∧ t.InRange ∧ t.marks = outer ∧ t.length = align d.length) ∨
      ∃ t, closeAttribute d = .halted .tooLarge t := by
  have hlength : d.outline.length = d.length := length_outline hd.fits
  have hmarks : d.outline.marks = mark :: outer := hmarks
  have hinside := hd.nested.mark_le mark (hmarks ▸ List.mem_cons_self)
  have hstamped : (d.outline.stamped mark outer).length = align d.length := by
    rw [Outline.length_stamped hinside, hlength]
  rcases hd.stages.closeAttribute_of_le hmarks (by rw [hlength]; exact hshort)
    (by rw [hstamped]; exact hsmall) with ⟨t, ⟨ht, -⟩, hend⟩ | ⟨-, hstops⟩
  · exact .inl ⟨t, hend, ht.inRange, ht.marks_eq, ht.length_eq.trans hstamped⟩
  · exact .inr hstops

/-- Closing down to a level is closing the attributes in front of it one by one, as long as none of
them is too long at its turn. -/
lemma closeDown_eq_closeTimes (hlevel : level = outer.length + 1) (hcount : inner.length ≤ count)
    (hd : d.InRange) (hsmall : align d.length ≤ Size.greatest) (hmarks : d.marks = inner ++ outer)
    (hshort : ∀ span ∈ turns d.length inner, span.stop - span.start ≤ maxAttributeLength) :
    closeDown level count d = closeTimes inner.length d := by
  induction inner generalizing d count with
  | nil =>
    cases count with
    | zero => rfl
    | succ count =>
      have hdepth : d.depth < level := by
        rw [depth, hmarks, hlevel]
        exact Nat.lt_succ_self _
      rw [closeDown, Run.bind_of_ok (Run.state_apply d), if_pos hdepth]
      rfl
  | cons mark inner ih =>
    obtain ⟨count, rfl⟩ : ∃ c, count = c + 1 := ⟨count - 1, by simp at hcount; omega⟩
    have hdepth : ¬ d.depth < level := by
      simp [depth, hmarks, hlevel]
    rw [closeDown, Run.bind_of_ok (Run.state_apply d), if_neg hdepth, List.length_cons, closeTimes]
    rcases closeAttribute_of_short hd hsmall hmarks (hshort _ List.mem_cons_self) with
      ⟨m, hclose, hm, hmarks', hlength⟩ | ⟨m, hclose⟩
    · rw [Run.bind_of_ok (Run.attempt_of_ok hclose), Run.bind_of_ok hclose]
      refine ih (Nat.le_of_succ_le_succ hcount) hm (by rwa [hlength, align_align]) hmarks' ?_
      rw [hlength]
      exact fun span hspan => hshort span (List.mem_cons_of_mem _ hspan)
    · rw [Run.bind_of_halted (Run.attempt_of_halted hclose), Run.bind_of_halted hclose]

/-- With room for the padding, all of them are closed, and carry their lengths. -/
lemma Stages.closeTimes (h : d.Stages tape limit o) (hmarks : o.marks = inner ++ outer)
    (hshort : ∀ span ∈ turns o.length inner, span.stop - span.start ≤ maxAttributeLength)
    (hroom : align o.length ≤ limit) :
    ∃ u o', Draft.closeTimes inner.length d = .ok () u ∧ u.Stages tape limit o' ∧
      o'.marks = outer ∧
      ∀ span, span ∈ turns o.length inner ∨ span ∈ o.spans → span ∈ o'.spans := by
  induction inner generalizing d o with
  | nil => exact ⟨d, o, rfl, h, hmarks, by simp [turns]⟩
  | cons mark inner ih =>
    have hinside := h.intact.mark_le mark (hmarks ▸ List.mem_cons_self)
    have hstamped : (o.stamped mark (inner ++ outer)).length = align o.length :=
      Outline.length_stamped hinside
    have hmarks : o.marks = mark :: (inner ++ outer) := hmarks
    have hhold := h.canHold (hstamped.symm ▸ hroom)
    obtain ⟨m, hm, hclose⟩ :=
      (h.closeAttribute_of_le hmarks (hshort _ List.mem_cons_self) hhold.1).follows hhold
    obtain ⟨u, o', hcloses, hu, hmarks', hspans⟩ := ih hm rfl
      (by
        rw [hstamped]
        exact fun span hspan => hshort span (List.mem_cons_of_mem _ hspan))
      (by rwa [hstamped, align_align])
    rw [hstamped] at hspans
    refine ⟨u, o', (Run.bind_of_ok hclose _).trans hcloses, hu, hmarks', fun span hspan => ?_⟩
    -- the one that was closed first is among those that were closed before the others
    rcases hspan with hspan | hspan
    · rcases List.mem_cons.1 hspan with rfl | hspan
      · exact hspans _ (.inr List.mem_cons_self)
      · exact hspans span (.inl hspan)
    · exact hspans span (.inr (List.mem_cons_of_mem _ hspan))

/-! ## What a guard closes -/

/-- A guard on the draft whose body ended with the result, as `t`, closes what is open in front of
the attributes outside. -/
structure ClosesOpened {α : Type} (d : Draft) (kind : UInt16) (body : Body α)
    (result : Except Misuse α) (t : Draft) : Prop where
  /-- It does what closing by hand does: as many attributes as bring the depth back, the innermost
  first. -/
  by_hand : nest kind body.run d
    = (do openAttribute kind
          let result ← Run.attempt body.run
          closeTimes (t.depth - d.depth)
          Run.ofExcept result : Run Misuse Draft α) d
  /-- With room for the padding that succeeds.  The attributes outside are open where they were, and
  each that was closed carries its length, up to where the padding of the one inside it ended. -/
  returns : t.arena.CanHold (align t.length) → ∃ u, nest kind body.run d = Run.ofExcept result u ∧
    u.marks = d.marks ∧ ∀ span ∈ turns t.length (t.marks.take (t.depth - d.depth)),
      u.outline.Measures span

/-- **A guard closes exactly what was opened inside it.**  Below the greatest depth, and with room
for its header, a guard opens its attribute.  Take any body that then ends, with a result or
refused.  If it never closed an attribute outside, and nothing that it left open is too long at its
turn, the guard closes what was opened inside it.  If fewer attributes are open than inside the
guard, the guard does nothing more. -/
theorem nest_closes {α : Type} (hd : d.InRange) (hdepth : d.depth < maxDepth)
    (hroom : d.arena.CanHold (d.length + AttributeHeader.size)) (kind : UInt16) (body : Body α) :
    ∃ m, openAttribute kind d = .ok () m ∧
      ∀ result t, (Run.attempt body.run : Run Misuse Draft _) m = .ok result t →
        (body.StaysAbove d.depth m → t.ClosesDown d.depth → align t.length ≤ Size.greatest →
          d.ClosesOpened kind body result t) ∧
        (t.depth < d.depth + 1 → nest kind body.run d = Run.ofExcept result t) := by
  have hroom : d.arena.CanHold (d.outline.opened kind).length := by
    rwa [Outline.length_opened, length_outline hd.fits]
  obtain ⟨m, hm, hopen⟩ := (hd.stages.openAttribute hdepth hroom.1).follows hroom
  have hmarks : m.marks = d.length :: d.marks := by
    rw [hm.marks_eq, Outline.marks_opened, length_outline hd.fits]
    rfl
  have hlevel : m.depth = d.depth + 1 := by rw [depth, hmarks, List.length_cons, depth]
  refine ⟨m, hopen, fun result t hbody => ?_⟩
  have hnest : nest kind body.run d = (do closeFrom (d.depth + 1); Run.ofExcept result) t := by
    rw [nest_of_open hopen, Run.bind_of_ok hbody, hlevel]
  refine ⟨fun habove hcloses hsmall => ?_, fun hshallow => ?_⟩
  · -- what the body left open stands in front of what is open outside
    obtain ⟨hrange, hdeep, inner, hinner⟩ := body.keeps_outer habove hm.inRange
      (hmarks ▸ List.suffix_cons ..) hbody
    have hcount : t.depth - d.depth = inner.length := by
      rw [depth, depth, ← hinner, List.length_append, Nat.add_sub_cancel]
    rw [ClosesDown, hcount, ← hinner, List.take_left] at hcloses
    have hfrom : closeFrom (d.depth + 1) t = closeTimes inner.length t := by
      rw [closeFrom, Run.bind_of_ok (Run.state_apply t)]
      refine closeDown_eq_closeTimes rfl ?_ hrange hsmall hinner.symm hcloses
      omega
    constructor
    · rw [hnest, hcount, Run.bind_of_ok hopen, Run.bind_of_ok hbody]
      exact Run.bind_congr hfrom _
    intro hpadding
    rw [hnest, hcount, ← hinner, List.take_left]
    obtain ⟨u, o, hcloses, hu, houter, hspans⟩ := (hrange.stages.withRoom hpadding).closeTimes
      hinner.symm (by rwa [length_outline hrange.fits])
      (Nat.le_of_eq (by rw [length_outline hrange.fits]))
    rw [length_outline hrange.fits] at hspans
    refine ⟨u, Run.bind_of_ok (hfrom.trans hcloses) _, hu.marks_eq.trans houter,
      fun span hspan => ?_⟩
    have hmeasures := hu.intact.measures span (hspans span (.inl hspan))
    rw [Outline.Measures, ← hu.bytes_eq] at hmeasures
    exact hmeasures
  · have hfrom : closeFrom (d.depth + 1) t = .ok () t := by
      rw [closeFrom, Run.bind_of_ok (Run.state_apply t)]
      cases t.depth with
      | zero => rfl
      | succ count =>
        rw [closeDown, Run.bind_of_ok (Run.state_apply t), if_pos hshallow]
        rfl
    rw [hnest, Run.bind_of_ok hfrom]

/-- A message with one attribute open, which holds a byte. -/
def opening : Draft where
  arena.storage := Header.encode {} ++ AttributeHeader.encode { length := 0, kind := 1 } ++ [9]
  arena.committed := 21
  marks := [16]

/-- A body that opens two attributes, and between them a guard whose body is cut short with an
attribute open.  It passes on how that ended. -/
def cutShort : Body Unit :=
  .edit (.openAttribute 3) fun _ _ =>
    .guard 4 (.edit (.openAttribute 5) fun _ _ => .stop (.error .noneOpen)) fun result _ =>
      .edit (.openAttribute 6) fun _ _ => .edit (.append [1, 2, 3]) fun _ _ => .stop result

/-- Its three attributes are closed, and nothing else is. -/
theorem nest_closes_of_cutShort : opening.InRange ∧ opening.depth < maxDepth ∧
    opening.arena.CanHold (opening.length + AttributeHeader.size) ∧
    ∃ m t, openAttribute 2 opening = .ok () m ∧
      (Run.attempt cutShort.run : Run Misuse Draft _) m = .ok (.error .noneOpen) t ∧
      (cutShort.StaysAbove opening.depth m ∧ t.ClosesDown opening.depth ∧
        align t.length ≤ Size.greatest) ∧
      t.depth - opening.depth = 3 ∧
      opening.ClosesOpened 2 cutShort (.error .noneOpen) t := by
  have hrange : opening.InRange := by
    refine ⟨by decide, ?_⟩
    constructor <;> decide
  have hdepth : opening.depth < maxDepth := by decide
  have hroom : opening.arena.CanHold (opening.length + AttributeHeader.size) := by decide
  obtain ⟨m, hopen, hcloses⟩ := nest_closes hrange hdepth hroom 2 cutShort
  have habove : (openAttribute 2 opening).IfOk fun _ m => cutShort.StaysAbove opening.depth m := by
    decide +kernel
  have hends : (openAttribute 2 opening).IfOk fun _ m =>
      (match (Run.attempt cutShort.run : Run Misuse Draft _) m with
        | .ok (.error .noneOpen) t => decide (t.ClosesDown opening.depth ∧
          align t.length ≤ Size.greatest ∧ t.depth - opening.depth = 3)
        | _ => false) = true := by
    decide +kernel
  have habove := habove.of_eq hopen
  have hends := hends.of_eq hopen
  split at hends
  · next t hbody =>
    obtain ⟨hshort, hsmall, hcount⟩ := of_decide_eq_true hends
    exact ⟨hrange, hdepth, hroom, m, t, hopen, hbody, ⟨habove, hshort, hsmall⟩, hcount,
      (hcloses _ t hbody).1 habove hshort hsmall⟩
  · cases hends

end Draft

end Rtnetlink
