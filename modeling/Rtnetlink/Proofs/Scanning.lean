import Rtnetlink.Proofs.Correlation
import Rtnetlink.Proofs.InRange

/-!
# What a call scans

A call that hears an answer scans record after record, in whatever batches they arrive.  Records of
other numbers, and those of type done, are passed over; the others are heard.  How the call ends is
decided by what it hears, whatever else was delivered and however it was reported.

* `Answer.comes_record?_step`: what one step does about the record that it comes to;
* `Answer.hears_heard_step`: what a call hears, by its first step;
* `Answer.heard_of_forEach_eq_ok`, `Answer.forEach_eq_ok_of_heard`: which answers are heard to their
  end;
* `Answer.forEach_of_refusal`, `Answer.brings_of_refusal`: an error that is heard ends the call, and
  the answer.
-/

namespace Rtnetlink

/-- The code of the status that a record reports. -/
def Record.code? (r : Record) : Option Int32 :=
  match r.status? with
  | some (.ok status) => some status.code
  | _ => none

namespace Answer

section Scanning

variable {β : Type} (handler : β → Response → β × Option String)

/-- The record that the next step comes to, if there is one. -/
def record? (a : Answer) : Option Record :=
  if a.finished ∨ a.length ≤ a.offset ∨ a.session.draft.arena.data.length < a.length then none
  else (Record.decode ((a.session.draft.arena.data.take a.length).drop a.offset)).toOption

/-- The records that a call scans, in order, while it gives each response to the handler. -/
def scanned (a : Answer) (b : β) : List Record :=
  a.record?.toList ++ match _stepped : a.step with
    | .yield response rest =>
      match handler b response with
      | (b, none) => scanned rest b
      | (_, some _) => []
    | .advance rest => scanned rest b
    | .fail .. | .finish _ | .halt .. => []
termination_by a.size
decreasing_by
  · exact step_decreases (.inr ⟨_, _stepped⟩)
  · exact step_decreases (.inl _stepped)

lemma scanned_step (a : Answer) (b : β) :
    a.scanned handler b = a.record?.toList ++ match a.step with
      | .yield response rest =>
        match handler b response with
        | (b, none) => rest.scanned handler b
        | (_, some _) => []
      | .advance rest => rest.scanned handler b
      | .fail .. | .finish _ | .halt .. => [] := by
  rw [scanned]
  split <;> simp only [*]

/-- The record carries the awaited number, and is not of type done. -/
def Awaits (a : Answer) (r : Record) : Prop := r.header.sequence = a.sequence ∧ r.isDone = false

instance (a : Answer) : DecidablePred a.Awaits := fun _ => inferInstanceAs (Decidable (_ ∧ _))

/-- The records among them that are heard. -/
def heard (a : Answer) (b : β) : List Record := (a.scanned handler b).filter a.Awaits

end Scanning

/-! ## One step -/

/-- The same is awaited, as much of it is known, and nothing is received once something was
heard. -/
structure Continues (a rest : Answer) : Prop where
  sequence_eq : rest.sequence = a.sequence
  found_eq : rest.found = a.found
  finished_eq : rest.finished = a.finished
  session_eq : a.found = true → rest.session = a.session

/-- What a step does about the record that it comes to. -/
inductive Comes (a : Answer) : Option Record → Step → Prop where
  /-- The step comes to a record that is not awaited, and passes it over. -/
  | passed {r : Record} {rest : Answer} (hother : ¬ a.Awaits r) (hrest : a.Continues rest) :
    Comes a (some r) (.advance rest)
  /-- The step comes to a record that is awaited, and makes a response of it. -/
  | taken {r : Record} {response : Response} {rest : Answer} (hr : a.Awaits r)
    (hitem : r.item = .ok response) (hsequence : rest.sequence = a.sequence)
    (hfound : rest.found = true) (hsession : rest.session = a.session) :
    Comes a (some r) (.yield response rest)
  /-- The step comes to a record that is awaited and makes an error, which ends the answer. -/
  | refused {r : Record} {cause : SessionError} {rest : Answer} (hr : a.Awaits r)
    (hitem : r.item = .error cause) (hover : rest.finished = true)
    (hsession : rest.session = a.session) : Comes a (some r) (.fail cause rest)
  /-- The step comes to no record and ends the answer, which was over or had heard something. -/
  | ended {rest : Answer} (h : a.finished = true ∨ a.found = true) : Comes a none (.finish rest)
  /-- The step comes to no record, and goes on to the end of its batch or into the next one. -/
  | goesOn {rest : Answer} (hrest : a.Continues rest) : Comes a none (.advance rest)
  /-- The step asks for the next batch, since nothing was heard so far, and is refused one. -/
  | broken {cause : SessionError} {rest : Answer} (hopen : a.finished = false)
    (hunheard : a.found = false) : Comes a none (.fail cause rest)
  /-- The step halts: the next batch never arrives, or the batch that is read lies behind the end of
  the storage. -/
  | halted {fault : Fault} {rest : Answer} (hopen : a.finished = false)
    (h : a.found = false ∨ a.session.draft.arena.data.length < a.length) :
    Comes a none (.halt fault rest)

theorem comes_record?_step (a : Answer) : a.Comes a.record? a.step := by
  rw [record?, step]
  by_cases hfinished : a.finished
  · rw [if_pos (.inl hfinished), if_pos hfinished]
    exact .ended (.inl hfinished)
  have hopen : a.finished = false := by simpa using hfinished
  rw [if_neg hfinished]
  by_cases hended : a.length ≤ a.offset
  · rw [if_pos (.inr (.inl hended)), if_pos hended]
    by_cases hfound : a.found
    · rw [if_pos hfound]
      exact .ended (.inr hfound)
    · rw [if_neg hfound, refill]
      rw [Bool.not_eq_true] at hfound
      rcases a.session.receive with ⟨length, s⟩ | ⟨cause, s⟩ | ⟨fault, s⟩
      · exact .goesOn ⟨rfl, rfl, rfl, fun h => by simp [hfound] at h⟩
      · exact .broken hopen hfound
      · exact .halted hopen (.inl hfound)
  rw [if_neg hended, scan]
  by_cases hshort : a.session.draft.arena.data.length < a.length
  · rw [if_pos (.inr (.inr hshort)), if_pos hshort]
    exact .halted hopen (.inr hshort)
  rw [if_neg (by simp [hfinished, hended, hshort]), if_neg hshort]
  rcases Record.decode ((a.session.draft.arena.data.take a.length).drop a.offset) with cause | r
  · exact .goesOn ⟨rfl, rfl, rfl, fun _ => rfl⟩
  · dsimp only [Except.toOption]
    by_cases hdone : r.isDone
    · rw [if_pos hdone]
      exact .passed (fun hr => by simp [hr.2] at hdone) ⟨rfl, rfl, rfl, fun _ => rfl⟩
    rw [if_neg hdone]
    by_cases hnumber : r.header.sequence = a.sequence
    · rw [if_neg (not_not.2 hnumber), judge_eq]
      have hr : a.Awaits r := ⟨hnumber, by simpa using hdone⟩
      rcases hitem : r.item with cause | response
      · exact .refused hr hitem rfl rfl
      · exact .taken hr hitem rfl rfl rfl
    · rw [if_pos hnumber]
      exact .passed (fun hr => hnumber hr.1) ⟨rfl, rfl, rfl, fun _ => rfl⟩

/-! ## What is heard, step by step -/

section Heard

variable {β : Type} {handler : β → Response → β × Option String}

lemma mem_heard {a : Answer} {b : β} {r : Record} (hr : r ∈ a.scanned handler b)
    (hawaits : a.Awaits r) : r ∈ a.heard handler b :=
  List.mem_filter.2 ⟨hr, decide_eq_true hawaits⟩

lemma Continues.filter_awaits {a rest : Answer} (h : rest.sequence = a.sequence)
    (records : List Record) : records.filter rest.Awaits = records.filter a.Awaits :=
  List.filter_congr fun r _ => decide_eq_decide.2 (by rw [Awaits, Awaits, h])

/-- What a call hears, by its first step. -/
inductive Hears (handler : β → Response → β × Option String) (a : Answer) (b : β) :
    List Record → Step → Prop where
  /-- The step hears nothing, and the call hears what the rest of it hears. -/
  | later {rest : Answer} (hrest : a.Continues rest) :
    Hears handler a b (rest.heard handler b) (.advance rest)
  /-- The handler takes the response, and the call hears its record and what the rest hears. -/
  | taken {r : Record} {response : Response} {rest : Answer} {b' : β}
    (hitem : r.item = .ok response) (hfound : rest.found = true)
    (hsession : rest.session = a.session) (hhandler : handler b response = (b', none)) :
    Hears handler a b (r :: rest.heard handler b') (.yield response rest)
  /-- The handler fails for the response, and its record is all that the call hears. -/
  | failed {r : Record} {response : Response} {rest : Answer} {b' : β} {text : String}
    (hitem : r.item = .ok response) (hhandler : handler b response = (b', some text)) :
    Hears handler a b [r] (.yield response rest)
  /-- The step fails for a record, which is all that the call hears. -/
  | refused {r : Record} {cause : SessionError} {rest : Answer} (hitem : r.item = .error cause)
    (hover : rest.finished = true) (hsession : rest.session = a.session) :
    Hears handler a b [r] (.fail cause rest)
  /-- The answer ends, and nothing is heard. -/
  | ended {rest : Answer} (h : a.finished = true ∨ a.found = true) :
    Hears handler a b [] (.finish rest)
  /-- The next batch is refused, and nothing is heard. -/
  | broken {cause : SessionError} {rest : Answer} (hopen : a.finished = false)
    (hunheard : a.found = false) : Hears handler a b [] (.fail cause rest)
  /-- The step halts, and nothing is heard. -/
  | halted {fault : Fault} {rest : Answer} (hopen : a.finished = false)
    (h : a.found = false ∨ a.session.draft.arena.data.length < a.length) :
    Hears handler a b [] (.halt fault rest)

theorem hears_heard_step (a : Answer) (b : β) :
    a.Hears handler b (a.heard handler b) a.step := by
  have hcomes := a.comes_record?_step
  rw [heard, scanned_step, List.filter_append]
  generalize a.record? = record at hcomes
  split
  · next response rest hstep =>
    rw [hstep] at hcomes ⊢
    cases hcomes with
    | taken hr hitem hsequence hfound hsession =>
      rw [Option.toList_some, List.filter_cons_of_pos (by simpa using hr),
        List.filter_nil]
      split
      · next b' hhandler =>
        rw [← Continues.filter_awaits hsequence]
        exact .taken hitem hfound hsession hhandler
      · next hhandler => exact .failed hitem hhandler
  · next rest hstep =>
    rw [hstep] at hcomes ⊢
    cases hcomes with
    | passed hother hrest =>
      rw [Option.toList_some, List.filter_cons_of_neg (by simpa using hother), List.filter_nil,
        List.nil_append, ← Continues.filter_awaits hrest.sequence_eq]
      exact .later hrest
    | goesOn hrest =>
      rw [Option.toList_none, List.filter_nil, List.nil_append,
        ← Continues.filter_awaits hrest.sequence_eq]
      exact .later hrest
  · next cause rest hstep =>
    rw [hstep] at hcomes ⊢
    cases hcomes with
    | refused hr hitem hover hsession =>
      rw [Option.toList_some, List.filter_cons_of_pos (by simpa using hr),
        List.filter_nil]
      exact .refused hitem hover hsession
    | broken hopen hunheard => exact .broken hopen hunheard
  · next rest hstep =>
    rw [hstep] at hcomes ⊢
    cases hcomes with
    | ended h => exact .ended h
  · next fault rest hstep =>
    rw [hstep] at hcomes ⊢
    cases hcomes with
    | halted hopen h => exact .halted hopen h

/-! ## How the call ends -/

variable {a rest : Answer} {b b' : β} {response : Response} {cause : SessionError}

/-- A call, by what its first step comes to. -/
lemma forEach_step (a : Answer) (b : β) :
    a.forEach handler b = match a.step with
      | .yield response rest =>
        match handler b response with
        | (b, none) => rest.forEach handler b
        | (b, some text) => .refused (.handler text) (rest, b)
      | .advance rest => rest.forEach handler b
      | .fail cause rest => .refused cause (rest, b)
      | .finish rest => .ok () (rest, b)
      | .halt fault rest => .halted fault (rest, b) := by
  rw [forEach_eq, next_eq]
  rcases a.step with ⟨response, rest⟩ | ⟨cause, rest⟩ | rest | rest | ⟨fault, rest⟩
  · rfl
  · rfl
  · rfl
  · exact (forEach_eq rest b).symm
  · rfl

/-- **A call that ends well.**  Something was heard, unless it was heard before or the answer was
over, and nothing that was heard makes an error. -/
theorem heard_of_forEach_eq_ok {p : Answer × β} (h : a.forEach handler b = .ok () p) :
    (a.finished = true ∨ a.found = true ∨ a.heard handler b ≠ []) ∧
      ∀ r ∈ a.heard handler b, ∃ response, r.item = .ok response := by
  -- by induction on the steps of the call
  fun_induction scanned handler a b with
  | case1 a b ihYield ihAdvance =>
    have hheard : a.Hears handler b _ _ := a.hears_heard_step b
    rw [forEach_step] at h
    generalize a.heard handler b = records at hheard ⊢
    generalize hstep : a.step = step at hheard h
    cases hheard with
    | later hrest =>
      obtain ⟨hsome, hall⟩ := ihAdvance _ hstep h
      rw [hrest.finished_eq, hrest.found_eq] at hsome
      exact ⟨hsome, hall⟩
    | taken hitem hfound hsession hhandler =>
      simp only [hhandler] at h
      obtain ⟨-, hall⟩ := ihYield _ _ hstep _ h
      exact ⟨.inr (.inr (List.cons_ne_nil _ _)), List.forall_mem_cons.2 ⟨⟨_, hitem⟩, hall⟩⟩
    | failed hitem hhandler =>
      simp only [hhandler] at h
      cases h
    | refused => cases h
    | ended hover => exact ⟨hover.elim .inl fun h => .inr (.inl h), fun r hr => nomatch hr⟩
    | broken => cases h
    | halted => cases h

/-- **Conversely**, such an answer is heard to its end, if the handler takes every response. -/
theorem forEach_eq_ok_of_heard (h : a.InRange)
    (hnever : ∀ b response, (handler b response).2 = none)
    (hsome : a.finished = true ∨ a.found = true ∨ a.heard handler b ≠ [])
    (hall : ∀ r ∈ a.heard handler b, ∃ response, r.item = .ok response) :
    ∃ p, a.forEach handler b = .ok () p := by
  fun_induction scanned handler a b with
  | case1 a b ihYield ihAdvance =>
    have hheard : a.Hears handler b _ _ := a.hears_heard_step b
    have hstepped := h.step
    rw [forEach_step]
    generalize a.heard handler b = records at hheard hsome hall
    generalize hstep : a.step = step at hheard hstepped
    cases hheard with
    | later hrest =>
      rw [← hrest.finished_eq, ← hrest.found_eq] at hsome
      exact ihAdvance _ hstep hstepped hsome hall
    | taken hitem hfound hsession hhandler =>
      simp only [hhandler]
      exact ihYield _ _ hstep _ hstepped (.inr (.inl hfound)) (List.forall_mem_cons.1 hall).2
    | @failed _ response _ _ _ hitem hhandler =>
      have hnone := hnever b response
      rw [hhandler] at hnone
      cases hnone
    | refused hitem =>
      obtain ⟨response, hresponse⟩ := hall _ (List.mem_singleton.2 rfl)
      rw [hitem] at hresponse
      cases hresponse
    | ended => exact ⟨_, rfl⟩
    | broken hopen hunheard => simp [hopen, hunheard] at hsome
    | halted hopen hhalted =>
      rcases hhalted with hunheard | hshort
      · simp [hopen, hunheard] at hsome
      · exact absurd (h.length_le hopen) (Nat.not_le.2 hshort)

/-- **An error that is heard** ends the call. -/
theorem forEach_of_refusal {r : Record} (hr : r ∈ a.heard handler b)
    (hitem : r.item = .error cause) : ∃ p, a.forEach handler b = .refused cause p := by
  fun_induction scanned handler a b with
  | case1 a b ihYield ihAdvance =>
    have hheard : a.Hears handler b _ _ := a.hears_heard_step b
    rw [forEach_step]
    generalize a.heard handler b = records at hheard hr
    generalize hstep : a.step = step at hheard
    cases hheard with
    | later hrest => exact ihAdvance _ hstep hr
    | taken hitem' hfound hsession hhandler =>
      simp only [hhandler]
      rcases List.mem_cons.1 hr with rfl | hr
      · cases hitem.symm.trans hitem'
      · exact ihYield _ _ hstep _ hr
    | failed hitem' hhandler =>
      rw [List.mem_singleton.1 hr, hitem'] at hitem
      cases hitem
    | refused hitem' =>
      rw [List.mem_singleton.1 hr, hitem'] at hitem
      cases hitem
      exact ⟨_, rfl⟩
    | ended => cases hr
    | broken => cases hr
    | halted => cases hr

end Heard

/-- The handler that takes every response. -/
def accepting (_ : Unit) (_ : Response) : Unit × Option String := ((), none)

/-- It ends the answer too: whoever calls for the responses one by one gets some, then the error,
and then nothing. -/
theorem brings_of_refusal {a : Answer} {r : Record} {cause : SessionError}
    (hr : r ∈ a.heard accepting ()) (hitem : r.item = .error cause) :
    ∃ (responses : List Response) (left : List Delivery),
      a.Brings (responses.map .ok ++ [.error cause]) left ∧
        (a.found = true → a.session.channel.deliveries = left) := by
  generalize hb : () = b at hr
  fun_induction scanned accepting a b with
  | case1 a b ihYield ihAdvance =>
    have hheard : a.Hears accepting b _ _ := a.hears_heard_step b
    have hnext := a.next_eq
    generalize a.heard accepting b = records at hheard hr
    generalize hstep : a.step = step at hheard hnext
    cases hheard with
    | later hrest =>
      obtain ⟨responses, left, hbrings, hleft⟩ := ihAdvance _ hstep hb hr
      have hmeets : a.Meets (some (responses.map .ok ++ [.error cause], left)) :=
        Meets.of_next hnext hbrings
      refine ⟨responses, left, hmeets, fun hfound => ?_⟩
      rw [← hrest.session_eq hfound]
      exact hleft (hrest.found_eq.trans hfound)
    | @taken _ response _ _ hitem' hfound hsession hhandler =>
      rcases List.mem_cons.1 hr with rfl | hr
      · cases hitem.symm.trans hitem'
      · obtain ⟨responses, left, hbrings, hleft⟩ := ihYield _ _ hstep _ hb hr
        refine ⟨response :: responses, left, hbrings.of_response hnext (hleft hfound), fun _ => ?_⟩
        rw [← hsession]
        exact hleft hfound
    | failed hitem' hhandler => cases hhandler
    | refused hitem' hover hsession =>
      rw [List.mem_singleton.1 hr, hitem'] at hitem
      cases hitem
      exact ⟨[], _, brings_of_refused hnext hover rfl, fun _ => by rw [hsession]⟩
    | ended => cases hr
    | broken => cases hr
    | halted => cases hr

end Answer

end Rtnetlink
