import Rtnetlink.Proofs.Requests
import Rtnetlink.Proofs.Scanning

/-!
# What a status comes to

Whoever waits for the answer to a request is told how the kernel judged it, as far as the records
that are heard say so.  A status that is not zero ends the call with an error; its number is kept
if the table of errors knows it, and replaced by 0 otherwise.  A call that ends well has heard
something, but not always a status: records with data, in the first batch in which anything is
heard, end it as well.

* `Session.IsReported`, `Session.refused_with_number`: which error a status makes, and with which
  number it is reported;
* `Session.waits_eq_ok_iff`: which answers let a call that waits end well, and which of them hold an
  acknowledgment.
-/

namespace Rtnetlink

open LittleEndian

/-- A number that stands for no known error is kept as zero. -/
lemma Errno.number_ofNumber (number : Nat) :
    (ofNumber number).number = if (lineOf? number).isSome then number else 0 := by
  change (if (lineOf? number).isSome then (⟨number⟩ : Errno) else ⟨0⟩).number = _
  split <;> rfl

/-- Only its own number stands for an error that is known. -/
lemma Errno.eq_number_of_ofNumber {n : Nat} {e : Errno} (h : ofNumber n = e) (he : e.number ≠ 0) :
    n = e.number := by
  have hnumber := number_ofNumber n
  rw [h] at hnumber
  split at hnumber
  · exact hnumber.symm
  · exact absurd hnumber he

/-! ## What a record reports -/

namespace Record

variable {r : Record}

/-- The record belongs to the request of that number and reports that code. -/
def Reports (r : Record) (number : UInt32) (code : Int) : Prop :=
  r.header.sequence = number ∧ r.code?.map Int32.toInt = some code

instance (r : Record) (number : UInt32) (code : Int) : Decidable (r.Reports number code) :=
  inferInstanceAs (Decidable (_ ∧ _))

lemma code?_eq (r : Record) : r.code?
    = if r.header.type = MessageType.error ∧ 4 ≤ r.payload.length then some (toI32 r.payload)
      else none := by
  by_cases htype : r.header.type = MessageType.error
  · by_cases hshort : r.payload.length < 4
    · simp [code?, status?, isError, htype, Status.decode, Status.codeSize, hshort]
    · simp [code?, status?, isError, htype, Status.decode, Status.codeSize, hshort,
        Nat.le_of_not_lt hshort]
  · simp [code?, status?, isError, htype]

lemma isDone_of_isError (h : r.isError = true) : r.isDone = false := by
  rw [isError, beq_iff_eq] at h
  rw [isDone, h]
  decide

/-- Only records of type error report a code. -/
lemma isError_of_code? {code : Int32} (h : r.code? = some code) : r.isError = true := by
  rw [code?_eq] at h
  split at h
  · next hr => simpa [isError] using hr.1
  · cases h

lemma Reports.awaits {a : Answer} {code : Int} (h : r.Reports a.sequence code) : a.Awaits r := by
  obtain ⟨hsequence, hcode⟩ := h
  obtain ⟨code', hcode, -⟩ := Option.map_eq_some_iff.1 hcode
  exact ⟨hsequence, isDone_of_isError (isError_of_code? hcode)⟩

/-- The negative of a code is its number, if the code is not the least. -/
lemma toInt_negated {code : Int32} {n : Nat} (hcode : code.toInt = -n) (hsmall : n < 2 ^ 31) :
    (Status.negated code).toInt = n := by
  have hleast : code ≠ Int32.minValue := by
    rintro rfl
    rw [Int32.toInt_minValue] at hcode
    omega
  rw [Status.negated, if_neg hleast, Int32.toInt_neg, hcode, Int.neg_neg]
  exact Int.bmod_eq_of_le (by omega) (by omega)

/-- A code that is not zero makes an error with its number. -/
lemma Reports.item {number : UInt32} {n : Nat} (hpos : 0 < n) (hsmall : n < 2 ^ 31)
    (h : r.Reports number (-n)) : r.item = .error (.kernel (.ofNumber n)) := by
  obtain ⟨code, hcode, hn⟩ := Option.map_eq_some_iff.1 h.2
  rw [code?_eq] at hcode
  split at hcode
  · next hr =>
    cases hcode
    have hzero : toI32 r.payload ≠ 0 := by
      intro hzero
      rw [hzero] at hn
      simp only [Int32.toInt_zero] at hn
      omega
    rw [Record.item, if_pos hr.1, if_neg (Nat.not_lt.2 hr.2), if_neg hzero,
      toInt_negated hn hsmall]
  · cases hcode

/-- A record makes a response if it has no status, or one that is zero. -/
lemma item_eq_ok_iff : (∃ response, r.item = .ok response) ↔
    (r.isError = true → r.code? = some 0) := by
  rw [Record.item, code?_eq, isError, beq_iff_eq]
  by_cases htype : r.header.type = MessageType.error
  · by_cases hshort : r.payload.length < 4
    · simp [htype, hshort, Nat.not_le.2 hshort]
    · by_cases hzero : toI32 r.payload = 0 <;>
        simp [htype, hshort, hzero, Nat.le_of_not_lt hshort]
  · simp [htype]

end Record

/-! ## Waiting -/

namespace Session

variable {s s' : Session} {a : Answer} {β : Type} {handler : β → Response → β × Option String}
  {b : β} {cause : SessionError}

/-- Hearing the answer ends like the call that reads it. -/
lemma sendWith_of_refused {p : Answer × β} (hsent : sendAcked s = .ok a s')
    (h : a.forEach handler b = .refused cause p) :
    sendWith handler (s, b) = .refused cause (p.1.session, p.2) := by
  rw [sendWith, hsent]
  simp only [h]

lemma sendAndWait_of_refused {p : Answer × Unit} (hsent : sendAcked s = .ok a s')
    (h : a.forEach Answer.accepting () = .refused cause p) :
    sendAndWait s = .refused cause p.1.session := by
  have hwith : sendWith (fun b _ => (b, none)) (s, ()) = .refused cause (p.1.session, p.2) :=
    sendWith_of_refused hsent h
  rw [sendAndWait, Run.within, hwith]

lemma sendWith_eq_ok {q : Session × β} : sendWith handler (s, b) = .ok () q ↔
    ∃ a s₁ p, sendAcked s = .ok a s₁ ∧ a.forEach handler b = .ok () p ∧ (p.1.session, p.2) = q := by
  rw [sendWith]
  constructor
  · intro h
    rcases hsent : sendAcked s with ⟨a, s₁⟩ | ⟨cause, s₁⟩ | ⟨fault, s₁⟩ <;> rw [hsent] at h
    · dsimp only at h
      rcases heach : a.forEach handler b with ⟨⟨⟩, p⟩ | ⟨cause, p⟩ | ⟨fault, p⟩ <;> rw [heach] at h
      · cases h
        exact ⟨a, s₁, p, rfl, heach, rfl⟩
      · cases h
      · cases h
    · cases h
    · cases h
  · rintro ⟨a, s₁, p, hsent, heach, rfl⟩
    rw [hsent]
    simp only [heach]

lemma sendAndWait_eq_ok : sendAndWait s = .ok () s' ↔ ∃ a s₁ p, sendAcked s = .ok a s₁ ∧
    a.forEach Answer.accepting () = .ok () p ∧ p.1.session = s' := by
  constructor
  · intro h
    obtain ⟨q, hwith, rfl⟩ := Run.within_eq_ok.1 h
    obtain ⟨a, s₁, p, hsent, heach, rfl⟩ := sendWith_eq_ok.1 hwith
    exact ⟨a, s₁, p, hsent, heach, rfl⟩
  · rintro ⟨a, s₁, p, hsent, heach, rfl⟩
    exact Run.within_eq_ok.2 ⟨_, sendWith_eq_ok.2 ⟨a, s₁, p, hsent, heach, rfl⟩, rfl⟩

/-- The answer to a request that was composed is awaited under the number of the request. -/
lemma Composed.sequence_eq {r : Request} {t t' : Session} (h : s.Composed r t)
    (hsent : sendAcked t = .ok a t') : a.sequence = s.nextSequence := by
  obtain ⟨u, htransmit, -⟩ := transmit_laid rfl h.marks_eq h.laid
  rw [sendAcked] at hsent
  obtain ⟨number, v, htransmitted, hrest⟩ := Run.bind_eq_ok.1 hsent
  obtain ⟨⟨⟩, w, -, hrest⟩ := Run.bind_eq_ok.1 hrest
  rw [Run.bind_of_ok (Run.state_apply w)] at hrest
  cases hrest
  rcases htransmit with htransmit | ⟨errno, htransmit⟩
  · exact (Outcome.ok.inj (htransmitted.symm.trans htransmit)).1
  · cases htransmitted.symm.trans htransmit

end Session

namespace Operation

variable {op : Operation} {t t' : Session} {a : Answer}

/-- The records that are scanned when the operation hears the answer to its request. -/
def scanned : Operation → Answer → List Record
  | indexOf _, a => a.scanned Interface.noteIndex none
  | _, a => a.scanned Answer.accepting ()

lemma finish_of_ne (h : ∀ name, op ≠ .indexOf name) : op.finish = Session.dispatch op.waits := by
  cases op with
  | indexOf name => exact absurd rfl (h name)
  | _ => rfl

lemma scanned_of_ne (h : ∀ name, op ≠ .indexOf name) (a : Answer) :
    op.scanned a = a.scanned Answer.accepting () := by
  cases op with
  | indexOf name => exact absurd rfl (h name)
  | _ => rfl

/-- An error of the kernel that is heard is the error of the operation; for an interface that does
not exist there is one of its own. -/
lemma finish_of_refusal {r : Record} {errno : Errno} (hwaits : op.waits = true)
    (hsent : Session.sendAcked t = .ok a t') (hr : r ∈ op.scanned a) (hawaits : a.Awaits r)
    (hitem : r.item = .error (.kernel errno)) :
    ∃ cause u, op.finish t = .refused cause u ∧ (cause = .session (.kernel errno) ∨
      ∃ name, op = .indexOf name ∧ errno = .noSuchDevice ∧ cause = .interfaceNotFound name) := by
  by_cases hindex : ∃ name, op = .indexOf name
  · obtain ⟨name, rfl⟩ := hindex
    have hheard : r ∈ a.heard Interface.noteIndex none := Answer.mem_heard hr hawaits
    obtain ⟨p, heach⟩ := Answer.forEach_of_refusal hheard hitem
    have hask : Interface.askIndex t = .refused (.session (.kernel errno)) p.1.session := by
      rw [Interface.askIndex, Session.sendWith_of_refused hsent heach]
    have hlearn : Interface.learnIndex name t = (if errno = .noSuchDevice then
        Run.refuse (.interfaceNotFound name) else Run.refuse (.session (.kernel errno)))
          p.1.session :=
      Run.bind_of_ok (Run.attempt_of_refused hask) _
    by_cases hdevice : errno = .noSuchDevice
    · rw [if_pos hdevice] at hlearn
      exact ⟨_, _, Run.bind_of_refused hlearn _, .inr ⟨name, rfl, hdevice, rfl⟩⟩
    · rw [if_neg hdevice] at hlearn
      exact ⟨_, _, Run.bind_of_refused hlearn _, .inl rfl⟩
  · rw [not_exists] at hindex
    rw [scanned_of_ne hindex] at hr
    obtain ⟨p, heach⟩ := Answer.forEach_of_refusal (Answer.mem_heard hr hawaits) hitem
    rw [finish_of_ne hindex, hwaits]
    exact ⟨_, _, Run.mapCause_of_refused (Session.sendAndWait_of_refused hsent heach), .inl rfl⟩

end Operation

/-! ## The number of an error -/

namespace Session

open Answer

variable {β : Type} {handler : β → Response → β × Option String} {a : Answer} {b : β}

lemma forEach_of_reports {n : Nat} (hpos : 0 < n) (hsmall : n < 2 ^ 31) {r : Record}
    (hr : r ∈ a.scanned handler b) (hreports : r.Reports a.sequence (-n)) :
    ∃ p, a.forEach handler b = .refused (.kernel (.ofNumber n)) p :=
  forEach_of_refusal (mem_heard hr hreports.awaits) (hreports.item hpos hsmall)

/-- The kernel's error number `n`, as it is reported. -/
structure IsReported (n : Nat) : Prop where
  /-- It is reported with its number if the table of errors knows it, and with 0 otherwise. -/
  osError?_eq : (SessionError.kernel (.ofNumber n)).osError?
    = some (if (Errno.lineOf? n).isSome then (n : Int) else 0)
  /-- So is the error of a configuration step that it makes fail. -/
  osError?_session : (ConfigError.session (.kernel (.ofNumber n))).osError?
    = (SessionError.kernel (.ofNumber n)).osError?
  /-- A call that waits ends with the error if it scans a record of its request that reports it. -/
  sendAndWait_eq : ∀ {s s₁ : Session} {a : Answer}, sendAcked s = .ok a s₁ →
    ∀ r ∈ a.scanned accepting (), r.Reports a.sequence (-n) →
      ∃ s', sendAndWait s = .refused (.kernel (.ofNumber n)) s'
  /-- So does an answer that is read response by response. -/
  brings : ∀ {s s₁ : Session} {a : Answer}, sendAcked s = .ok a s₁ →
    ∀ r ∈ a.scanned accepting (), r.Reports a.sequence (-n) → ∃ responses left,
      a.Brings (List.map .ok responses ++ [.error (.kernel (.ofNumber n))]) left
  /-- So does a call that gives the responses to a handler. -/
  sendWith_eq : ∀ {β : Type} {s s₁ : Session} {a : Answer}, sendAcked s = .ok a s₁ →
    ∀ (handler : β → Response → β × Option String) (b : β),
      ∀ r ∈ a.scanned handler b, r.Reports a.sequence (-n) →
        ∃ p, sendWith handler (s, b) = .refused (.kernel (.ofNumber n)) p
  /-- So does an operation that waits, unless it looks up an interface and is told that there is no
  such device. -/
  perform_eq : ∀ {s : Session} {op : Operation} {request : Request}, s.CanBegin →
    op.waits = true → op.request? = some request → ∃ t, s.Composed request t ∧
      ∀ a t', sendAcked t = .ok a t' → a.sequence = s.nextSequence ∧
        ∀ r ∈ op.scanned a, r.Reports a.sequence (-n) →
          ∃ cause u, op.perform s = .refused cause u ∧ (cause = .session (.kernel (.ofNumber n)) ∨
            ∃ name, op = .indexOf name ∧ n = 19 ∧ cause = .interfaceNotFound name)

/-- **What a refusal is reported as.**  Take any error number of the kernel, and any record of the
request that is scanned and reports it.  However the answer is heard, the call ends with the error
of the kernel for that number, and it is reported with the number only if the table of errors knows
it. -/
theorem refused_with_number {n : Nat} (hpos : 0 < n) (hsmall : n < 2 ^ 31) : IsReported n where
  osError?_eq := by
    show some ((Errno.ofNumber n).number : Int) = _
    rw [Errno.number_ofNumber]
    split <;> rfl
  osError?_session := rfl
  sendAndWait_eq hsent r hr hreports := by
    obtain ⟨p, heach⟩ := forEach_of_reports hpos hsmall hr hreports
    exact ⟨_, sendAndWait_of_refused hsent heach⟩
  brings _ r hr hreports := by
    have hheard := mem_heard hr hreports.awaits
    obtain ⟨responses, left, hbrings, -⟩ := brings_of_refusal hheard (hreports.item hpos hsmall)
    exact ⟨responses, left, hbrings⟩
  sendWith_eq hsent handler b r hr hreports := by
    obtain ⟨p, heach⟩ := forEach_of_reports hpos hsmall hr hreports
    exact ⟨_, sendWith_of_refused hsent heach⟩
  perform_eq := by
    intro s op request hs hwaits hrequest
    obtain ⟨t, ht, hfinish⟩ := Operation.perform_of_request hs hrequest
    refine ⟨t, ht, fun a t' hsent => ⟨ht.sequence_eq hsent, fun r hr hreports => ?_⟩⟩
    obtain ⟨cause, u, hrefused, hcause⟩ :=
      Operation.finish_of_refusal hwaits hsent hr hreports.awaits (hreports.item hpos hsmall)
    refine ⟨cause, u, hfinish.trans hrefused, hcause.imp_right ?_⟩
    rintro ⟨name, hop, hdevice, hcause⟩
    exact ⟨name, hop, Errno.eq_number_of_ofNumber hdevice (by decide), hcause⟩

/-- A session that has begun request 0 and receives batches of up to 32 bytes. -/
def askingBriefly (batches : List (List UInt8)) : Session :=
  { asking batches with options.receiveBufferSize := 32 }

/-- Its request is refused with a number behind the end of the table of errors. -/
def refusedUnknown : Session :=
  askingBriefly [Header.encode { length := 20, type := 2 } ++ ofI32 (-524)]

/-- The refusal is reported with 0. -/
theorem refused_with_number_of_unknown : 0 < 524 ∧ 524 < 2 ^ 31 ∧
    (∃ s', sendAndWait refusedUnknown = .refused (.kernel (.ofNumber 524)) s') ∧
      (SessionError.kernel (.ofNumber 524)).osError? = some 0 := by
  -- a batch arrives, and its first record refuses the request
  obtain ⟨a, s₁, a₁, r, hsent, hbatch, hrecord, hreports⟩ :
      ∃ a s₁ a₁ r, sendAcked refusedUnknown = .ok a s₁ ∧ a.step = .advance a₁ ∧
        a₁.record? = some r ∧ r.Reports a.sequence (-524) :=
    ⟨_, _, _, _, rfl, rfl, rfl, by decide +kernel⟩
  have hscanned : r ∈ a.scanned accepting () := by
    rw [scanned_step, hbatch]
    refine List.mem_append_right _ ?_
    show r ∈ a₁.scanned accepting ()
    rw [scanned_step, hrecord]
    exact List.mem_append_left _ (List.mem_singleton.2 rfl)
  have hreported : IsReported 524 := refused_with_number (by decide) (by decide)
  exact ⟨by decide, by decide, hreported.sendAndWait_eq hsent r hscanned hreports,
    hreported.osError?_eq.trans (by decide +kernel)⟩

end Session

/-! ## Ending well -/

namespace Answer

/-- Whoever waits for the answer is told that all is well: something is heard, and every status that
is heard is zero. -/
structure EndsWell (a : Answer) : Prop where
  heard_ne : a.heard accepting () ≠ []
  code_eq : ∀ r ∈ a.heard accepting (), r.isError = true → r.code? = some 0

lemma endsWell_iff {a : Answer} : a.EndsWell ↔ a.heard accepting () ≠ [] ∧
    ∀ r ∈ a.heard accepting (), ∃ response, r.item = .ok response := by
  simp only [Record.item_eq_ok_iff]
  exact ⟨fun ⟨h, h'⟩ => ⟨h, h'⟩, fun ⟨h, h'⟩ => ⟨h, h'⟩⟩

end Answer

namespace Session

open Answer

lemma sendAndWait_eq_ok_iff {s : Session} (hs : s.Sized) : (∃ s', sendAndWait s = .ok () s') ↔
    ∃ a s₁, sendAcked s = .ok a s₁ ∧ a.EndsWell := by
  constructor
  · rintro ⟨s', h⟩
    obtain ⟨a, s₁, p, hsent, heach, -⟩ := sendAndWait_eq_ok.1 h
    obtain ⟨hsome, hall⟩ := heard_of_forEach_eq_ok heach
    have hwaits := waits_of_sendAcked hsent
    have hheard : a.heard accepting () ≠ [] := by
      simpa [hwaits.unheard, hwaits.unfinished] using hsome
    exact ⟨a, s₁, hsent, Answer.endsWell_iff.2 ⟨hheard, hall⟩⟩
  · rintro ⟨a, s₁, hsent, hwell⟩
    obtain ⟨hheard, hall⟩ := Answer.endsWell_iff.1 hwell
    obtain ⟨p, heach⟩ := forEach_eq_ok_of_heard (inRange_of_sendAcked hs hsent) (fun _ _ => rfl)
      (.inr (.inr hheard)) hall
    exact ⟨_, sendAndWait_eq_ok.2 ⟨a, s₁, p, hsent, heach, rfl⟩⟩

/-- **Ending well is not being acknowledged.**  A call that waits ends well exactly if it hears
something and every status that it hears is zero; so does an operation that waits.  An
acknowledgment is then among the records it has scanned exactly if one of those it heard is a
status: where all of them are data, none is. -/
theorem waits_eq_ok_iff {s : Session} (hs : s.Sized) :
    ((∃ s', sendAndWait s = .ok () s') ↔ ∃ a s₁, sendAcked s = .ok a s₁ ∧ a.EndsWell) ∧
    (∀ (op : Operation) (request : Request), s.CanBegin → op.waits = true →
      (∀ name, op ≠ .indexOf name) → op.request? = some request →
        ∃ t, s.Composed request t ∧ ((∃ u, op.perform s = .ok () u) ↔
          ∃ a t', sendAcked t = .ok a t' ∧ a.sequence = s.nextSequence ∧ a.EndsWell)) ∧
    ∀ a : Answer, a.EndsWell → ((∃ r ∈ a.scanned accepting (), r.Reports a.sequence 0) ↔
      ∃ r ∈ a.heard accepting (), r.isError = true) := by
  refine ⟨sendAndWait_eq_ok_iff hs, fun op request hbegin hwaits hindex hrequest => ?_,
    fun a hwell => ⟨?_, ?_⟩⟩
  · obtain ⟨t, ht, hfinish⟩ := Operation.perform_of_request hbegin hrequest
    have hdispatch : ∀ u, op.perform s = .ok () u ↔ sendAndWait t = .ok () u := by
      intro u
      rw [hfinish, Operation.finish_of_ne hindex, hwaits, dispatch, Run.mapCause_eq_ok]
      rfl
    refine ⟨t, ht, ?_⟩
    simp only [hdispatch]
    rw [sendAndWait_eq_ok_iff (ht.sized hs)]
    constructor
    · rintro ⟨a, t', hsent, hwell⟩
      exact ⟨a, t', hsent, ht.sequence_eq hsent, hwell⟩
    · rintro ⟨a, t', hsent, -, hwell⟩
      exact ⟨a, t', hsent, hwell⟩
  · rintro ⟨r, hr, hreports⟩
    obtain ⟨code, hcode, -⟩ := Option.map_eq_some_iff.1 hreports.2
    exact ⟨r, mem_heard hr hreports.awaits, Record.isError_of_code? hcode⟩
  · rintro ⟨r, hr, herror⟩
    obtain ⟨hscanned, hawaits⟩ := List.mem_filter.1 hr
    have hcode := hwell.code_eq r hr herror
    refine ⟨r, hscanned, (of_decide_eq_true hawaits).1, ?_⟩
    rw [hcode]
    rfl

/-- A session whose request is answered with a link, and refused in the next batch. -/
def refusedLater : Session :=
  askingBriefly [Header.encode { length := 19, type := 16 } ++ [1, 2, 3, 0],
    Header.encode { length := 20, type := 2 } ++ ofI32 (-13)]

/-- The call ends well, and has scanned no acknowledgment. -/
theorem waits_eq_ok_iff_of_data :
    refusedLater.Sized ∧ (∃ s', sendAndWait refusedLater = .ok () s') ∧
    ∃ a s₁, sendAcked refusedLater = .ok a s₁ ∧
      ¬ ∃ r ∈ a.scanned accepting (), r.Reports a.sequence 0 := by
  have hsized : refusedLater.Sized := by
    rw [Sized, Draft.Sized, Arena.Sized]
    decide
  -- a batch arrives, the link is read, and the answer is over
  obtain ⟨a, s₁, a₁, a₂, a₃, response, r, hsent, hbatch, hyield, hfinish, hrecord, hnone, hr⟩ :
      ∃ a s₁ a₁ a₂ a₃ response r, sendAcked refusedLater = .ok a s₁ ∧ a.step = .advance a₁ ∧
        a₁.step = .yield response a₂ ∧ a₂.step = .finish a₃ ∧ a₁.record? = some r ∧
        (a.record? = none ∧ a₂.record? = none) ∧ a.Awaits r ∧ r.isError = false :=
    ⟨_, _, _, _, _, _, _, rfl, rfl, rfl, rfl, rfl, ⟨rfl, rfl⟩, by decide +kernel, rfl⟩
  have hover : a₂.scanned accepting () = [] := by
    rw [scanned_step, hfinish, hnone.2]
    rfl
  have hdata : a₁.scanned accepting () = [r] := by
    rw [scanned_step, hyield, hrecord]
    show [r] ++ a₂.scanned accepting () = [r]
    rw [hover]
    rfl
  have hscanned : a.scanned accepting () = [r] := by
    rw [scanned_step, hbatch, hnone.1]
    exact hdata
  have hheard : a.heard accepting () = [r] := by
    rw [heard, hscanned]
    exact List.filter_cons_of_pos (by simpa using hr.1)
  have hwell : a.EndsWell := by
    refine ⟨by simp [hheard], fun r' hr' herror => ?_⟩
    rw [hheard, List.mem_singleton] at hr'
    rw [hr', hr.2] at herror
    cases herror
  obtain ⟨hcall, -, hacknowledged⟩ := waits_eq_ok_iff hsized
  refine ⟨hsized, hcall.2 ⟨a, s₁, hsent, hwell⟩, a, s₁, hsent, ?_⟩
  rw [hacknowledged a hwell, hheard]
  rintro ⟨r', hr', herror⟩
  rw [List.mem_singleton.1 hr', hr.2] at herror
  cases herror

end Session

end Rtnetlink
