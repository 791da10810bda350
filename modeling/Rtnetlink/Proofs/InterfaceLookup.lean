import Rtnetlink.Proofs.Accepted
import Rtnetlink.Proofs.Hearing
import Rtnetlink.Proofs.Verdicts

/-!
# An interface is found only if the kernel names it

The index of an interface is noted by a handler while the answer to a request is heard, so it
depends on all of the records of the answer and on their order: statuses, links that are cut short,
links that come later, and links that have no index.  Here it is said which answers yield an index,
which of them say that there is no such interface, and which errors are passed on.

* `Record.Sound`, `Record.Faults`: what is wrong with a record, if anything is;
* `Interface.Names`, `Interface.Missing`: the answers that name an index, and those that say that
  there is none;
* `Interface.judgeAll_of_firstFault`, `Interface.judgeAll_of_lastLink`: what is noted of an answer;
* `Interface.learnIndex_ends`: how a lookup ends whose message has been composed;
* `Interface.indexOf_named_by_kernel`: how the whole call ends.
-/

namespace Rtnetlink

open LittleEndian

/-! ## What is wrong with a record -/

namespace Record

/-- Nothing is wrong with a record for who looks up a link: if it is a status it is zero, and if it
is a link it has its header. -/
structure Sound (r : Record) : Prop where
  status : r.isError = true → r.code? = some 0
  link : r.header.type = MessageType.newLink → 16 ≤ r.payload.length

/-- What is wrong with a record for who looks up a link. -/
inductive Faults (r : Record) : SessionError → Prop where
  /-- It is a status that is cut short. -/
  | malformed (herror : r.isError = true) (hshort : r.payload.length < 4) :
    Faults r (.malformed (.truncated 4 r.payload.length))
  /-- It is a status that is not zero. -/
  | status {code : Int32} (hcode : r.code? = some code) (hnonzero : code ≠ 0) :
    Faults r (.kernel (.ofNumber (Status.negated code).toInt))
  /-- It is a link that is cut short. -/
  | short (hlink : r.header.type = MessageType.newLink) (hshort : r.payload.length < 16) :
    Faults r (.handler (Interface.shortLinkText r.payload.length))

variable {r : Record} {cause : SessionError}

lemma sound_or_faults (r : Record) : r.Sound ∨ ∃ cause, r.Faults cause := by
  by_cases herror : r.isError = true
  · have hlink : r.header.type ≠ MessageType.newLink := by
      rw [isError, beq_iff_eq] at herror
      rw [herror]
      decide
    by_cases hshort : r.payload.length < 4
    · exact .inr ⟨_, .malformed herror hshort⟩
    · have hcode := r.code?_eq
      rw [if_pos ⟨by simpa [isError] using herror, Nat.le_of_not_lt hshort⟩] at hcode
      by_cases hzero : toI32 r.payload = 0
      · exact .inl ⟨fun _ => hcode.trans (congrArg some hzero), fun h => absurd h hlink⟩
      · exact .inr ⟨_, .status hcode hzero⟩
  · by_cases hshort : r.header.type = MessageType.newLink ∧ r.payload.length < 16
    · exact .inr ⟨_, .short hshort.1 hshort.2⟩
    · exact .inl ⟨fun h => absurd h herror, fun h => Nat.le_of_not_lt fun h' => hshort ⟨h, h'⟩⟩

lemma item_eq_ok {response : Response} (h : r.item = .ok response) : response = .ofRecord r := by
  rw [item] at h
  split at h
  · split at h
    · cases h
    · split at h <;> cases h
      rfl
  · cases h
    rfl

lemma item_of_isError_eq_false (h : r.isError = false) : r.item = .ok (.ofRecord r) := by
  rw [item, if_neg (by simpa [isError] using h)]

/-- A sound record is noted without an error. -/
lemma Sound.item (h : r.Sound) : r.item = .ok (.ofRecord r) := by
  obtain ⟨response, hitem⟩ := item_eq_ok_iff.2 h.status
  rw [hitem, item_eq_ok hitem]

end Record

lemma Errno.ofNumber_eq_noSuchDevice_iff {number : Int} :
    ofNumber number = noSuchDevice ↔ number = 19 := by
  constructor
  · intro h
    cases number with
    | ofNat n => exact congrArg Int.ofNat (eq_number_of_ofNumber h (by decide))
    | negSucc n => cases h
  · rintro rfl
    rfl

lemma Status.toInt_negated_eq_iff {code : Int32} : (negated code).toInt = 19 ↔ code = -19 := by
  constructor
  · intro h
    rw [negated] at h
    split at h
    · cases h
    · have hneg : -code = 19 := Int32.toInt_inj.1 h
      rw [← hneg, Int32.neg_neg]
  · rintro rfl
    rfl

/-- The kernel's error for a device that does not exist comes from that one status. -/
lemma Record.faults_noSuchDevice_iff {r : Record} :
    r.Faults (.kernel .noSuchDevice) ↔ r.code? = some (-19) := by
  constructor
  · intro h
    generalize hcause : SessionError.kernel .noSuchDevice = cause at h
    cases h with
    | malformed => cases hcause
    | @status code hcode hnonzero =>
      have herrno := SessionError.kernel.inj hcause
      rw [eq_comm, Errno.ofNumber_eq_noSuchDevice_iff, Status.toInt_negated_eq_iff] at herrno
      rw [hcode, herrno]
    | short => cases hcause
  · intro hcode
    exact .status hcode (by decide)

/-! ## What an answer says -/

namespace Interface

/-- The last link of an answer has that index. -/
def LastLink (records : List Record) (index : UInt32) : Prop :=
  ∃ before link after, records = before ++ link :: after ∧
    link.header.type = MessageType.newLink ∧
    (∀ r ∈ after, r.header.type ≠ MessageType.newLink) ∧ toU32 (link.payload.drop 4) = index

/-- The first error of an answer. -/
def FirstFault (records : List Record) (cause : SessionError) : Prop :=
  ∃ before r after, records = before ++ r :: after ∧ (∀ x ∈ before, x.Sound) ∧ r.Faults cause

/-- The kernel names an index: all records are sound, and the last link has that index, which is not
zero. -/
structure Names (records : List Record) (index : UInt32) : Prop where
  sound : ∀ r ∈ records, r.Sound
  last : LastLink records index
  nonzero : index ≠ 0

/-- The kernel says that there is no such interface. -/
inductive Missing (records : List Record) : Prop where
  /-- The first record that is not sound is a status with the number of that error. -/
  | refused {before after : List Record} {r : Record} (hrecords : records = before ++ r :: after)
    (hbefore : ∀ x ∈ before, x.Sound) (hcode : r.code? = some (-19))
  /-- All are sound, and none is a link. -/
  | unnamed (hsound : ∀ r ∈ records, r.Sound)
    (hnone : ∀ r ∈ records, r.header.type ≠ MessageType.newLink)
  /-- All are sound, and the last link has no index. -/
  | zero (hsound : ∀ r ∈ records, r.Sound) (hlast : LastLink records 0)

variable {records : List Record} {index : Option UInt32} {i : UInt32} {cause : SessionError}

lemma missing_of_firstFault (h : FirstFault records (.kernel .noSuchDevice)) : Missing records := by
  obtain ⟨before, r, after, hrecords, hbefore, hfault⟩ := h
  exact .refused hrecords hbefore (Record.faults_noSuchDevice_iff.1 hfault)

lemma lastLink_or_none (records : List Record) :
    (∃ i, LastLink records i) ∨ ∀ r ∈ records, r.header.type ≠ MessageType.newLink := by
  induction records with
  | nil => exact .inr (List.forall_mem_nil _)
  | cons r records ih =>
    rcases ih with ⟨i, before, link, after, rfl, hlink⟩ | hnone
    · exact .inl ⟨i, r :: before, link, after, rfl, hlink⟩
    · by_cases hlink : r.header.type = MessageType.newLink
      · exact .inl ⟨_, [], r, records, rfl, hlink, hnone, rfl⟩
      · exact .inr (List.forall_mem_cons.2 ⟨hlink, hnone⟩)

lemma sound_or_firstFault (records : List Record) :
    (∀ r ∈ records, r.Sound) ∨ ∃ cause, FirstFault records cause := by
  induction records with
  | nil => exact .inl (List.forall_mem_nil _)
  | cons r records ih =>
    rcases r.sound_or_faults with hsound | ⟨cause, hfault⟩
    · rcases ih with hall | ⟨cause, before, x, after, rfl, hbefore, hfault⟩
      · exact .inl (List.forall_mem_cons.2 ⟨hsound, hall⟩)
      · exact .inr ⟨cause, r :: before, x, after, rfl,
          List.forall_mem_cons.2 ⟨hsound, hbefore⟩, hfault⟩
    · exact .inr ⟨cause, [], r, records, rfl, List.forall_mem_nil _, hfault⟩

/-! ## What is noted of it -/

/-- A sound record is noted if it is a link. -/
lemma judgeAll_cons_of_sound {r : Record} (h : r.Sound) (index : Option UInt32)
    (records : List Record) : Answer.judgeAll noteIndex index (r :: records)
      = Answer.judgeAll noteIndex (if r.header.type = MessageType.newLink
          then some (toU32 (r.payload.drop 4)) else index) records := by
  rw [Answer.judgeAll, h.item]
  by_cases hlink : r.header.type = MessageType.newLink
  · have hlong : ¬ r.payload.length < LinkHeader.size := Nat.not_lt.2 (h.link hlink)
    have hnote : noteIndex index (.ofRecord r) = (some (toU32 (r.payload.drop 4)), none) :=
      (if_pos hlink).trans (if_neg hlong)
    simp only [hnote, if_pos hlink]
  · have hnote : noteIndex index (.ofRecord r) = (index, none) := if_neg hlink
    simp only [hnote, if_neg hlink]

/-- A record that is not sound ends the noting with its error. -/
lemma judgeAll_cons_of_faults {r : Record} (h : r.Faults cause) (index : Option UInt32)
    (records : List Record) :
    Answer.judgeAll noteIndex index (r :: records) = (index, some cause) := by
  rw [Answer.judgeAll]
  cases h with
  | malformed herror hshort =>
    rw [Record.item, if_pos (by simpa [Record.isError] using herror), if_pos hshort]
  | @status code hcode hnonzero =>
    have hcode' := hcode
    rw [Record.code?_eq] at hcode'
    split at hcode'
    · next hr =>
      cases hcode'
      rw [Record.item, if_pos hr.1, if_neg (Nat.not_lt.2 hr.2), if_neg hnonzero]
    · cases hcode'
  | short hlink hshort =>
    have hdata : r.isError = false := by
      rw [Record.isError, hlink]
      decide
    have hnote : noteIndex index (.ofRecord r) = (index, some (shortLinkText r.payload.length)) :=
      (if_pos hlink).trans (if_pos hshort)
    rw [Record.item_of_isError_eq_false hdata]
    simp only [hnote]

/-- Sound records are all noted; without a link among them, nothing changes. -/
lemma judgeAll_of_sound (h : ∀ r ∈ records, r.Sound) (index : Option UInt32) :
    ∃ index', Answer.judgeAll noteIndex index records = (index', none) ∧
      ((∀ r ∈ records, r.header.type ≠ MessageType.newLink) → index' = index) := by
  induction records generalizing index with
  | nil => exact ⟨index, rfl, fun _ => rfl⟩
  | cons r records ih =>
    obtain ⟨hsound, hall⟩ := List.forall_mem_cons.1 h
    rw [judgeAll_cons_of_sound hsound]
    obtain ⟨index', hjudged, hsame⟩ := ih hall
      (if r.header.type = MessageType.newLink then some (toU32 (r.payload.drop 4)) else index)
    refine ⟨index', hjudged, fun hnone => ?_⟩
    obtain ⟨hlink, hnone⟩ := List.forall_mem_cons.1 hnone
    rw [hsame hnone, if_neg hlink]

lemma judgeAll_of_firstFault (h : FirstFault records cause) :
    ∃ index, Answer.judgeAll noteIndex none records = (index, some cause) := by
  obtain ⟨before, r, after, rfl, hbefore, hfault⟩ := h
  obtain ⟨index, hjudged, -⟩ := judgeAll_of_sound hbefore none
  exact ⟨index, by rw [Answer.judgeAll_append hjudged, judgeAll_cons_of_faults hfault]⟩

/-- Of all links, the last one is noted. -/
lemma judgeAll_of_lastLink (hsound : ∀ r ∈ records, r.Sound) (h : LastLink records i) :
    Answer.judgeAll noteIndex none records = (some i, none) := by
  obtain ⟨before, link, after, rfl, hlink, hafter, rfl⟩ := h
  obtain ⟨hbefore, hsound⟩ := List.forall_mem_append.1 hsound
  obtain ⟨hsoundLink, hsoundAfter⟩ := List.forall_mem_cons.1 hsound
  obtain ⟨index, hjudged, -⟩ := judgeAll_of_sound hbefore none
  obtain ⟨index', hjudged', hsame⟩ :=
    judgeAll_of_sound hsoundAfter (some (toU32 (link.payload.drop 4)))
  rw [Answer.judgeAll_append hjudged, judgeAll_cons_of_sound hsoundLink, if_pos hlink, hjudged',
    hsame hafter]

lemma judgeAll_of_unnamed (hsound : ∀ r ∈ records, r.Sound)
    (hnone : ∀ r ∈ records, r.header.type ≠ MessageType.newLink) :
    Answer.judgeAll noteIndex none records = (none, none) := by
  obtain ⟨index, hjudged, hsame⟩ := judgeAll_of_sound hsound none
  rw [hjudged, hsame hnone]

/-! ## How a lookup ends -/

/-- What is made of the notes of an answer. -/
def conclude (name : String) (s : Session) :
    Option UInt32 × Option SessionError → Outcome ConfigError Session UInt32
  | (_, some cause) =>
    if cause = .kernel .noSuchDevice then .refused (.interfaceNotFound name) s
    else .refused (.session cause) s
  | (none, none) => .refused (.interfaceNotFound name) s
  | (some index, none) =>
    if index = 0 then .refused (.interfaceNotFound name) s else .ok index s

/-- What an answer comes to. -/
inductive Concludes (name : String) (records : List Record) (s : Session) :
    Outcome ConfigError Session UInt32 → Prop where
  | named {index : UInt32} (h : Names records index) : Concludes name records s (.ok index s)
  | missing (h : Missing records) : Concludes name records s (.refused (.interfaceNotFound name) s)
  | faulted {cause : SessionError} (h : FirstFault records cause)
    (hother : cause ≠ .kernel .noSuchDevice) :
    Concludes name records s (.refused (.session cause) s)

variable {name : String} {s t u : Session} {number : UInt32}

lemma conclude_of_names (h : Names records i) :
    conclude name s (Answer.judgeAll noteIndex none records) = .ok i s := by
  rw [judgeAll_of_lastLink h.sound h.last]
  exact if_neg h.nonzero

lemma conclude_of_missing (h : Missing records) :
    conclude name s (Answer.judgeAll noteIndex none records)
      = .refused (.interfaceNotFound name) s := by
  cases h with
  | refused hrecords hbefore hcode =>
    obtain ⟨index, hjudged⟩ := judgeAll_of_firstFault
      ⟨_, _, _, hrecords, hbefore, Record.faults_noSuchDevice_iff.2 hcode⟩
    rw [hjudged, conclude, if_pos rfl]
  | unnamed hsound hnone =>
    rw [judgeAll_of_unnamed hsound hnone]
    rfl
  | zero hsound hlast =>
    rw [judgeAll_of_lastLink hsound hlast, conclude, if_pos rfl]

lemma conclude_of_firstFault (h : FirstFault records cause)
    (hother : cause ≠ .kernel .noSuchDevice) :
    conclude name s (Answer.judgeAll noteIndex none records) = .refused (.session cause) s := by
  obtain ⟨index, hjudged⟩ := judgeAll_of_firstFault h
  rw [hjudged]
  exact if_neg hother

/-- Every answer comes to one of these. -/
lemma concludes (name : String) (records : List Record) (s : Session) :
    Concludes name records s (conclude name s (Answer.judgeAll noteIndex none records)) := by
  rcases sound_or_firstFault records with hsound | ⟨cause, hfault⟩
  · rcases lastLink_or_none records with ⟨i, hlast⟩ | hnone
    · by_cases hzero : i = 0
      · have hmissing := Missing.zero hsound (hzero ▸ hlast)
        rw [conclude_of_missing hmissing]
        exact .missing hmissing
      · rw [conclude_of_names ⟨hsound, hlast, hzero⟩]
        exact .named ⟨hsound, hlast, hzero⟩
    · rw [conclude_of_missing (.unnamed hsound hnone)]
      exact .missing (.unnamed hsound hnone)
  · by_cases hdevice : cause = .kernel .noSuchDevice
    · have hmissing := missing_of_firstFault (hdevice ▸ hfault)
      rw [conclude_of_missing hmissing]
      exact .missing hmissing
    · rw [conclude_of_firstFault hfault hdevice]
      exact .faulted hfault hdevice

lemma learnIndex_of_ok {index : Option UInt32} (h : askIndex t = .ok index u) :
    learnIndex name t = conclude name u (index, none) := by
  rw [learnIndex, Run.bind_of_ok (Run.attempt_of_ok h)]
  cases index with
  | none => rfl
  | some index =>
    dsimp only [conclude]
    split <;> rfl

lemma learnIndex_of_refused (h : askIndex t = .refused (.session cause) u) :
    learnIndex name t = conclude name u (none, some cause) := by
  rw [learnIndex, Run.bind_of_ok (Run.attempt_of_refused h)]
  cases cause with
  | kernel errno =>
    simp only [conclude, SessionError.kernel.injEq]
    split <;> rfl
  | _ => rfl

/-- A lookup whose message is answered comes to what its records say. -/
lemma learnIndex_of_answered (hs : t.Sized)
    (hnumber : ∀ a v, Session.sendAcked t = .ok a v → a.sequence = number)
    (h : t.Answered number records u) :
    learnIndex name t = conclude name u (Answer.judgeAll noteIndex none records) := by
  obtain ⟨a, v, hsent, hheard⟩ := h
  have hwith := Session.sendWith_of_hear hs hsent noteIndex none
  rw [hnumber a v hsent, hheard] at hwith
  rcases hjudged : Answer.judgeAll noteIndex none records with ⟨index, _ | cause⟩ <;>
    simp only [hjudged, Answer.verdict] at hwith
  · exact learnIndex_of_ok (by rw [askIndex, hwith])
  · have hask : askIndex t = .refused (.session cause) u := by rw [askIndex, hwith]
    rw [learnIndex_of_refused hask]
    rfl

/-- A lookup whose message is not answered ends with the cause. -/
lemma learnIndex_of_unanswered (hs : t.Sized)
    (hnumber : ∀ a v, Session.sendAcked t = .ok a v → a.sequence = number)
    (h : t.Unanswered number cause u) (hclass : cause.errorClass = .transport) :
    learnIndex name t = .refused (.session cause) u := by
  have hask : askIndex t = .refused (.session cause) u := by
    cases h with
    | unsent hsent => simp only [askIndex, Session.sendWith, hsent]
    | broken hsent hheard =>
      have hwith := Session.sendWith_of_hear hs hsent noteIndex none
      rw [hnumber _ _ hsent, hheard] at hwith
      rw [askIndex, hwith]
  have hother : cause ≠ .kernel .noSuchDevice := by
    rintro rfl
    cases hclass
  rw [learnIndex_of_refused hask, conclude, if_neg hother]

/-- How a lookup ends whose message has been composed. -/
inductive LookupEnds (name : String) (number : UInt32) (t : Session) :
    Outcome ConfigError Session UInt32 → Prop where
  | answered {records : List Record} {u : Session} {outcome : Outcome ConfigError Session UInt32}
    (h : t.Answered number records u) (hconcludes : Concludes name records u outcome) :
    LookupEnds name number t outcome
  | unanswered {cause : SessionError} {u : Session} (h : t.Unanswered number cause u) :
    LookupEnds name number t (.refused (.session cause) u)
  | halted {fault : Fault} {u : Session} : LookupEnds name number t (.halted fault u)

section Composed

variable (hs : t.Sized) (hnumber : ∀ a v, Session.sendAcked t = .ok a v → a.sequence = number)
  (hclass : ∀ cause u, t.Unanswered number cause u → cause.errorClass = .transport)

include hs hnumber hclass

lemma learnIndex_ends : LookupEnds name number t (learnIndex name t) := by
  rcases hsent : Session.sendAcked t with ⟨a, v⟩ | ⟨cause, v⟩ | ⟨fault, v⟩
  · rcases hheard : v.hear number with ⟨records, u⟩ | ⟨cause, u⟩ | ⟨fault, u⟩
    · have hanswered : t.Answered number records u := ⟨a, v, hsent, hheard⟩
      rw [learnIndex_of_answered hs hnumber hanswered]
      exact .answered hanswered (concludes name records u)
    · have hbroken : t.Unanswered number cause u := .broken hsent hheard
      rw [learnIndex_of_unanswered hs hnumber hbroken (hclass _ _ hbroken)]
      exact .unanswered hbroken
    · have hwith := Session.sendWith_of_hear hs hsent noteIndex none
      rw [hnumber _ _ hsent, hheard] at hwith
      have hask : askIndex t = .halted fault u := by rw [askIndex, hwith]
      rw [learnIndex, Run.bind_of_halted (Run.attempt_of_halted hask)]
      exact .halted
  · have hunsent : t.Unanswered number cause v := .unsent hsent
    rw [learnIndex_of_unanswered hs hnumber hunsent (hclass _ _ hunsent)]
    exact .unanswered hunsent
  · have hask : askIndex t = .halted fault v := by simp only [askIndex, Session.sendWith, hsent]
    rw [learnIndex, Run.bind_of_halted (Run.attempt_of_halted hask)]
    exact .halted

/-- An index is yielded if and only if the answer names it. -/
lemma learnIndex_eq_ok_iff : learnIndex name t = .ok i u ↔
    ∃ records, t.Answered number records u ∧ Names records i := by
  have hends : LookupEnds name number t (learnIndex name t) := learnIndex_ends hs hnumber hclass
  constructor
  · intro h
    rw [h] at hends
    cases hends with
    | answered hanswered hconcludes =>
      cases hconcludes with
      | named hnames => exact ⟨_, hanswered, hnames⟩
  · rintro ⟨records, hanswered, hnames⟩
    rw [learnIndex_of_answered hs hnumber hanswered, conclude_of_names hnames]

/-- There is no such interface if and only if the answer says so. -/
lemma learnIndex_eq_notFound_iff :
    learnIndex name t = .refused (.interfaceNotFound name) u ↔
      ∃ records, t.Answered number records u ∧ Missing records := by
  have hends : LookupEnds name number t (learnIndex name t) := learnIndex_ends hs hnumber hclass
  constructor
  · intro h
    rw [h] at hends
    cases hends with
    | answered hanswered hconcludes =>
      cases hconcludes with
      | missing hmissing => exact ⟨_, hanswered, hmissing⟩
  · rintro ⟨records, hanswered, hmissing⟩
    rw [learnIndex_of_answered hs hnumber hanswered, conclude_of_missing hmissing]

/-- Every other error is that there is no answer, or the first one in it. -/
lemma learnIndex_eq_session_iff :
    learnIndex name t = .refused (.session cause) u ↔
      t.Unanswered number cause u ∨ ∃ records, t.Answered number records u ∧
        FirstFault records cause ∧ cause ≠ .kernel .noSuchDevice := by
  have hends : LookupEnds name number t (learnIndex name t) := learnIndex_ends hs hnumber hclass
  constructor
  · intro h
    rw [h] at hends
    cases hends with
    | answered hanswered hconcludes =>
      cases hconcludes with
      | faulted hfault hother => exact .inr ⟨_, hanswered, hfault, hother⟩
    | unanswered hunanswered => exact .inl hunanswered
  · rintro (hunanswered | ⟨records, hanswered, hfault, hother⟩)
    · exact learnIndex_of_unanswered hs hnumber hunanswered (hclass _ _ hunanswered)
    · rw [learnIndex_of_answered hs hnumber hanswered, conclude_of_firstFault hfault hother]

lemma learnIndex_refusal {cause : ConfigError}
    (h : learnIndex name t = .refused cause u) :
    cause = .interfaceNotFound name ∨ ∃ cause', cause = .session cause' := by
  have hends : LookupEnds name number t (learnIndex name t) := learnIndex_ends hs hnumber hclass
  rw [h] at hends
  cases hends with
  | answered hanswered hconcludes =>
    cases hconcludes with
    | missing => exact .inl rfl
    | faulted => exact .inr ⟨_, rfl⟩
  | unanswered => exact .inr ⟨_, rfl⟩

end Composed

end Interface

/-! ## The whole call -/

namespace Session

variable {s t u : Session} {number : UInt32} {cause : SessionError}

/-- An answer is missing because of the channel. -/
lemma hear_refusal (h : s.hear number = .refused cause t) : cause.errorClass = .transport := by
  fun_induction hear number s with
  | case1 s length u hreceived hheard ih => exact ih h
  | case2 => cases h
  | case3 s cause' u hreceived =>
    cases h
    exact receive_transport _ _ _ hreceived
  | case4 => cases h

lemma Composed.unanswered_errorClass {r : Request} (ht : s.Composed r t)
    (h : t.Unanswered number cause u) : cause.errorClass = .transport := by
  cases h with
  | unsent hsent => exact ht.transmit_refusal (transmit_of_sendAcked_refused hsent)
  | broken hsent hheard => exact hear_refusal hheard

end Session

namespace Interface

/-- The request for the link of a name. -/
def linkRequest (name : String) : Request where
  type := MessageType.getLink
  flags := 0
  body := LinkHeader.cells {}
    ++ Draft.attributeCells LinkAttribute.name (written (Text.utf8 name ++ [0]))

/-- **A lookup yields an index only if the kernel named it.**  A name that is not acceptable leaves
the session as it is.  For any other the message is composed; the lookup then yields an index
exactly if the message is answered, by records that name that index.  There is no such interface
exactly if the answer says so.  Every other error is passed on as it is: that there is no answer, or
what is wrong with the first record of it that is not sound. -/
theorem indexOf_named_by_kernel (s : Session) (name : String) (hs : s.Sized) (hbegin : s.CanBegin) :
    (¬ IsName name → indexOf name s = .refused (.invalidInterfaceName name) s) ∧
    (IsName name → ∃ t, s.Composed (linkRequest name) t ∧
      (∀ index u, indexOf name s = .ok index u ↔
        ∃ records, t.Answered s.nextSequence records u ∧ Names records index) ∧
      (∀ u, indexOf name s = .refused (.interfaceNotFound name) u ↔
        ∃ records, t.Answered s.nextSequence records u ∧ Missing records) ∧
      (∀ cause u, indexOf name s = .refused (.session cause) u ↔
        t.Unanswered s.nextSequence cause u ∨ ∃ records, t.Answered s.nextSequence records u ∧
          FirstFault records cause ∧ cause ≠ .kernel .noSuchDevice) ∧
      ∀ cause u, indexOf name s = .refused cause u →
        cause = .interfaceNotFound name ∨ ∃ cause', cause = .session cause') := by
  refine ⟨fun hname => ?_, fun hname => ?_⟩
  · rw [indexOf, withName, encodeName_of_not_isName hname]
    rfl
  obtain ⟨t, ht, hindex⟩ := indexOf_of_encodeName hbegin (encodeName_of_isName hname)
  have hsized := ht.sized hs
  have hnumber : ∀ a v, Session.sendAcked t = .ok a v → a.sequence = s.nextSequence :=
    fun a v hsent => ht.sequence_eq hsent
  have hclass : ∀ cause u, t.Unanswered s.nextSequence cause u → cause.errorClass = .transport :=
    fun cause u h => ht.unanswered_errorClass h
  simp only [hindex]
  exact ⟨t, ht, fun index u => learnIndex_eq_ok_iff hsized hnumber hclass,
    fun u => learnIndex_eq_notFound_iff hsized hnumber hclass,
    fun cause u => learnIndex_eq_session_iff hsized hnumber hclass,
    fun cause u => learnIndex_refusal hsized hnumber hclass⟩

/-- A link of that index, in answer to number 0. -/
def linkRecord (index : UInt32) : Record where
  header := { length := 32, type := MessageType.newLink }
  payload := ofU32 0 ++ (ofU32 index ++ (ofU32 0 ++ ofU32 0))

/-- A status of zero, in answer to number 0. -/
def zeroStatus : Record where
  header := { length := 20, type := MessageType.error }
  payload := ofI32 0

/-- A session to which a batch for another number is delivered, and then one with two links and a
status between them. -/
def answeredLater : Session where
  portId := 7
  options.receiveBufferSize := 96
  channel.deliveries := Delivery.ofBatches
    [Header.encode { length := 16, type := MessageType.newLink, sequence := 9 },
      [linkRecord 4, zeroStatus, linkRecord 7].flatMap fun r => r.header.encode ++ r.payload]

lemma sized_answeredLater : answeredLater.Sized := by
  rw [Session.Sized, Draft.Sized, Arena.Sized]
  decide

set_option maxRecDepth 1000 in
/-- The later of two links is the one that is found. -/
lemma indexOf_answeredLater : ∃ u, indexOf "lo" answeredLater = .ok 7 u := by
  -- nothing is heard in the first batch, and two links and a status in the second
  obtain ⟨t, a, v, length₁, v₁, length₂, u, hindex, hsent, hnumber, hfirst, hunheard, hsecond,
      hheard, hsized⟩ :
      ∃ t a v length₁ v₁ length₂ u, indexOf "lo" answeredLater = learnIndex "lo" t ∧
        Session.sendAcked t = .ok a v ∧ a.sequence = 0 ∧ v.receive = .ok length₁ v₁ ∧
        Batch.heard 0 v₁.draft.bytes = [] ∧ v₁.receive = .ok length₂ u ∧
        Batch.heard 0 u.draft.bytes = [linkRecord 4, zeroStatus, linkRecord 7] ∧
        t.Sized :=
    ⟨_, _, _, _, _, _, _, rfl, rfl, rfl, rfl, by decide +kernel, rfl, by decide +kernel,
      ⟨Nat.le_of_ble_eq_true rfl, Nat.le_of_ble_eq_true rfl⟩⟩
  have hanswered : t.Answered 0 [linkRecord 4, zeroStatus, linkRecord 7] u := by
    refine ⟨a, v, hsent, ?_⟩
    simp only [Session.hear_eq 0 v, Session.hear_eq 0 v₁, hfirst, hunheard, hsecond, hheard]
  have hnumber' : ∀ a' v', Session.sendAcked t = .ok a' v' → a'.sequence = 0 := by
    intro a' v' hsent'
    cases hsent.symm.trans hsent'
    exact hnumber
  refine ⟨u, ?_⟩
  rw [hindex, learnIndex_of_answered hsized hnumber' hanswered]
  rfl

/-- Of two links that answer the number of a lookup, in the second batch that is delivered, the
later one is found. -/
theorem indexOf_named_by_kernel_of_two_links :
    answeredLater.Sized ∧ answeredLater.CanBegin ∧ IsName "lo" ∧
      ∃ t records u, answeredLater.Composed (linkRequest "lo") t ∧
        indexOf "lo" answeredLater = .ok 7 u ∧ t.Answered 0 records u ∧ Names records 7 := by
  have hbegin : answeredLater.CanBegin := .inr (by decide)
  have hname : IsName "lo" := by decide
  obtain ⟨u, hindex⟩ := indexOf_answeredLater
  obtain ⟨t, ht, hfound, -⟩ :=
    (indexOf_named_by_kernel answeredLater "lo" sized_answeredLater hbegin).2 hname
  obtain ⟨records, hanswered, hnames⟩ := (hfound 7 u).1 hindex
  exact ⟨sized_answeredLater, hbegin, hname, t, records, u, ht, hindex, hanswered, hnames⟩

end Interface

end Rtnetlink
