import Rtnetlink.Proofs.Requests

/-!
# What a request keeps of earlier messages

The storage that a request is staged in still holds what was staged and received before.  Nearly
every byte of a request is written over it.  The exceptions are the reserved bytes of the headers of
links and of queueing disciplines: they are sent as they are found.  So a request does depend on
the history of its session, and on nothing of it but these bytes.

* `gaps`: the places of a row of cells that are not written;
* `Operation.getElem?_of_reserved`, `Operation.getElem?_of_not_reserved`: what is sent at a reserved
  place is what the storage held there, and elsewhere it depends on the operation alone;
* `Operation.messages_eq_iff`: two sessions that differ in their history send the same request
  exactly if they agree at its reserved places.
-/

namespace Rtnetlink

open Draft

/-- The places that are not written when cells are laid from a place on. -/
def gaps : (place : Nat) → List Cell → List Nat
  | _, [] => []
  | place, none :: cells => place :: gaps (place + 1) cells
  | place, some _ :: cells => gaps (place + 1) cells

variable {a a' : Arena} {place : Nat} {cells cells' : List Cell}

lemma mem_gaps_iff {p : Nat} :
    p ∈ gaps place cells ↔ ∃ i, cells[i]? = some none ∧ p = place + i := by
  induction cells generalizing place with
  | nil => simp [gaps]
  | cons cell cells ih =>
    have hlater : (∃ i, cells[i]? = some none ∧ p = place + 1 + i)
        ↔ ∃ i, (cell :: cells)[i + 1]? = some none ∧ p = place + (i + 1) := by
      simp only [List.getElem?_cons_succ, Nat.add_assoc, Nat.add_comm 1]
    cases cell with
    | none =>
      rw [gaps, List.mem_cons, ih, hlater]
      constructor
      · rintro (rfl | ⟨i, hi, hp⟩)
        · exact ⟨0, rfl, rfl⟩
        · exact ⟨i + 1, hi, hp⟩
      · rintro ⟨_ | i, hi, hp⟩
        · exact .inl hp
        · exact .inr ⟨i, hi, hp⟩
    | some byte =>
      rw [gaps, ih, hlater]
      constructor
      · rintro ⟨i, hi, hp⟩
        exact ⟨i + 1, hi, hp⟩
      · rintro ⟨_ | i, hi, hp⟩
        · cases hi
        · exact ⟨i, hi, hp⟩

lemma gaps_append (place : Nat) (cells cells' : List Cell) :
    gaps place (cells ++ cells') = gaps place cells ++ gaps (place + cells.length) cells' := by
  induction cells generalizing place with
  | nil => rfl
  | cons cell cells ih =>
    have hplace : place + (cells.length + 1) = place + 1 + cells.length := by omega
    cases cell with
    | none =>
      rw [List.cons_append, gaps, gaps, ih, List.length_cons, hplace]
      rfl
    | some byte => rw [List.cons_append, gaps, gaps, ih, List.length_cons, hplace]

lemma gaps_written (place : Nat) (bytes : List UInt8) : gaps place (written bytes) = [] := by
  induction bytes generalizing place with
  | nil => rfl
  | cons byte bytes ih => exact ih (place + 1)

lemma gaps_attributeCells (place : Nat) (kind : UInt16) (cells : List Cell) :
    gaps place (attributeCells kind cells) = gaps (place + AttributeHeader.size) cells := by
  rw [attributeCells, gaps_append, gaps_append, gaps_written, gaps_written, List.append_nil,
    List.nil_append, length_written, AttributeHeader.length_encode]

/-- Cells come out the same on two tapes exactly if the tapes agree at the gaps. -/
lemma settle_window_eq_iff :
    settle cells (a.window place cells.length) = settle cells (a'.window place cells.length)
      ↔ ∀ p ∈ gaps place cells, a.byteAt p = a'.byteAt p := by
  induction cells generalizing place with
  | nil => simp [gaps, settle]
  | cons cell cells ih =>
    have hwindow : ∀ b : Arena, settle (cell :: cells) (b.window place (cells.length + 1))
        = cell.getD (b.byteAt place) :: settle cells (b.window (place + 1) cells.length) := by
      intro b
      rw [Nat.add_comm, Arena.window_add]
      rfl
    rw [List.length_cons, hwindow, hwindow, List.cons.injEq, ih]
    cases cell with
    | none => rw [gaps, List.forall_mem_cons, Option.getD_none, Option.getD_none]
    | some byte => rw [gaps, Option.getD_some, Option.getD_some, eq_self, true_and]

/-- A byte of a message behind its header. -/
lemma getElem?_message (a : Arena) (h : Header) (cells : List Cell) (i : Nat) :
    (Session.message a h cells)[Header.size + i]?
      = cells[i]?.map fun cell => cell.getD (a.byteAt (Header.size + i)) := by
  rw [Session.message, List.getElem?_append_right (by simp), Header.length_encode,
    Nat.add_sub_cancel_left, settle, List.getElem?_zipWith, Arena.window, List.getElem?_map]
  by_cases hi : i < cells.length
  · rw [List.getElem?_range hi, List.getElem?_eq_getElem hi]
    rfl
  · rw [List.getElem?_eq_none (by omega : cells.length ≤ i)]
    rfl

lemma gaps_linkHeader (place : Nat) (h : LinkHeader) : gaps place h.cells = [place + 1] := by
  rw [LinkHeader.cells, gaps_append, gaps_append, gaps_written, gaps_written]
  rfl

lemma gaps_qdiscHeader (place : Nat) (h : QdiscHeader) :
    gaps place h.cells = [place + 1, place + 2, place + 3] := by
  rw [QdiscHeader.cells, gaps_append, gaps_append, gaps_written, gaps_written]
  rfl

namespace Operation

/-- The messages that an operation offers to the kernel. -/
def messages (op : Operation) (s : Session) : List (List UInt8) :=
  (op.perform s).state.sent.drop s.sent.length

/-- The places of reserved bytes in the request of an operation. -/
def reserved : Operation → List Nat
  | createVethPair first second _ =>
    match Interface.encodeName first.name, Interface.encodeName second.name with
    -- the second header stands behind the first name
    | .ok firstName, .ok _ => [17, 65 + align firstName.length]
    | _, _ => []
  | indexOf name =>
    match Interface.encodeName name with
    | .ok _ => [17]
    | .error _ => []
  | setUp .. => [17]
  | addAddress .. | removeAddress .. | addRoute .. => []
  | shape .. => [17, 18, 19]

lemma gaps_addressCells (place : Nat) (kind : UInt16) (address : IPv4) :
    gaps place (InterfaceAddress.addressCells kind address) = [] := by
  rw [InterfaceAddress.addressCells]
  split
  · rfl
  · rw [gaps_attributeCells, gaps_written]

lemma gaps_addressCellsIf (place : Nat) (kind : UInt16) (address : Option IPv4) :
    gaps place (InterfaceAddress.addressCellsIf kind address) = [] := by
  cases address with
  | none => rfl
  | some address => exact gaps_addressCells place kind address

lemma gaps_rateCells (place : Nat) (rate : Option NetemRate) :
    gaps place (Qdisc.rateCells rate) = [] := by
  cases rate with
  | none => rfl
  | some rate => rw [Qdisc.rateCells, gaps_attributeCells, gaps_written]

/-- The reserved places are the gaps of the request. -/
lemma reserved_eq (op : Operation) : op.reserved = match op.request? with
    | some r => gaps Header.size r.body
    | none => [] := by
  cases op with
  | createVethPair first second wait =>
    rw [reserved, request?]
    rcases Interface.encodeName first.name with _ | firstName
    · rfl
    · rcases Interface.encodeName second.name with _ | secondName
      · rfl
      · have hkind : (Text.utf8 "veth").length = 4 := by decide
        have hplace : 16 + 16 + (4 + align firstName.length) + (4 + align 4) + 4 + (4 + align 4) + 4
            + 4 + 1 = 65 + align firstName.length := by
          rw [show align 4 = 4 from rfl]
          omega
        simp only [Interface.vethCells, Interface.infoCells, Interface.namedCells,
          Interface.namespaceCells, gaps_append, gaps_linkHeader, gaps_attributeCells, gaps_written,
          length_attributeCells, length_written, LinkHeader.length_cells, LinkHeader.size,
          AttributeHeader.size, Header.size, LittleEndian.length_ofI32, hkind, List.nil_append,
          List.append_nil, List.cons_append, hplace]
  | indexOf name =>
    rw [reserved, request?]
    rcases Interface.encodeName name with _ | encoded
    · rfl
    · dsimp only
      rw [gaps_append, gaps_linkHeader, gaps_attributeCells, gaps_written]
      rfl
  | setUp index up wait => exact (gaps_linkHeader ..).symm
  | addAddress index address wait =>
    simp only [request?, InterfaceAddress.addCells, AddressHeader.cells, gaps_append, gaps_written,
      gaps_addressCells, gaps_addressCellsIf, List.nil_append]
    rfl
  | removeAddress index wait => exact (gaps_written ..).symm
  | addRoute route wait =>
    simp only [request?, Route.addCells, RouteHeader.cells, gaps_append, gaps_written,
      gaps_attributeCells, gaps_addressCellsIf, List.nil_append]
    rfl
  | shape clock index impairment wait =>
    simp only [request?, Qdisc.netemCells, gaps_append, gaps_qdiscHeader, gaps_attributeCells,
      gaps_written, gaps_rateCells, List.append_nil]
    rfl

lemma messages_eq {s : Session} (hs : s.CanBegin) (op : Operation) :
    op.messages s = match op.request? with
      | some r => List.replicate (s.options.retry.attempts s.channel.sendCodes 0)
        (Session.message s.blank (s.header r.type r.flags) r.body)
      | none => [] := by
  have hsent := congrArg (List.drop s.sent.length) (sent_of_perform hs op)
  exact hsent.trans List.drop_left

lemma message_of_mem {s : Session} (hs : s.CanBegin) {op : Operation} {message : List UInt8}
    (hmessage : message ∈ op.messages s) :
    ∃ r, op.request? = some r ∧
      message = Session.message s.blank (s.header r.type r.flags) r.body := by
  rw [messages_eq hs] at hmessage
  rcases hrequest : op.request? with _ | r <;> rw [hrequest] at hmessage
  · exact absurd hmessage List.not_mem_nil
  · exact ⟨r, rfl, List.eq_of_mem_replicate hmessage⟩

/-- What is sent at a reserved place is what the storage held there before. -/
theorem getElem?_of_reserved {s : Session} (hs : s.CanBegin) {op : Operation}
    {message : List UInt8} (hmessage : message ∈ op.messages s) {place : Nat}
    (hplace : place ∈ op.reserved) : message[place]? = some (s.draft.arena.byteAt place) := by
  obtain ⟨r, hrequest, rfl⟩ := message_of_mem hs hmessage
  rw [reserved_eq, hrequest] at hplace
  obtain ⟨i, hi, rfl⟩ := mem_gaps_iff.1 hplace
  rw [getElem?_message, hi]
  rfl

/-- What is sent elsewhere depends on the operation, the port id and the number alone. -/
theorem getElem?_of_not_reserved {s s' : Session} (hs : s.CanBegin) (hs' : s'.CanBegin)
    (hport : s'.portId = s.portId) (hnumber : s'.nextSequence = s.nextSequence) {op : Operation}
    {message message' : List UInt8} (hmessage : message ∈ op.messages s)
    (hmessage' : message' ∈ op.messages s') {place : Nat} (hplace : place ∉ op.reserved) :
    message'[place]? = message[place]? := by
  obtain ⟨r, hrequest, rfl⟩ := message_of_mem hs hmessage
  obtain ⟨r', hrequest', rfl⟩ := message_of_mem hs' hmessage'
  obtain rfl : r' = r := Option.some.inj (hrequest'.symm.trans hrequest)
  rw [reserved_eq, hrequest] at hplace
  have hheader : s'.header r'.type r'.flags = s.header r'.type r'.flags := by
    rw [Session.header, Session.header, hport, hnumber]
  rw [hheader]
  by_cases hsize : place < Header.size
  · -- a byte of the header
    rw [Session.message, Session.message, List.getElem?_append_left (by simpa using hsize),
      List.getElem?_append_left (by simpa using hsize)]
  · obtain ⟨i, rfl⟩ := Nat.exists_eq_add_of_le (Nat.le_of_not_lt hsize)
    rw [getElem?_message, getElem?_message]
    rcases hi : r'.body[i]? with _ | _ | byte
    · rfl
    · exact absurd (mem_gaps_iff.2 ⟨i, hi, rfl⟩) hplace
    · rfl

/-- **What a request depends on.**  Two sessions that agree on the port id, the next number, the
retry policy and the outcomes of the send calls to come may have staged and received anything
before.  An operation offers the same messages to the kernel in both exactly if their storages, as
they were before it, agree at the reserved places of its request. -/
theorem messages_eq_iff {s s' : Session} (hs : s.CanBegin) (hs' : s'.CanBegin)
    (hport : s'.portId = s.portId) (hnumber : s'.nextSequence = s.nextSequence)
    (hretry : s'.options.retry = s.options.retry)
    (hcodes : s'.channel.sendCodes = s.channel.sendCodes) (op : Operation) :
    op.messages s' = op.messages s ↔
      ∀ place ∈ op.reserved, s'.draft.arena.byteAt place = s.draft.arena.byteAt place := by
  rw [messages_eq hs, messages_eq hs', reserved_eq]
  rcases op.request? with _ | r
  · constructor
    · intro _ place hplace
      exact absurd hplace List.not_mem_nil
    · intro _
      rfl
  · have hheader : s'.header r.type r.flags = s.header r.type r.flags := by
      rw [Session.header, Session.header, hport, hnumber]
    have hcount := RetryPolicy.attempts_pos s.options.retry s.channel.sendCodes 0
    have hcount' : s.options.retry.attempts s.channel.sendCodes 0 ≠ 0 := by omega
    dsimp only
    rw [hretry, hcodes, hheader, List.replicate_inj]
    simp only [hcount', true_and, false_or, Session.message, List.append_right_inj,
      settle_window_eq_iff]
    rfl

/-- A session whose storage holds bytes of an earlier message sends another request to bring an
interface up than a fresh session, and the same request to take an address away. -/
theorem messages_of_used_storage :
    let fresh : Session := { portId := 7 }
    let used : Session := { portId := 7, draft.arena.storage := List.replicate 40 0xEE }
    fresh.CanBegin ∧ used.CanBegin ∧
      messages (setUp 3 true false) used ≠ messages (setUp 3 true false) fresh ∧
      messages (removeAddress 3 false) used = messages (removeAddress 3 false) fresh := by
  intro fresh used
  have hfresh : fresh.CanBegin := .inr (by decide)
  have hused : used.CanBegin := .inl (by decide)
  refine ⟨hfresh, hused, ?_, ?_⟩
  · rw [ne_eq, messages_eq_iff hfresh hused rfl rfl rfl rfl]
    decide
  · rw [messages_eq_iff hfresh hused rfl rfl rfl rfl]
    decide

end Operation

end Rtnetlink
