import Rtnetlink.Proofs.Accepted

/-!
# A request to shape traffic says what was computed

A request for a network emulator has its numbers in two places.  The value of one attribute starts
with a fixed structure of six words, and where the rate is limited an attribute of its own follows
inside the same value.  How the numbers are computed does not matter here: whatever they are, what
is offered to the kernel decodes to them, and to nothing else.

* `NetemOptions.read_encode_append`, `NetemRate.read_encode_append`: the structures read back;
* `Qdisc.saidBy_of_settles`: what the body of a request decodes to;
* `Qdisc.asks_for_shaping`: what the whole call comes to.
-/

namespace Rtnetlink

open LittleEndian

/-! ## Reading the structures -/

/-- The fixed options at the start of a byte string: six words, one behind the other. -/
def NetemOptions.read (bytes : List UInt8) : NetemOptions where
  latency := toU32 bytes
  limit := toU32 (bytes.drop 4)
  loss := toU32 (bytes.drop 8)
  gap := toU32 (bytes.drop 12)
  duplicate := toU32 (bytes.drop 16)
  jitter := toU32 (bytes.drop 20)

/-- The rate limit at the start of a byte string: four words, two of them signed. -/
def NetemRate.read (bytes : List UInt8) : NetemRate where
  rate := toU32 bytes
  packetOverhead := toI32 (bytes.drop 4)
  cellSize := toU32 (bytes.drop 8)
  cellOverhead := toI32 (bytes.drop 12)

lemma NetemOptions.read_encode_append (o : NetemOptions) (rest : List UInt8) :
    read (o.encode ++ rest) = o := by
  have hlimit : (o.encode ++ rest).drop 4 = ofU32 o.limit ++ (ofU32 o.loss ++ (ofU32 o.gap
      ++ (ofU32 o.duplicate ++ (ofU32 o.jitter ++ rest)))) := rfl
  have hloss : (o.encode ++ rest).drop 8 = ofU32 o.loss ++ (ofU32 o.gap
      ++ (ofU32 o.duplicate ++ (ofU32 o.jitter ++ rest))) := rfl
  have hgap : (o.encode ++ rest).drop 12
      = ofU32 o.gap ++ (ofU32 o.duplicate ++ (ofU32 o.jitter ++ rest)) := rfl
  have hduplicate : (o.encode ++ rest).drop 16
      = ofU32 o.duplicate ++ (ofU32 o.jitter ++ rest) := rfl
  have hjitter : (o.encode ++ rest).drop 20 = ofU32 o.jitter ++ rest := rfl
  have hlatency : toU32 (o.encode ++ rest) = o.latency := by
    rw [encode, List.append_assoc, toU32_ofU32_append]
  rw [read, hlatency, hlimit, hloss, hgap, hduplicate, hjitter]
  simp

lemma NetemRate.read_encode_append (r : NetemRate) (rest : List UInt8) :
    read (r.encode ++ rest) = r := by
  have hpacket : (r.encode ++ rest).drop 4 = ofI32 r.packetOverhead
      ++ (ofU32 r.cellSize ++ (ofI32 r.cellOverhead ++ rest)) := rfl
  have hsize : (r.encode ++ rest).drop 8
      = ofU32 r.cellSize ++ (ofI32 r.cellOverhead ++ rest) := rfl
  have hcell : (r.encode ++ rest).drop 12 = ofI32 r.cellOverhead ++ rest := rfl
  have hrate : toU32 (r.encode ++ rest) = r.rate := by
    rw [encode, List.append_assoc, toU32_ofU32_append]
  rw [read, hrate, hpacket, hsize, hcell]
  simp

/-- The index is read behind the family and the reserved bytes, whatever these hold. -/
lemma QdiscHeader.index_of_settles {h : QdiscHeader} {bytes : List UInt8} (rest : List UInt8)
    (hcells : Settles h.cells bytes) : toI32 ((bytes ++ rest).drop 4) = h.index := by
  obtain ⟨family, back, rfl, hfamily, hback⟩ := hcells.append
  obtain ⟨gap, fields, rfl, hgap, hfields⟩ := hback.append
  have hlength : (family ++ gap).length = 4 := by
    rw [List.length_append, hfamily.length_eq, hgap.length_eq]
    rfl
  rw [hfields.eq_of_written, ← List.append_assoc family, List.append_assoc (family ++ gap),
    List.drop_left' hlength, List.append_assoc, toI32_ofI32_append]

/-- A queue without a length would drop every packet; the default stands in for it. -/
lemma Impairment.limit_options_ne_zero (i : Impairment) (clock : Clock) :
    (i.options clock).limit ≠ 0 := by
  dsimp only [options]
  split
  · decide
  · assumption

/-! ## What the body decodes to -/

namespace Qdisc

variable {index : UInt32} {options : NetemOptions} {rate : Option NetemRate} {bytes : List UInt8}

/-- The attribute of a rate limit, given by its kind and its value. -/
def rateEntries (rate : Option NetemRate) : List (UInt16 × List UInt8) :=
  rate.toList.map fun r => (QdiscAttribute.netemRate, r.encode)

/-- The value of an attribute holds an emulator's numbers: the fixed options stand at its start, and
a rate limit, if there is one, is an attribute behind them. -/
structure Holds (value : List UInt8) (options : NetemOptions) (rate : Option NetemRate) :
    Prop where
  fixed : 24 ≤ value.length
  options : NetemOptions.read value = options
  unlimited : rate = none → value.length = 24
  limited : ∀ r, rate = some r → ∃ limit : Attribute, value.length = 24 + 20 ∧
    AttributeChain.toList { bytes := value.drop 24 } = [limit] ∧
    limit.kind = QdiscAttribute.netemRate ∧ limit.value.length = 16 ∧
    NetemRate.read limit.value = r

/-- Bytes say which emulator an interface is to have.  The header names the interface and puts the
emulator at the root; behind it stand its kind and its numbers, and nothing else. -/
structure SaidBy (index : UInt32) (options : NetemOptions) (rate : Option NetemRate)
    (bytes : List UInt8) (kind numbers : Attribute) : Prop where
  header : Settles (QdiscHeader.cells
    { index := index.toInt32, handle := netemHandle, parent := rootHandle }) (bytes.take 20)
  index : (toI32 (bytes.drop 4)).toUInt32 = index
  chain : AttributeChain.toList { bytes := bytes.drop 20 } = [kind, numbers]
  kind_kind : kind.kind = QdiscAttribute.kind
  kind_value : kind.value = Text.utf8 "netem" ++ [0]
  kind_text : kind.text? = some "netem"
  numbers_kind : numbers.kind = QdiscAttribute.options
  numbers_value : Holds numbers.value options rate

lemma settles_rateCells (h : Settles (rateCells rate) bytes) :
    bytes = Attribute.encodeAll (rateEntries rate) := by
  cases rate with
  | none => exact List.length_eq_zero_iff.1 h.length_eq
  | some r =>
    rw [h.ofAttribute_written]
    simp [Attribute.encodeAll, rateEntries]

lemma fit_rateEntries (rate : Option NetemRate) : Attribute.Fit (rateEntries rate) := by
  intro entry hentry
  obtain ⟨r, -, rfl⟩ := List.mem_map.1 hentry
  rw [NetemRate.length_encode]
  decide

lemma length_encodeAll_rateEntries (rate : Option NetemRate) :
    (Attribute.encodeAll (rateEntries rate)).length = if rate = none then 0 else 20 := by
  cases rate with
  | none => rfl
  | some r =>
    have hone : Attribute.encodeAll (rateEntries (some r))
        = Attribute.encode QdiscAttribute.netemRate r.encode := List.append_nil _
    rw [hone, Attribute.length_encode, NetemRate.length_encode]
    rfl

/-- The options and the attribute of the rate share one value. -/
lemma holds_of_bytes (options : NetemOptions) (rate : Option NetemRate) :
    Holds (options.encode ++ Attribute.encodeAll (rateEntries rate)) options rate := by
  have hlength := length_encodeAll_rateEntries rate
  have hchain := AttributeChain.toList_behind options.length_encode (fit_rateEntries rate)
  constructor
  · rw [List.length_append]
    exact Nat.le_add_right ..
  · exact options.read_encode_append _
  · rintro rfl
    rw [List.length_append, hlength]
    rfl
  · rintro r rfl
    obtain ⟨limit, hlimit, hentry⟩ := List.map_eq_singleton_iff.1 hchain
    obtain ⟨hkind, hvalue⟩ := Prod.mk.inj hentry
    refine ⟨limit, ?_, hlimit, hkind, ?_, ?_⟩
    · rw [List.length_append, hlength]
      rfl
    · rw [hvalue, NetemRate.length_encode, NetemRate.size]
    · rw [hvalue, ← List.append_nil r.encode, r.read_encode_append]

/-- The attributes of a request, given by their kinds and values. -/
def entries (options : NetemOptions) (rate : Option NetemRate) : List (UInt16 × List UInt8) :=
  [(QdiscAttribute.kind, Text.utf8 "netem" ++ [0]),
    (QdiscAttribute.options, options.encode ++ Attribute.encodeAll (rateEntries rate))]

lemma fit_entries (options : NetemOptions) (rate : Option NetemRate) :
    Attribute.Fit (entries options rate) := by
  have hkind : (Text.utf8 "netem" ++ [0]).length = 6 := by decide
  have hrate := length_encodeAll_rateEntries rate
  refine List.forall_mem_cons.2 ⟨by rw [hkind]; decide, List.forall_mem_singleton.2 ?_⟩
  rw [List.length_append, NetemOptions.length_encode, hrate]
  split <;> decide

lemma saidBy_of_settles (h : Settles (netemCells index options rate) bytes) :
    ∃ kind numbers, SaidBy index options rate bytes kind numbers := by
  obtain ⟨header, back, rfl, hheader, hback⟩ := h.append
  obtain ⟨name, nested, rfl, hname, hnested⟩ := hback.append
  obtain ⟨value, rfl, hvalue⟩ := hnested.ofAttribute
  obtain ⟨fixed, limit, rfl, hfixed, hlimit⟩ := hvalue.append
  have hlength : header.length = 20 := hheader.length_eq.trans (QdiscHeader.length_cells _)
  have hindex := QdiscHeader.index_of_settles (Attribute.encodeAll (entries options rate)) hheader
  have hentries : name ++ Attribute.encode QdiscAttribute.options (fixed ++ limit)
      = Attribute.encodeAll (entries options rate) := by
    rw [hname.ofAttribute_written, hfixed.eq_of_written, settles_rateCells hlimit]
    simp [Attribute.encodeAll, entries]
  rw [hentries]
  have hchain := AttributeChain.toList_behind hlength (fit_entries options rate)
  obtain ⟨kind, rest, hchain, hkind, hrest⟩ := List.map_eq_cons_iff.1 hchain
  obtain ⟨numbers, rfl, hnumbers⟩ := List.map_eq_singleton_iff.1 hrest
  obtain ⟨hkindKind, hkindValue⟩ := Prod.mk.inj hkind
  obtain ⟨hnumbersKind, hnumbersValue⟩ := Prod.mk.inj hnumbers
  refine ⟨kind, numbers, ?_⟩
  constructor
  · rwa [List.take_left' hlength]
  · rw [hindex, UInt32.toUInt32_toInt32]
  · exact hchain
  · exact hkindKind
  · exact hkindValue
  · exact Attribute.text?_of_terminated hkindValue
  · exact hnumbersKind
  · exact hnumbersValue ▸ holds_of_bytes options rate

/-- **A request to shape traffic says exactly what was computed.**  Where the kernel takes the
message, it is sent once, is refused for no misuse, and decodes to the interface, to the options
that the impairment comes to, and to its rate limit if it has one.  The queue is never without a
length. -/
theorem asks_for_shaping (s : Session) (k : Nat) (clock : Clock) (index : UInt32) (i : Impairment)
    (wait : Bool) (hs : s.CanBegin) (hk : s.TakesAt k) :
    (i.options clock).limit ≠ 0 ∧ ∃ message kind numbers,
      s.Asks MessageType.newQdisc (MessageFlag.create ||| MessageFlag.replace) wait k
        (shape clock index i wait) message ∧
      SaidBy index (i.options clock) i.rateLimit? (message.drop Header.size) kind numbers := by
  have hrequest : (Operation.shape clock index i wait).request? = some _ := rfl
  obtain ⟨message, hasks, hbody⟩ := Operation.asks hs hk hrequest rfl
  obtain ⟨kind, numbers, hsaid⟩ := saidBy_of_settles hbody
  exact ⟨i.limit_options_ne_zero clock, message, kind, numbers, hasks, hsaid⟩

/-- A session whose first send call is interrupted shapes the traffic of the interface with the
greatest index, by a delay and a rate. -/
theorem asks_for_shaping_of_delayed :
    let clock : Clock := ⟨15.625⟩
    let i : Impairment := { delay := 5.0, rate := 8.0, queueLength := 0 }
    Session.delayed.CanBegin ∧ Session.delayed.TakesAt 1 ∧ (i.options clock).limit = 1000 ∧
      ∃ message kind numbers,
        Session.delayed.Asks MessageType.newQdisc (MessageFlag.create ||| MessageFlag.replace)
          true 1 (shape clock 0xFFFFFFFF i true) message ∧
        SaidBy 0xFFFFFFFF (i.options clock) i.rateLimit? (message.drop Header.size) kind
          numbers := by
  intro clock i
  exact ⟨Session.canBegin_delayed, Session.takesAt_delayed, rfl,
    (asks_for_shaping Session.delayed 1 clock 0xFFFFFFFF i true Session.canBegin_delayed
      Session.takesAt_delayed).2⟩

end Qdisc

end Rtnetlink
