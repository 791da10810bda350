import Rtnetlink.Proofs.Accepted

/-!
# A request for a virtual pair says what was asked for

A request for a virtual pair names both ends, the second one three attributes deep inside the
information about the first.  Both names have lengths of their own, so every padding and every
length field in between depends on them.  Whatever the storage held before, what is offered to the
kernel decodes to both ends as they were given, and to nothing else.

* `Interface.VethParts.describes_of_settles`: what the body of a request decodes to;
* `Interface.createVethPair_requests`: what the whole call comes to.
-/

namespace Rtnetlink

open LittleEndian

/-! ## Both ends -/

namespace Interface

/-- The header in front of both ends: it is about no interface in particular, and all flags are
meant. -/
def vethHeader : LinkHeader := { changeMask := 0xFFFFFFFF }

/-- Bytes say where one end belongs: behind a link header the interface is named, with one zero byte
at the end of its name, and its namespace is given by its descriptor.  Further attributes may
follow. -/
structure VethEnd.SaidBy (e : VethEnd) (bytes : List UInt8) (name fd : Attribute)
    (more : List Attribute) : Prop where
  header : Settles vethHeader.cells (bytes.take LinkHeader.size)
  chain : AttributeChain.toList { bytes := bytes.drop LinkHeader.size } = name :: fd :: more
  name_kind : name.kind = LinkAttribute.name
  name_value : name.value = Text.utf8 e.name ++ [0]
  name_text : name.text? = some e.name
  fd_kind : fd.kind = LinkAttribute.namespaceFd
  fd_value : fd.value = ofI32 e.namespaceFd
  fd_number : fd.number = .ok e.namespaceFd.toUInt32

/-- The attributes of a request for a pair. -/
structure VethParts where
  /-- The first end's interface and namespace. -/
  (name fd : Attribute)
  /-- The information about it: the kind of interface, and the data of a pair. -/
  (info kind data : Attribute)
  /-- The other end, with its interface and namespace. -/
  (peer peerName peerFd : Attribute)

/-- The body of a request decodes to these parts and nothing else, and they say what the ends are.
The second end is three attributes deep inside the information about the first. -/
structure VethParts.Describes (p : VethParts) (first second : VethEnd) (body : List UInt8) :
    Prop where
  first : first.SaidBy body p.name p.fd [p.info]
  info_kind : p.info.kind = LinkAttribute.info
  info_chain : p.info.nested.toList = [p.kind, p.data]
  kind_kind : p.kind.kind = LinkAttribute.infoKind
  kind_value : p.kind.value = Text.utf8 "veth"
  data_kind : p.data.kind = LinkAttribute.infoData
  data_chain : p.data.nested.toList = [p.peer]
  peer_kind : p.peer.kind = LinkAttribute.vethPeer
  second : second.SaidBy p.peer.value p.peerName p.peerFd []

/-- The bytes of an end behind a link header, and further attributes. -/
def VethEnd.bytes (e : VethEnd) (header : List UInt8) (more : List (UInt16 × List UInt8)) :
    List UInt8 :=
  header ++ Attribute.encodeAll ((LinkAttribute.name, Text.utf8 e.name ++ [0])
    :: (LinkAttribute.namespaceFd, ofI32 e.namespaceFd) :: more)

/-- The information about an interface with that other end. -/
def VethEnd.infoEntries (peer : VethEnd) (header : List UInt8) : List (UInt16 × List UInt8) :=
  [(LinkAttribute.infoKind, Text.utf8 "veth"), (LinkAttribute.infoData,
    Attribute.encodeAll [(LinkAttribute.vethPeer, peer.bytes header [])])]

variable {first second e : VethEnd} {header header' bytes : List UInt8}
  {entries : List (UInt16 × List UInt8)}

/-! ### What the cells come to -/

lemma settles_named {rest : List Cell}
    (h : Settles (namedCells vethHeader (Text.utf8 e.name ++ [0])
      (namespaceCells e.namespaceFd ++ rest)) bytes) :
    ∃ header back, Settles vethHeader.cells header ∧ Settles rest back ∧
      ∀ more, back = Attribute.encodeAll more → bytes = e.bytes header more := by
  obtain ⟨header, back, rfl, hheader, hback⟩ := h.append
  obtain ⟨name, back, rfl, hname, hback⟩ := hback.append
  obtain ⟨fd, back, rfl, hfd, hback⟩ := hback.append
  refine ⟨header, back, hheader, hback, fun more hmore => ?_⟩
  rw [hname.ofAttribute_written, hfd.ofAttribute_written, hmore]
  rfl

/-- Only the two link headers depend on what the storage held. -/
lemma bytes_of_settles (h : Settles (vethCells (Text.utf8 first.name ++ [0]) first.namespaceFd
      (Text.utf8 second.name ++ [0]) second.namespaceFd) bytes) :
    ∃ header header', Settles vethHeader.cells header ∧ Settles vethHeader.cells header' ∧
      bytes = first.bytes header
        [(LinkAttribute.info, Attribute.encodeAll (second.infoEntries header'))] := by
  -- from the outermost attribute inwards
  obtain ⟨header, back, hheader, hback, hbytes⟩ := settles_named h
  obtain ⟨info, rfl, hinfo⟩ := hback.ofAttribute
  obtain ⟨kind, data, rfl, hkind, hdata⟩ := hinfo.append
  obtain ⟨value, rfl, hvalue⟩ := hdata.ofAttribute
  obtain ⟨peer, rfl, hpeer⟩ := hvalue.ofAttribute
  rw [← List.append_nil (namespaceCells second.namespaceFd)] at hpeer
  obtain ⟨header', back', hheader', hback', hpeer⟩ := settles_named hpeer
  refine ⟨header, header', hheader, hheader', hbytes _ ?_⟩
  have hnil : back' = [] := List.length_eq_zero_iff.1 hback'.length_eq
  rw [hkind.ofAttribute_written, hpeer [] hnil]
  simp [Attribute.encodeAll, VethEnd.infoEntries]

/-! ### What the bytes decode to -/

/-- Whatever an end is named, its bytes fit, and so does the information about the other one. -/
lemma VethEnd.fit_infoEntries (hname : IsName e.name) (hheader : Settles vethHeader.cells header) :
    Attribute.Fit [(LinkAttribute.vethPeer, e.bytes header [])] ∧
      Attribute.Fit (e.infoEntries header) ∧
      Attribute.Fit [(LinkAttribute.info, Attribute.encodeAll (e.infoEntries header))] := by
  have hshort := hname.2.1
  have hkind : (Text.utf8 "veth").length = 4 := by decide
  have hheader := hheader.length_eq.trans (LinkHeader.length_cells _)
  -- only the lengths count
  simp only [Attribute.Fit, infoEntries, bytes, Attribute.encodeAll, List.forall_mem_cons,
    List.not_mem_nil, false_imp_iff, implies_true, and_true, List.flatMap_cons, List.flatMap_nil,
    List.length_append, Attribute.length_encode, length_ofI32, List.length_singleton,
    List.length_nil, hheader, hkind, LinkHeader.size, maxNameLength, Draft.maxAttributeLength,
    align] at hshort ⊢
  omega

/-- An end is read behind its link header, and then what follows it. -/
lemma VethEnd.saidBy_of_bytes (hname : IsName e.name) (hheader : Settles vethHeader.cells header)
    (hfits : Attribute.Fit entries) :
    ∃ name fd more, e.SaidBy (e.bytes header entries) name fd more ∧
      more.map Attribute.entry = entries := by
  have hlength : header.length = LinkHeader.size := by
    rw [hheader.length_eq, LinkHeader.length_cells]
  have hchain : (AttributeChain.toList
      { bytes := (e.bytes header entries).drop LinkHeader.size }).map Attribute.entry
      = (LinkAttribute.name, Text.utf8 e.name ++ [0])
        :: (LinkAttribute.namespaceFd, ofI32 e.namespaceFd) :: entries := by
    refine AttributeChain.toList_behind hlength ?_
    have hshort := hname.2.1
    rw [maxNameLength] at hshort
    refine List.forall_mem_cons.2 ⟨?_, List.forall_mem_cons.2 ⟨?_, hfits⟩⟩
    · rw [List.length_append, List.length_singleton, Draft.maxAttributeLength]
      omega
    · rw [length_ofI32]
      decide
  obtain ⟨name, chain, hcons, hentry, hchain⟩ := List.map_eq_cons_iff.1 hchain
  obtain ⟨fd, more, rfl, hentry', hmore⟩ := List.map_eq_cons_iff.1 hchain
  obtain ⟨hkind, hvalue⟩ := Prod.mk.inj hentry
  obtain ⟨hkind', hvalue'⟩ := Prod.mk.inj hentry'
  refine ⟨name, fd, more, ?_, hmore⟩
  constructor
  · rwa [bytes, List.take_left' hlength]
  · exact hcons
  · exact hkind
  · exact hvalue
  · exact Attribute.text?_of_terminated hvalue
  · exact hkind'
  · exact hvalue'
  · exact Attribute.number_of_ofI32 hvalue'

/-- The bytes of a request decode to both ends. -/
lemma VethParts.describes_of_bytes (hfirst : IsName first.name) (hsecond : IsName second.name)
    (hheader : Settles vethHeader.cells header) (hheader' : Settles vethHeader.cells header') :
    ∃ p : VethParts, p.Describes first second (first.bytes header
      [(LinkAttribute.info, Attribute.encodeAll (second.infoEntries header'))]) := by
  obtain ⟨hpeerFits, hentriesFit, hinfoFits⟩ := second.fit_infoEntries hsecond hheader'
  -- the attributes are read from the outermost ones inwards
  obtain ⟨name, fd, more, hsaid, hmore⟩ := first.saidBy_of_bytes hfirst hheader hinfoFits
  obtain ⟨info, rfl, hinfo⟩ := List.map_eq_singleton_iff.1 hmore
  obtain ⟨hinfoKind, hinfoValue⟩ := Prod.mk.inj hinfo
  have hinfoChain := Attribute.toList_nested hinfoValue hentriesFit
  obtain ⟨kind, rest, hinfoChain, hkind, hrest⟩ := List.map_eq_cons_iff.1 hinfoChain
  obtain ⟨data, rfl, hdata⟩ := List.map_eq_singleton_iff.1 hrest
  obtain ⟨hkindKind, hkindValue⟩ := Prod.mk.inj hkind
  obtain ⟨hdataKind, hdataValue⟩ := Prod.mk.inj hdata
  have hdataChain := Attribute.toList_nested hdataValue hpeerFits
  obtain ⟨peer, hdataChain, hpeer⟩ := List.map_eq_singleton_iff.1 hdataChain
  obtain ⟨hpeerKind, hpeerValue⟩ := Prod.mk.inj hpeer
  obtain ⟨peerName, peerFd, more, hsaid', hmore⟩ := second.saidBy_of_bytes hsecond hheader'
    (List.forall_mem_nil _)
  obtain rfl := List.map_eq_nil_iff.1 hmore
  refine ⟨{ name, fd, info, kind, data, peer, peerName, peerFd }, ?_⟩
  constructor
  · exact hsaid
  · exact hinfoKind
  · exact hinfoChain
  · exact hkindKind
  · exact hkindValue
  · exact hdataKind
  · exact hdataChain
  · exact hpeerKind
  · exact hpeerValue ▸ hsaid'

/-- Whatever the cells of a request come to, it decodes to both ends. -/
lemma VethParts.describes_of_settles (hfirst : IsName first.name) (hsecond : IsName second.name)
    (h : Settles (vethCells (Text.utf8 first.name ++ [0]) first.namespaceFd
      (Text.utf8 second.name ++ [0]) second.namespaceFd) bytes) :
    ∃ p : VethParts, p.Describes first second bytes := by
  obtain ⟨header, header', hheader, hheader', rfl⟩ := bytes_of_settles h
  exact describes_of_bytes hfirst hsecond hheader hheader'

/-! ## The whole call -/

/-- The request for a pair. -/
def vethRequest (first second : VethEnd) (wait : Bool) : Request where
  type := MessageType.newLink
  flags := MessageFlag.create ||| MessageFlag.exclusive ||| MessageFlag.ackIf wait
  body := vethCells (Text.utf8 first.name ++ [0]) first.namespaceFd
    (Text.utf8 second.name ++ [0]) second.namespaceFd

/-- What becomes of a request for a pair whose ends have acceptable names, where the kernel takes
the message. -/
structure PairRequested (s : Session) (first second : VethEnd) (wait : Bool)
    (message : List UInt8) : Prop where
  /-- The request is composed without a refusal, and its message is taken. -/
  composed : ∃ t number u, s.Composed (vethRequest first second wait) t ∧
    createVethPair first second wait s = Session.dispatch wait t ∧
    Session.transmit t = .ok number u
  /-- One call is made to send it. -/
  sent : (createVethPair first second wait s).state.sends = s.sends ++ [(message, 0)]
  /-- Without waiting, that is all. -/
  returns : wait = false → ∃ t, createVethPair first second wait s = .ok () t
  /-- A call that waits may be refused for what the kernel answers, and no call for a misuse. -/
  refusal : ∀ cause t, createVethPair first second wait s = .refused cause t →
    wait = true ∧ ∃ cause', cause = .session cause' ∧ cause'.OfKernel
  /-- The message asks for a new link, and for an acknowledgment exactly if the call waits. -/
  header : Header.decode message = .ok {
    length := UInt32.ofNat message.length
    type := MessageType.newLink
    flags := MessageFlag.create ||| MessageFlag.exclusive ||| MessageFlag.ackIf wait
      ||| MessageFlag.request
    sequence := s.nextSequence
    portId := s.portId }
  /-- Behind its header it says what the ends are. -/
  body : ∃ p : VethParts, p.Describes first second (message.drop Header.size)

/-- **A request for a virtual pair says exactly what was asked for.**  If a name is not acceptable
the call is refused for the first such name and leaves the session as it is.  If both are, and the
kernel takes the message, it is sent once and decodes to both ends as they were given. -/
theorem createVethPair_requests (s : Session) (first second : VethEnd) (wait : Bool) :
    (¬ IsName first.name → createVethPair first second wait s
      = .refused (.invalidInterfaceName first.name) s) ∧
    (IsName first.name → ¬ IsName second.name → createVethPair first second wait s
      = .refused (.invalidInterfaceName second.name) s) ∧
    (IsName first.name → IsName second.name → s.CanBegin → s.channel.sendCode 0 = 0 →
      ∃ message, PairRequested s first second wait message) := by
  refine ⟨fun hfirst => ?_, fun hfirst hsecond => ?_, fun hfirst hsecond hs hcode => ?_⟩
  · rw [createVethPair, withName, encodeName_of_not_isName hfirst]
    rfl
  · simp only [createVethPair, withName, encodeName_of_isName hfirst,
      encodeName_of_not_isName hsecond]
    rfl
  have hrequest : (Operation.createVethPair first second wait).request?
      = some (vethRequest first second wait) := by
    simp only [Operation.request?, encodeName_of_isName hfirst, encodeName_of_isName hsecond]
    rfl
  obtain ⟨t, ht, hperform⟩ := Operation.perform_of_request hs hrequest
  change createVethPair first second wait s = Session.dispatch wait t at hperform
  obtain ⟨⟨number, u, htransmit⟩, hsends⟩ := ht.sent_once hcode
  refine ⟨Session.message s.blank _ (vethRequest first second wait).body, {
    composed := ⟨t, number, u, ht, hperform, htransmit⟩
    sent := ?_
    returns := fun hwait => ⟨u, ?_⟩
    refusal := fun cause v hrefused => ?_
    header := Session.decode_message s.blank (s.header (vethRequest first second wait).type
      (vethRequest first second wait).flags) _
    body := ?_ }⟩
  · rw [hperform, Session.state_of_dispatch]
    exact hsends _ (Session.submits_submit wait t)
  · rw [hperform, hwait, Session.dispatch]
    exact Run.mapCause_eq_ok.2 (Run.bind_of_ok htransmit _)
  · exact Session.dispatch_refusal htransmit (hperform.symm.trans hrefused)
  · exact VethParts.describes_of_settles hfirst hsecond (Session.settles_message ..)

/-- A session whose storage holds bytes of earlier messages, and whose kernel takes the next one. -/
def used : Session := { portId := 7, draft.arena.storage := List.replicate 40 0xEE }

/-- It asks for a pair whose names have different lengths, and waits for the answer. -/
theorem createVethPair_requests_of_uneven :
    let first : VethEnd := { name := "a0", namespaceFd := 5 }
    let second : VethEnd := { name := "b-with-15-bytes", namespaceFd := -6 }
    IsName first.name ∧ IsName second.name ∧ used.CanBegin ∧ used.channel.sendCode 0 = 0 ∧
      ∃ message, PairRequested used first second true message := by
  intro first second
  have hfirst : IsName first.name := by decide
  have hsecond : IsName second.name := by decide
  have hbegin : used.CanBegin := .inl (by decide)
  exact ⟨hfirst, hsecond, hbegin, rfl,
    (createVethPair_requests used first second true).2.2 hfirst hsecond hbegin rfl⟩

end Interface

end Rtnetlink
