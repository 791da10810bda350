import Rtnetlink.Config.Qdisc
import Rtnetlink.Config.Route
import Rtnetlink.Proofs.Sending
import Rtnetlink.Proofs.Storage

/-!
# The layouts of configuration requests

Each configuration request is begun, composed and sent.  What is composed is a fixed row of cells
that depends on the arguments alone, and it is composed without a refusal.

* `Interface.lays_vethBody` and its companions: the layout of each request;
* `Operation.perform_eq`: each operation composes its request and goes on with what is done once it
  is composed;
* `Operation.sent_of_perform`: what each operation offers to the kernel.
-/

namespace Rtnetlink

open LittleEndian Draft

namespace Interface

/-- A name for an interface: one to fifteen bytes, and none of them zero. -/
def IsName (name : String) : Prop :=
  1 ≤ (Text.utf8 name).length ∧ (Text.utf8 name).length ≤ maxNameLength ∧ 0 ∉ Text.utf8 name

instance (name : String) : Decidable (IsName name) := inferInstanceAs (Decidable (_ ∧ _ ∧ _))

lemma encodeName_of_isName {name : String} (h : IsName name) :
    encodeName name = .ok (Text.utf8 name ++ [0]) := by
  obtain ⟨hpos, hlength, hzero⟩ := h
  refine if_neg ?_
  rintro (hempty | hlong | hmem)
  · rw [hempty] at hpos
    exact absurd hpos (by decide)
  · exact Nat.not_lt.2 hlength hlong
  · exact hzero hmem

lemma encodeName_of_not_isName {name : String} (h : ¬ IsName name) :
    encodeName name = .error (.invalidInterfaceName name) := by
  refine if_pos ?_
  by_contra hvalid
  simp only [not_or, Nat.not_lt] at hvalid
  obtain ⟨hempty, hlength, hzero⟩ := hvalid
  exact h ⟨List.length_pos_iff.2 hempty, hlength, hzero⟩

lemma length_of_encodeName {name : String} {encoded : List UInt8}
    (h : encodeName name = .ok encoded) : encoded.length ≤ maxNameLength + 1 := by
  simp only [encodeName] at h
  split at h
  · cases h
  · rename_i hname
    cases h
    rw [List.length_append]
    simp only [not_or, Nat.not_lt] at hname
    exact Nat.succ_le_succ hname.2.1

variable {name firstName secondName : List UInt8}

/-- The cells of an interface: a header, the name, and what is behind them. -/
def namedCells (h : LinkHeader) (name : List UInt8) (rest : List Cell) : List Cell :=
  h.cells ++ (attributeCells LinkAttribute.name (written name) ++ rest)

/-- The cells of the namespace that an interface is placed in. -/
def namespaceCells (fd : Int32) : List Cell :=
  attributeCells LinkAttribute.namespaceFd (written (ofI32 fd))

/-- The cells of the information about a virtual interface: its kind, and its other end. -/
def infoCells (name : List UInt8) (fd : Int32) : List Cell :=
  attributeCells LinkAttribute.infoKind (written (Text.utf8 "veth"))
    ++ attributeCells LinkAttribute.infoData (attributeCells LinkAttribute.vethPeer
      (namedCells { changeMask := 0xFFFFFFFF } name (namespaceCells fd)))

/-- The cells of a request for a virtual pair. -/
def vethCells (firstName : List UInt8) (firstFd : Int32) (secondName : List UInt8)
    (secondFd : Int32) : List Cell :=
  namedCells { changeMask := 0xFFFFFFFF } firstName (namespaceCells firstFd
    ++ attributeCells LinkAttribute.info (infoCells secondName secondFd))

lemma length_namedCells (h : LinkHeader) (name : List UInt8) (rest : List Cell) :
    (namedCells h name rest).length = 20 + align name.length + rest.length := by
  simp only [namedCells, List.length_append, LinkHeader.length_cells, LinkHeader.size,
    length_attributeCells, length_written]
  omega

lemma length_namespaceCells (fd : Int32) : (namespaceCells fd).length = 8 := by
  rw [namespaceCells, length_attributeCells, length_written, length_ofI32]
  rfl

lemma length_infoCells (name : List UInt8) (fd : Int32) :
    (infoCells name fd).length = 8 + (8 + align (28 + align name.length)) := by
  have hkind : (Text.utf8 "veth").length = 4 := by decide
  simp only [infoCells, List.length_append, length_attributeCells, length_namedCells,
    length_namespaceCells, length_written, hkind, align]
  omega

lemma length_vethCells (firstFd secondFd : Int32) :
    (vethCells firstName firstFd secondName secondFd).length
      = 76 + align firstName.length + align secondName.length := by
  simp only [vethCells, List.length_append, length_namedCells, length_namespaceCells,
    length_attributeCells, length_infoCells, align]
  omega

/-- A header and a name are laid in front of what comes next. -/
lemma lays_named {levels : Nat} {next : Run Misuse Draft Unit} {cells : List Cell}
    (h : LinkHeader) (hname : name.length ≤ maxNameLength + 1) (hlevels : 1 ≤ levels)
    (hnext : Lays levels next cells) :
    Lays levels (do appendCells h.cells; addAttribute LinkAttribute.name name; next)
      (namedCells h name cells) := by
  have hlength : 4 + name.length ≤ maxAttributeLength := by
    rw [maxNameLength] at hname
    rw [maxAttributeLength]
    omega
  refine ((lays_appendCells h.cells).mono (Nat.zero_le _)).andThen ?_ ?_
  · rw [LinkHeader.length_cells]
    decide
  · exact ((lays_addAttribute _ hlength).mono hlevels).andThen
      (four_dvd_length_attributeCells ..) hnext

lemma lays_query (hname : name.length ≤ maxNameLength + 1) :
    Lays 1 (do appendCells (LinkHeader.cells {}); addAttribute LinkAttribute.name name)
      (LinkHeader.cells {} ++ attributeCells LinkAttribute.name (written name)) := by
  refine ((lays_appendCells _).mono (by decide)).andThen ?_ (lays_addAttribute _ ?_)
  · rw [LinkHeader.length_cells]
    decide
  · rw [maxNameLength] at hname
    rw [maxAttributeLength]
    omega

lemma lays_namespace (fd : Int32) :
    Lays 1 (addAttribute LinkAttribute.namespaceFd (ofI32 fd)) (namespaceCells fd) := by
  refine lays_addAttribute _ ?_
  rw [length_ofI32]
  decide

lemma lays_vethBody (hfirst : firstName.length ≤ maxNameLength + 1)
    (hsecond : secondName.length ≤ maxNameLength + 1) (firstFd secondFd : Int32) :
    Lays 4 (vethBody firstName firstFd secondName secondFd)
      (vethCells firstName firstFd secondName secondFd) := by
  have hkind : (Text.utf8 "veth").length = 4 := by decide
  rw [maxNameLength] at hsecond
  -- from the innermost attribute outwards
  have hpeer := lays_named { changeMask := 0xFFFFFFFF } hsecond (Nat.le_refl 1)
    (lays_namespace secondFd)
  have hdata := (hpeer.nest LinkAttribute.vethPeer (by
    simp only [length_namedCells, length_namespaceCells, align, maxAttributeLength]
    omega)).nest LinkAttribute.infoData (by
    simp only [length_attributeCells, length_namedCells, length_namespaceCells, align,
      maxAttributeLength]
    omega)
  have hinfo : Lays 3 (do
      addAttribute LinkAttribute.infoKind (Text.utf8 "veth")
      Draft.nest LinkAttribute.infoData do
        Draft.nest LinkAttribute.vethPeer do
          appendCells (LinkHeader.cells { changeMask := 0xFFFFFFFF })
          addAttribute LinkAttribute.name secondName
          addAttribute LinkAttribute.namespaceFd (ofI32 secondFd))
      (infoCells secondName secondFd) := by
    refine Lays.andThen ?_ (four_dvd_length_attributeCells ..) hdata
    exact (lays_addAttribute _ (by rw [hkind]; decide)).mono (by decide)
  have hnest := hinfo.nest LinkAttribute.info (by
    simp only [length_infoCells, align, maxAttributeLength]
    omega)
  refine lays_named _ hfirst (by decide) ?_
  refine ((lays_namespace firstFd).mono (by decide)).andThen ?_ hnest
  rw [length_namespaceCells]
  decide

lemma maintains_vethBody (firstName secondName : List UInt8) (firstFd secondFd : Int32) :
    Run.Maintains Draft.Sized (vethBody firstName firstFd secondName secondFd) :=
  (maintains_appendCells _).bind fun _ => (maintains_addAttribute _ _).bind fun _ =>
    (maintains_addAttribute _ _).bind fun _ => maintains_nest <|
      (maintains_addAttribute _ _).bind fun _ => maintains_nest <| maintains_nest <|
        (maintains_appendCells _).bind fun _ => (maintains_addAttribute _ _).bind fun _ =>
          maintains_addAttribute _ _

end Interface

namespace InterfaceAddress

/-- The cells of an address, unless it stands for none. -/
def addressCells (kind : UInt16) (address : IPv4) : List Cell :=
  if address.isUnspecified then [] else attributeCells kind (written address.octets)

/-- The cells of an address, if one is given. -/
def addressCellsIf (kind : UInt16) : Option IPv4 → List Cell
  | some address => addressCells kind address
  | none => []

lemma length_octets (address : IPv4) : address.octets.length = 4 := rfl

/-- An attribute with an address has eight bytes. -/
lemma length_addressCells (kind : UInt16) (address : IPv4) :
    (addressCells kind address).length = 0 ∨ (addressCells kind address).length = 8 := by
  rw [addressCells]
  split
  · exact .inl rfl
  · refine .inr ?_
    rw [length_attributeCells, length_written, length_octets]
    rfl

lemma length_addressCellsIf (kind : UInt16) (address : Option IPv4) :
    (addressCellsIf kind address).length = 0 ∨ (addressCellsIf kind address).length = 8 := by
  cases address with
  | none => exact .inl rfl
  | some address => exact length_addressCells kind address

lemma lays_attach (kind : UInt16) (address : IPv4) :
    Lays 1 (attach kind address) (addressCells kind address) := by
  rw [attach, addressCells]
  split
  · exact lays_pure.mono (by decide)
  · refine lays_addAttribute _ ?_
    rw [length_octets]
    decide

lemma lays_attachIf (kind : UInt16) (address : Option IPv4) :
    Lays 1 (attachIf kind address) (addressCellsIf kind address) := by
  cases address with
  | none => exact lays_pure.mono (by decide)
  | some address => exact lays_attach kind address

lemma maintains_attach (kind : UInt16) (address : IPv4) :
    Run.Maintains Draft.Sized (attach kind address) := by
  rw [attach]
  split
  · exact Run.maintains_pure ()
  · exact maintains_addAttribute _ _

lemma maintains_attachIf (kind : UInt16) (address : Option IPv4) :
    Run.Maintains Draft.Sized (attachIf kind address) := by
  cases address with
  | none => exact Run.maintains_pure ()
  | some address => exact maintains_attach kind address

/-- The cells of a request to assign an address. -/
def addCells (index : UInt32) (a : InterfaceAddress) : List Cell :=
  AddressHeader.cells { prefixLength := min a.prefixLength 32, index }
    ++ (addressCells AddressAttribute.ownAddress a.address
      ++ (addressCells AddressAttribute.address a.address
        ++ (addressCellsIf AddressAttribute.broadcast a.broadcast
          ++ addressCellsIf AddressAttribute.anycast a.anycast)))

lemma lays_add (index : UInt32) (a : InterfaceAddress) :
    Lays 1 (do
        appendCells (AddressHeader.cells { prefixLength := min a.prefixLength 32, index })
        attach AddressAttribute.ownAddress a.address
        attach AddressAttribute.address a.address
        attachIf AddressAttribute.broadcast a.broadcast
        attachIf AddressAttribute.anycast a.anycast)
      (addCells index a) := by
  have hown := length_addressCells AddressAttribute.ownAddress a.address
  have haddress := length_addressCells AddressAttribute.address a.address
  have hbroadcast := length_addressCellsIf AddressAttribute.broadcast a.broadcast
  refine ((lays_appendCells _).mono (by decide)).andThen ?_ ?_
  · rw [AddressHeader.length_cells]
    decide
  · refine (lays_attach _ _).andThen (by omega) ?_
    refine (lays_attach _ _).andThen (by omega) ?_
    exact (lays_attachIf _ _).andThen (by omega) (lays_attachIf _ _)

lemma length_addCells (index : UInt32) (a : InterfaceAddress) : (addCells index a).length ≤ 40 := by
  have hown := length_addressCells AddressAttribute.ownAddress a.address
  have haddress := length_addressCells AddressAttribute.address a.address
  have hbroadcast := length_addressCellsIf AddressAttribute.broadcast a.broadcast
  have hanycast := length_addressCellsIf AddressAttribute.anycast a.anycast
  simp only [addCells, List.length_append, AddressHeader.length_cells, AddressHeader.size]
  omega

end InterfaceAddress

namespace Route

/-- The cells of a request to add a route. -/
def addCells (r : Route) : List Cell :=
  RouteHeader.cells { destinationPrefix := UInt8.ofNat r.destination.prefixLength }
    ++ (attributeCells RouteAttribute.destination (written r.destination.network.octets)
      ++ (InterfaceAddress.addressCellsIf RouteAttribute.gateway r.gateway
        ++ attributeCells RouteAttribute.outputInterface (written (ofU32 r.interface))))

lemma lays_add (r : Route) :
    Lays 1 (do
        appendCells (RouteHeader.cells
          { destinationPrefix := UInt8.ofNat r.destination.prefixLength })
        addAttribute RouteAttribute.destination r.destination.network.octets
        InterfaceAddress.attachIf RouteAttribute.gateway r.gateway
        addAttribute RouteAttribute.outputInterface (ofU32 r.interface))
      (addCells r) := by
  have hgateway := InterfaceAddress.length_addressCellsIf RouteAttribute.gateway r.gateway
  refine ((lays_appendCells _).mono (by decide)).andThen ?_ ?_
  · rw [RouteHeader.length_cells]
    decide
  · refine (lays_addAttribute _ ?_).andThen (four_dvd_length_attributeCells ..) ?_
    · rw [InterfaceAddress.length_octets]
      decide
    · refine (InterfaceAddress.lays_attachIf _ _).andThen (by omega) (lays_addAttribute _ ?_)
      rw [length_ofU32]
      decide

lemma length_addCells (r : Route) : (addCells r).length ≤ 36 := by
  have hgateway := InterfaceAddress.length_addressCellsIf RouteAttribute.gateway r.gateway
  simp only [addCells, List.length_append, RouteHeader.length_cells, RouteHeader.size,
    length_attributeCells, length_written, InterfaceAddress.length_octets, length_ofU32, align]
  omega

end Route

namespace Qdisc

/-- The cells of a rate limit, if there is one. -/
def rateCells : Option NetemRate → List Cell
  | some rate => attributeCells QdiscAttribute.netemRate (written rate.encode)
  | none => []

/-- The cells of a request for an emulator. -/
def netemCells (index : UInt32) (options : NetemOptions) (rate : Option NetemRate) : List Cell :=
  QdiscHeader.cells { index := index.toInt32, handle := netemHandle, parent := rootHandle }
    ++ (attributeCells QdiscAttribute.kind (written (Text.utf8 "netem" ++ [0]))
      ++ attributeCells QdiscAttribute.options (written options.encode ++ rateCells rate))

lemma length_rateCells (rate : Option NetemRate) : (rateCells rate).length ≤ 20 := by
  cases rate with
  | none => exact Nat.zero_le _
  | some rate =>
    rw [rateCells, length_attributeCells, length_written, NetemRate.length_encode]
    decide

lemma length_netemCells (index : UInt32) (options : NetemOptions) (rate : Option NetemRate) :
    (netemCells index options rate).length ≤ 84 := by
  have hkind : (Text.utf8 "netem").length = 5 := by decide
  have hrate := length_rateCells rate
  simp only [netemCells, List.length_append, QdiscHeader.length_cells, QdiscHeader.size,
    length_attributeCells, length_written, hkind, NetemOptions.length_encode, NetemOptions.size,
    List.length_singleton, align]
  omega

lemma lays_netemBody (index : UInt32) (options : NetemOptions) (rate : Option NetemRate) :
    Lays 2 (netemBody index options rate) (netemCells index options rate) := by
  have hkind : (Text.utf8 "netem" ++ [0]).length = 6 := by decide
  have hrate : Lays 1 (match rate with
      | some rate => addAttributeCells QdiscAttribute.netemRate (written rate.encode)
      | none => pure ()) (rateCells rate) := by
    cases rate with
    | none => exact lays_pure.mono (by decide)
    | some rate =>
      refine lays_addAttributeCells _ ?_
      rw [length_written, NetemRate.length_encode]
      decide
  refine ((lays_appendCells _).mono (by decide)).andThen ?_ ?_
  · rw [QdiscHeader.length_cells]
    decide
  · refine Lays.andThen ?_ (four_dvd_length_attributeCells ..) ?_
    · exact (lays_addAttribute _ (by rw [hkind]; decide)).mono (by decide)
    · refine Lays.nest _ (Lays.andThen ((lays_appendCells _).mono (by decide)) ?_ hrate) ?_
      · rw [length_written, NetemOptions.length_encode]
        decide
      · have hlength := length_rateCells rate
        rw [List.length_append, length_written, NetemOptions.length_encode, NetemOptions.size,
          maxAttributeLength]
        omega

lemma maintains_netemBody (index : UInt32) (options : NetemOptions) (rate : Option NetemRate) :
    Run.Maintains Draft.Sized (netemBody index options rate) := by
  refine (maintains_appendCells _).bind fun _ => (maintains_addAttribute _ _).bind fun _ =>
    maintains_nest ((maintains_appendCells _).bind fun _ => ?_)
  cases rate with
  | none => exact Run.maintains_pure ()
  | some rate => exact maintains_addAttributeCells _ _

end Qdisc

/-! ## Operations -/

/-- A configuration step that sends one request. -/
inductive Operation where
  | createVethPair (first second : Interface.VethEnd) (wait : Bool)
  | indexOf (name : String)
  | setUp (index : UInt32) (up wait : Bool)
  | addAddress (index : UInt32) (address : InterfaceAddress) (wait : Bool)
  | removeAddress (index : UInt32) (wait : Bool)
  | addRoute (route : Route) (wait : Bool)
  | shape (clock : Clock) (index : UInt32) (impairment : Impairment) (wait : Bool)

/-- What a request says: its type, its flags, and its body. -/
structure Request where
  type : UInt16
  flags : UInt16
  body : List Cell

namespace Session

variable {s : Session} {levels : Nat} {run : Run Misuse Draft Unit} {cells : List Cell}

/-- What a session comes to when a request has been composed in it: the message starts with the
header of the request, its body follows, and nothing is open. -/
structure Composed (s : Session) (r : Request) (t : Session) : Prop where
  session_eq : t = { s with nextSequence := s.nextSequence + 1, draft := t.draft }
  marks_eq : t.draft.marks = []
  laid : s.blank.Laid (written (s.header r.type r.flags).encode ++ r.body) t.draft.arena
  sized : s.Sized → t.Sized

/-- A request that is laid can always be composed; what comes after it starts from there. -/
lemma composed_of_lays {α : Type} (finish : Configuring α) (hs : s.CanBegin)
    (hrun : Lays levels run cells) (hsized : Run.Maintains Draft.Sized run)
    (hlevels : levels ≤ maxDepth) (hlength : cells.length ≤ 4096) (type flags : UInt16) :
    ∃ t, s.Composed { type, flags, body := cells } t ∧
      (do Session.begin type flags; configure run; finish : Configuring α) s = finish t := by
  have hspace : (Header.size + cells.length) * 2 ≤ Size.greatest := by
    rw [Header.size, Size.greatest]
    omega
  obtain ⟨d, d', hbegin, hcompose, hmarks, hlaid⟩ :=
    begin_lays (ε := ConfigError) hs hrun hlevels hspace type flags
  have hconfigure : configure run { s with nextSequence := s.nextSequence + 1, draft := d }
      = .ok () { s with nextSequence := s.nextSequence + 1, draft := d' } := by
    rw [configure, Run.mapCause, compose_of_ok hcompose]
  refine ⟨{ s with nextSequence := s.nextSequence + 1, draft := d' },
    ⟨rfl, hmarks, hlaid, fun hs => ?_⟩, ?_⟩
  · have hbegun := maintains_begin (ε := ConfigError) type flags s hs
    rw [hbegin] at hbegun
    have hcomposed := hsized d hbegun.1
    rw [hcompose] at hcomposed
    exact ⟨hcomposed, hs.2⟩
  · rw [Run.bind_of_ok hbegin, Run.bind_of_ok hconfigure]

lemma state_of_dispatch (wait : Bool) (s : Session) :
    (dispatch wait s).state = (submit wait s).state := by
  rw [dispatch, Run.mapCause]
  rcases submit wait s with _ | _ | _ <;> rfl

lemma sent_of_dispatch (wait : Bool) (s : Session) :
    (dispatch wait s).state.sent = (transmit s).state.sent := by
  rw [state_of_dispatch, sent_of_submit]

end Session

lemma Interface.sent_of_askIndex (s : Session) :
    (askIndex s).state.sent = (Session.transmit s).state.sent := by
  rw [← Session.sent_of_sendWith noteIndex s none, askIndex]
  rcases Session.sendWith noteIndex (s, none) with ⟨⟨⟩, s, index⟩ | ⟨cause, s, index⟩ |
    ⟨fault, s, index⟩ <;> rfl

/-- Whatever the answer is taken for, the session stays as the answer left it. -/
lemma Interface.sent_of_learnIndex (name : String) (s : Session) :
    (learnIndex name s).state.sent = (Session.transmit s).state.sent := by
  rw [← sent_of_askIndex s, learnIndex, Run.bind_apply, Run.attempt]
  rcases askIndex s with ⟨index, t⟩ | ⟨cause, t⟩ | ⟨fault, t⟩
  · cases index with
    | none => rfl
    | some index =>
      dsimp only
      split <;> rfl
  · cases cause with
    | session cause =>
      cases cause with
      | kernel errno =>
        dsimp only
        split <;> rfl
      | _ => rfl
    | _ => rfl
  · rfl

/-- The request for a link is composed, and its index is learned from there. -/
lemma Interface.indexOf_of_encodeName {s : Session} (hs : s.CanBegin) {name : String}
    {encoded : List UInt8} (hname : encodeName name = .ok encoded) : ∃ t, s.Composed {
        type := MessageType.getLink
        flags := 0
        body := LinkHeader.cells {} ++ attributeCells LinkAttribute.name (written encoded) } t ∧
      indexOf name s = learnIndex name t := by
  have hshort := length_of_encodeName hname
  have hsized : Run.Maintains Draft.Sized (do
      appendCells (LinkHeader.cells {}); addAttribute LinkAttribute.name encoded) :=
    (maintains_appendCells _).bind fun _ => maintains_addAttribute _ _
  have hlength : (LinkHeader.cells {}
      ++ attributeCells LinkAttribute.name (written encoded)).length ≤ 4096 := by
    rw [List.length_append, LinkHeader.length_cells, length_attributeCells, length_written]
    simp only [LinkHeader.size, maxNameLength, align] at hshort ⊢
    omega
  rw [indexOf, withName, hname]
  exact Session.composed_of_lays (learnIndex name) hs (lays_query hshort) hsized (by decide) hlength
    MessageType.getLink 0

namespace Operation

/-- Carries out an operation.  The index that is looked up is left out. -/
def perform : Operation → Configuring Unit
  | createVethPair first second wait => Interface.createVethPair first second wait
  | indexOf name => do
    let _ ← Interface.indexOf name
    pure ()
  | setUp index up wait => Interface.setUp index up wait
  | addAddress index address wait => address.add index wait
  | removeAddress index wait => InterfaceAddress.remove index wait
  | addRoute route wait => route.add wait
  | shape clock index impairment wait => Qdisc.shape clock index impairment wait

/-- Whether the operation waits for the answer of the kernel. -/
def waits : Operation → Bool
  | indexOf _ => true
  | createVethPair _ _ wait | setUp _ _ wait | addAddress _ _ wait | removeAddress _ wait
  | addRoute _ wait | shape _ _ _ wait => wait

/-- What an operation does once its request is composed. -/
def finish : Operation → Configuring Unit
  | indexOf name => do
    let _ ← Interface.learnIndex name
    pure ()
  | op => Session.dispatch op.waits

/-- The request of an operation.  There is none if an interface name is not acceptable. -/
def request? : Operation → Option Request
  | createVethPair first second wait =>
    match Interface.encodeName first.name, Interface.encodeName second.name with
    | .ok firstName, .ok secondName => some {
        type := MessageType.newLink
        flags := MessageFlag.create ||| MessageFlag.exclusive ||| MessageFlag.ackIf wait
        body := Interface.vethCells firstName first.namespaceFd secondName second.namespaceFd }
    | _, _ => none
  | indexOf name =>
    match Interface.encodeName name with
    | .ok encoded => some {
        type := MessageType.getLink
        flags := 0
        body := LinkHeader.cells {} ++ attributeCells LinkAttribute.name (written encoded) }
    | .error _ => none
  | setUp index up wait => some {
      type := MessageType.newLink
      flags := MessageFlag.ackIf wait
      body := LinkHeader.cells
        { index, flags := if up then interfaceUp else 0, changeMask := interfaceUp } }
  | addAddress index address wait => some {
      type := MessageType.newAddress
      flags := MessageFlag.create ||| MessageFlag.replace ||| MessageFlag.ackIf wait
      body := address.addCells index }
  | removeAddress index wait => some {
      type := MessageType.delAddress
      flags := MessageFlag.ackIf wait
      body := AddressHeader.cells { index } }
  | addRoute route wait => some {
      type := MessageType.newRoute
      flags := MessageFlag.create ||| MessageFlag.exclusive ||| MessageFlag.ackIf wait
      body := route.addCells }
  | shape clock index impairment wait => some {
      type := MessageType.newQdisc
      flags := MessageFlag.create ||| MessageFlag.replace ||| MessageFlag.ackIf wait
      body := Qdisc.netemCells index (impairment.options clock) impairment.rateLimit? }

/-- An operation composes its request, if it has one, and finishes from there. -/
theorem perform_eq {s : Session} (hs : s.CanBegin) (op : Operation) :
    match op.request? with
    | none => ∃ cause, op.perform s = .refused cause s
    | some r => ∃ t, s.Composed r t ∧ op.perform s = op.finish t := by
  cases op with
  | createVethPair first second wait =>
    simp only [perform, request?, Interface.createVethPair, Interface.withName]
    rcases hfirst : Interface.encodeName first.name with cause | firstName
    · exact ⟨cause, rfl⟩
    · rcases hsecond : Interface.encodeName second.name with cause | secondName
      · exact ⟨cause, rfl⟩
      · have hfirst := Interface.length_of_encodeName hfirst
        have hsecond := Interface.length_of_encodeName hsecond
        refine Session.composed_of_lays (Session.dispatch wait) hs
          (Interface.lays_vethBody hfirst hsecond _ _)
          (Interface.maintains_vethBody _ _ _ _) (by decide) ?_ ..
        rw [Interface.length_vethCells]
        simp only [Interface.maxNameLength, align] at hfirst hsecond ⊢
        omega
  | indexOf name =>
    simp only [perform, request?, Interface.indexOf, Interface.withName]
    rcases hname : Interface.encodeName name with cause | encoded
    · exact ⟨cause, rfl⟩
    · obtain ⟨t, ht, hindex⟩ := Interface.indexOf_of_encodeName hs hname
      refine ⟨t, ht, Run.bind_congr ?_ _⟩
      rw [← hindex, Interface.indexOf, Interface.withName, hname]
  | setUp index up wait =>
    refine Session.composed_of_lays (Session.dispatch wait) hs (lays_appendCells _)
      (maintains_appendCells _) (by decide) ?_ ..
    rw [LinkHeader.length_cells]
    decide
  | addAddress index address wait =>
    refine Session.composed_of_lays (Session.dispatch wait) hs (address.lays_add index) ?_
      (by decide) ?_ ..
    · exact (maintains_appendCells _).bind fun _ =>
        (InterfaceAddress.maintains_attach _ _).bind fun _ =>
          (InterfaceAddress.maintains_attach _ _).bind fun _ =>
            (InterfaceAddress.maintains_attachIf _ _).bind fun _ =>
              InterfaceAddress.maintains_attachIf _ _
    · exact Nat.le_trans (address.length_addCells index) (by decide)
  | removeAddress index wait =>
    refine Session.composed_of_lays (Session.dispatch wait) hs (lays_appendCells _)
      (maintains_appendCells _) (by decide) ?_ ..
    rw [AddressHeader.length_cells]
    decide
  | addRoute route wait =>
    refine Session.composed_of_lays (Session.dispatch wait) hs route.lays_add ?_ (by decide) ?_ ..
    · exact (maintains_appendCells _).bind fun _ => (maintains_addAttribute _ _).bind fun _ =>
        (InterfaceAddress.maintains_attachIf _ _).bind fun _ => maintains_addAttribute _ _
    · exact Nat.le_trans route.length_addCells (by decide)
  | shape clock index impairment wait =>
    refine Session.composed_of_lays (Session.dispatch wait) hs (Qdisc.lays_netemBody _ _ _)
      (Qdisc.maintains_netemBody _ _ _) (by decide) ?_ ..
    exact Nat.le_trans (Qdisc.length_netemCells ..) (by decide)

lemma perform_of_request {s : Session} {op : Operation} {r : Request} (hs : s.CanBegin)
    (hrequest : op.request? = some r) : ∃ t, s.Composed r t ∧ op.perform s = op.finish t := by
  have hperform := op.perform_eq hs
  rwa [hrequest] at hperform

lemma sent_of_finish (op : Operation) (s : Session) :
    (op.finish s).state.sent = (Session.transmit s).state.sent := by
  cases op with
  | indexOf name =>
    rw [← Interface.sent_of_learnIndex name s, finish, Run.bind_apply]
    rcases Interface.learnIndex name s with _ | _ | _ <;> rfl
  | _ => exact Session.sent_of_dispatch ..

/-- The messages that an operation offers to the kernel: its request, once for each call. -/
lemma sent_of_perform {s : Session} (hs : s.CanBegin) (op : Operation) :
    (op.perform s).state.sent = s.sent ++ match op.request? with
      | some r => List.replicate (s.options.retry.attempts s.channel.sendCodes 0)
        (Session.message s.blank (s.header r.type r.flags) r.body)
      | none => [] := by
  have hperform := op.perform_eq hs
  generalize op.request? = request at hperform
  rcases request with _ | r
  · obtain ⟨cause, hrefused⟩ := hperform
    rw [hrefused]
    exact (List.append_nil _).symm
  · obtain ⟨t, ⟨ht, hmarks, hlaid, -⟩, hfinish⟩ := hperform
    obtain ⟨u, htransmit, hsent⟩ := Session.transmit_laid rfl hmarks hlaid
    rw [hfinish, sent_of_finish]
    rw [ht] at hsent
    rcases htransmit with htransmit | ⟨errno, htransmit⟩ <;> rw [htransmit] <;> exact hsent

end Operation

end Rtnetlink
