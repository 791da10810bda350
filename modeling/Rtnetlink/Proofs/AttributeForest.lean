import Rtnetlink.Proofs.Sending

/-!
# Attribute forests

The body of a message is a forest: attributes one behind the other, each with plain bytes as its
value or with raw bytes and a forest of its own.  Forests are written attribute by attribute.  A
length is only known when its attribute is closed, and what is padded is the message, not the value;
what comes out is nevertheless a plain recursive encoding of the forest, in which every value is
padded for itself.

* `AttributeForest.lays_write`: writing a forest lays its encoding;
* `AttributeForest.isRead_toList`: the encoding of a forest reads back as the forest;
* `Session.forest_roundtrip`: a message that a forest was written to is sent with it, and reads back
  as it was written.
-/

namespace Rtnetlink

open LittleEndian

/-- Attributes one behind the other. -/
inductive AttributeForest where
  | nil
  /-- An attribute with plain bytes as its value, and the attributes behind it. -/
  | leaf (kind : UInt16) (value : List UInt8) (rest : AttributeForest)
  /-- An attribute whose value is raw bytes and a forest, and the attributes behind it.  It is
  written either by a run that closes by itself or by opening and closing. -/
  | nest (kind : UInt16) (raw : List UInt8) (guarded : Bool) (children rest : AttributeForest)

lemma AttributeChain.toList_of_remaining_nil {c : AttributeChain} (h : c.remaining = []) :
    c.toList = [] := by
  have hnext : c.next? = none := by
    rw [next?, h]
    rfl
  exact toList_eq_nil hnext

/-- An attribute with its header, its value and its padding. -/
def Attribute.encode (kind : UInt16) (value : List UInt8) : List UInt8 :=
  AttributeHeader.encode { length := UInt16.ofNat (4 + value.length), kind } ++ value
    ++ List.replicate (align value.length - value.length) 0

namespace Attribute

variable {kind : UInt16} {value rest : List UInt8}

lemma written_encode (kind : UInt16) (value : List UInt8) :
    written (encode kind value) = Draft.attributeCells kind (written value) := by
  rw [encode, Draft.attributeCells, written_append, written_append, length_written]

lemma length_encode (kind : UInt16) (value : List UInt8) :
    (encode kind value).length = 4 + align value.length := by
  rw [← length_written, written_encode, Draft.length_attributeCells, length_written]

lemma four_dvd_length_encode (kind : UInt16) (value : List UInt8) :
    4 ∣ (encode kind value).length := by
  rw [← length_written, written_encode]
  exact Draft.four_dvd_length_attributeCells ..

/-- A chain that goes on with an encoded attribute brings it, and goes on behind its padding. -/
lemma next?_of_encode {c : AttributeChain} (h : c.remaining = encode kind value ++ rest)
    (hlength : 4 + value.length ≤ Draft.maxAttributeLength) :
    c.next? = some ({ offset := c.offset, kind, value },
      { c with offset := c.offset + (encode kind value).length }) := by
  have hheader : AttributeHeader.decode c.remaining
      = .ok { length := UInt16.ofNat (4 + value.length), kind } := by
    rw [h, encode, List.append_assoc, List.append_assoc]
    exact AttributeHeader.decode_encode_append ..
  have htoNat : (UInt16.ofNat (4 + value.length)).toNat = 4 + value.length := by
    rw [Draft.maxAttributeLength] at hlength
    rw [UInt16.toNat_ofNat']
    omega
  have hpadding := le_align value.length
  have hroom : ¬ (4 + value.length < AttributeHeader.size ∨
      c.remaining.length < 4 + value.length) := by
    rw [h, List.length_append, length_encode, AttributeHeader.size]
    omega
  have hvalue : (c.remaining.take (4 + value.length)).drop AttributeHeader.size = value := by
    rw [h, encode, List.append_assoc, List.append_assoc, List.take_append,
      List.take_of_length_le (by simp [AttributeHeader.size]), AttributeHeader.length_encode,
      List.drop_left' (AttributeHeader.length_encode _)]
    exact List.take_left' (by simp [AttributeHeader.size])
  have halign : align (4 + value.length) = (encode kind value).length := by
    rw [length_encode, align_add_of_dvd (Nat.dvd_refl 4)]
  rw [AttributeChain.next?]
  simp only [hheader, htoNat, if_neg hroom, hvalue, halign]

lemma remaining_of_encode {c : AttributeChain} (h : c.remaining = encode kind value ++ rest) :
    AttributeChain.remaining { c with offset := c.offset + (encode kind value).length } = rest := by
  rw [AttributeChain.remaining] at h ⊢
  rw [← List.drop_drop, h, List.drop_left]

end Attribute

namespace AttributeForest

/-- The bytes of a forest. -/
def encode : AttributeForest → List UInt8
  | nil => []
  | leaf kind value rest => Attribute.encode kind value ++ rest.encode
  | nest kind raw _ children rest => Attribute.encode kind (raw ++ children.encode) ++ rest.encode

/-- How many attributes are open at once while a forest is written. -/
def levels : AttributeForest → Nat
  | nil => 0
  | leaf _ _ rest => max 1 rest.levels
  | nest _ _ _ children rest => max (children.levels + 1) rest.levels

/-- Every attribute fits its length field, and forests start at multiples of four. -/
def Fits : AttributeForest → Prop
  | nil => True
  | leaf _ value rest => 4 + value.length ≤ Draft.maxAttributeLength ∧ rest.Fits
  | nest _ raw _ children rest =>
    4 ∣ raw.length ∧ 4 + (raw.length + children.encode.length) ≤ Draft.maxAttributeLength ∧
      children.Fits ∧ rest.Fits

/-- Writes an attribute with a run that closes by itself or by opening and closing. -/
def enclose (kind : UInt16) (guarded : Bool) (body : Run Misuse Draft Unit) :
    Run Misuse Draft Unit :=
  if guarded then
    Draft.nest kind body
  else do
    Draft.openAttribute kind
    body
    Draft.closeAttribute

/-- Writes a forest to a message. -/
def write : AttributeForest → Run Misuse Draft Unit
  | nil => pure ()
  | leaf kind value rest => do
    Draft.addAttribute kind value
    rest.write
  | nest kind raw guarded children rest => do
    enclose kind guarded do
      Draft.append raw
      children.write
    rest.write

/-- The attributes of a chain that starts at a place of a message are those of the forest: each
starts at a multiple of four in the message and has the kind and value that were written, and no
attribute is left over.  The value of one with a forest is the raw bytes and a chain that reads as
that forest. -/
def IsRead : AttributeForest → (place : Nat) → List Attribute → Prop
  | nil, _, attributes => attributes = []
  | leaf kind value rest, place, attributes =>
    ∃ a later, attributes = a :: later ∧ 4 ∣ place + a.offset ∧ a.kind = kind ∧ a.value = value ∧
      rest.IsRead place later
  | nest kind raw _ children rest, place, attributes =>
    ∃ a later, attributes = a :: later ∧ 4 ∣ place + a.offset ∧ a.kind = kind ∧
      a.value.take raw.length = raw ∧
      children.IsRead (place + a.offset + AttributeHeader.size + raw.length)
        (AttributeChain.toList { bytes := a.value.drop raw.length }) ∧
      rest.IsRead place later

/-- Writing a forest lays its encoding, whichever way its attributes are closed. -/
lemma lays_write (forest : AttributeForest) (hfits : forest.Fits) :
    Draft.Lays forest.levels forest.write (written forest.encode) := by
  induction forest with
  | nil => exact Draft.lays_pure
  | leaf kind value rest ih =>
    obtain ⟨hlength, hrest⟩ := hfits
    rw [encode, written_append, Attribute.written_encode]
    refine Draft.Lays.andThen ?_ (Draft.four_dvd_length_attributeCells ..) ?_
    · exact (Draft.lays_addAttribute kind hlength).mono (Nat.le_max_left ..)
    · exact (ih hrest).mono (Nat.le_max_right ..)
  | nest kind raw guarded children rest ihchildren ihrest =>
    obtain ⟨hraw, hlength, hchildren, hrest⟩ := hfits
    have hbody : Draft.Lays children.levels (do Draft.append raw; children.write)
        (written (raw ++ children.encode)) := by
      rw [written_append]
      refine Draft.Lays.andThen ?_ (by rwa [length_written]) (ihchildren hchildren)
      exact (Draft.lays_append raw).mono (Nat.zero_le _)
    have hlength' : 4 + (written (raw ++ children.encode)).length ≤ Draft.maxAttributeLength := by
      rwa [length_written, List.length_append]
    rw [encode, written_append, Attribute.written_encode]
    refine Draft.Lays.andThen ?_ (Draft.four_dvd_length_attributeCells ..) ?_
    · cases guarded with
      | true => exact (hbody.nest kind hlength').mono (Nat.le_max_left ..)
      | false => exact (hbody.enclosed kind hlength').mono (Nat.le_max_left ..)
    · exact (ihrest hrest).mono (Nat.le_max_right ..)

/-- The encoding of a forest reads back as the forest. -/
lemma isRead_toList {forest : AttributeForest} (hfits : forest.Fits) {c : AttributeChain}
    {place : Nat} (hplace : 4 ∣ place + c.offset) (h : c.remaining = forest.encode) :
    forest.IsRead place c.toList := by
  induction forest generalizing c place with
  | nil =>
    rw [AttributeChain.toList_of_remaining_nil h]
    rfl
  | leaf kind value rest ih =>
    obtain ⟨hlength, hrest⟩ := hfits
    rw [AttributeChain.toList_eq_cons (Attribute.next?_of_encode h hlength)]
    refine ⟨_, _, rfl, hplace, rfl, rfl, ih hrest ?_ (Attribute.remaining_of_encode h)⟩
    rw [← Nat.add_assoc]
    exact (Nat.dvd_add_right hplace).2 (Attribute.four_dvd_length_encode ..)
  | nest kind raw guarded children rest ihchildren ihrest =>
    obtain ⟨hraw, hlength, hchildren, hrest⟩ := hfits
    rw [← List.length_append] at hlength
    rw [AttributeChain.toList_eq_cons (Attribute.next?_of_encode h hlength)]
    refine ⟨_, _, rfl, hplace, rfl, List.take_left, ihchildren hchildren ?_ ?_,
      ihrest hrest ?_ (Attribute.remaining_of_encode h)⟩
    · -- the chain inside starts behind the header and the raw bytes
      have hinside := (Nat.dvd_add_right hplace).2 (Nat.dvd_refl 4)
      exact (Nat.dvd_add_right hinside).2 hraw
    · rw [AttributeChain.remaining, List.drop_zero, List.drop_left]
    · rw [← Nat.add_assoc]
      exact (Nat.dvd_add_right hplace).2 (Attribute.four_dvd_length_encode ..)

end AttributeForest

/-- **Attribute forests round-trip.**  In every session, a message that starts with any bytes up to
a multiple of four takes any forest behind them, if it is not too deep and its attributes fit their
length fields: no step of composing is refused and no attribute stays open.  Sending the message
is refused only by the kernel.  What the kernel is offered, at each call, starts with the header and
the bytes, and what is behind them reads back as the forest. -/
theorem Session.forest_roundtrip {s : Session} {start : List UInt8} {forest : AttributeForest}
    (hs : s.CanBegin) (hstart : 4 ∣ start.length) (hlevels : forest.levels ≤ Draft.maxDepth)
    (hfits : forest.Fits)
    (hlength : Header.size + start.length + forest.encode.length < byteLimit 4)
    (type flags : UInt16) :
    ∃ s₀ s₁ s₂,
      (Session.begin type flags : Run SessionError Session Unit) s = .ok () s₀ ∧
      Session.compose (do Draft.append start; forest.write) s₀ = .ok () s₁ ∧
      s₁.draft.depth = 0 ∧
      (Session.send s₁ = .ok () s₂ ∨ ∃ errno, Session.send s₁ = .refused (.io errno) s₂) ∧
      ∃ message count, 0 < count ∧ s₂.sent = s.sent ++ List.replicate count message ∧
        message.length = Header.size + start.length + forest.encode.length ∧
        Header.decode message
          = .ok { s.header type flags with length := UInt32.ofNat message.length } ∧
        (message.drop Header.size).take start.length = start ∧
        forest.IsRead (Header.size + start.length)
          (AttributeChain.toList { bytes := message.drop (Header.size + start.length) }) := by
  have hrun : Draft.Lays forest.levels (do Draft.append start; forest.write)
      (written (start ++ forest.encode)) := by
    rw [written_append]
    refine Draft.Lays.andThen ?_ (by rwa [length_written]) (forest.lays_write hfits)
    exact (Draft.lays_append start).mono (Nat.zero_le _)
  have hspace : (Header.size + (written (start ++ forest.encode)).length) * 2 ≤ Size.greatest := by
    have hlimit : byteLimit 4 = 4294967296 := rfl
    rw [length_written, List.length_append, Size.greatest]
    omega
  obtain ⟨d, d', hbegin, hcompose, hmarks, hlaid⟩ :=
    Session.begin_lays (ε := SessionError) hs hrun hlevels hspace type flags
  obtain ⟨s₂, hsend, hsent⟩ := Session.send_laid
    (s := { s with nextSequence := s.nextSequence + 1, draft := d' }) rfl hmarks hlaid
  refine ⟨_, _, s₂, hbegin, Session.compose_of_ok hcompose, ?_, hsend, _, _,
    RetryPolicy.attempts_pos .., hsent, ?_⟩
  · rw [Draft.depth, hmarks, List.length_nil]
  · have hbytes := Session.message_of_written s.blank (s.header type flags) (start ++ forest.encode)
    have htotal : (Session.message s.blank (s.header type flags)
        (written (start ++ forest.encode))).length
        = Header.size + start.length + forest.encode.length := by
      rw [hbytes, List.length_append, Header.length_encode, List.length_append, Nat.add_assoc]
    have hbody : (Session.message s.blank (s.header type flags)
        (written (start ++ forest.encode))).drop Header.size = start ++ forest.encode := by
      rw [hbytes, Header.drop_encode_append]
    refine ⟨htotal, ?_, ?_, ?_⟩
    · rw [htotal, hbytes, List.length_append, ← Nat.add_assoc, Header.decode_encode_append]
    · rw [hbody, List.take_left]
    · rw [← List.drop_drop, hbody, List.drop_left]
      refine AttributeForest.isRead_toList hfits ?_ ?_
      · show 4 ∣ Header.size + start.length
        exact (Nat.dvd_add_right (by decide : 4 ∣ Header.size)).2 hstart
      · rw [AttributeChain.remaining, List.drop_zero]

/-- A session whose storage holds bytes of earlier messages sends four bytes and two attributes: one
with raw bytes and a one-byte attribute inside, one that is empty, closed by itself. -/
theorem Session.forest_roundtrip_of_used_storage :
    let s : Session := { portId := 7, draft.arena.storage := List.replicate 40 0xEE }
    let forest : AttributeForest :=
      .nest 5 [1, 2, 3, 4] false (.leaf 6 [7] .nil) (.nest 8 [] true .nil .nil)
    s.CanBegin ∧ forest.levels ≤ Draft.maxDepth ∧ forest.Fits ∧
      ∃ s₀ s₁ s₂,
        (Session.begin MessageType.newLink 0 : Run SessionError Session Unit) s = .ok () s₀ ∧
        Session.compose (do Draft.append [9, 9, 9, 9]; forest.write) s₀ = .ok () s₁ ∧
        s₁.draft.depth = 0 ∧
        (Session.send s₁ = .ok () s₂ ∨ ∃ errno, Session.send s₁ = .refused (.io errno) s₂) ∧
        ∃ message count, 0 < count ∧ s₂.sent = s.sent ++ List.replicate count message ∧
          message.length = 40 ∧
          Header.decode message = .ok { s.header MessageType.newLink 0 with length := 40 } ∧
          (message.drop Header.size).take 4 = [9, 9, 9, 9] ∧
          forest.IsRead 20 (AttributeChain.toList { bytes := message.drop 20 }) := by
  intro s forest
  have hs : s.CanBegin := .inl (by decide)
  have hlevels : forest.levels ≤ Draft.maxDepth := by decide
  have hfits : forest.Fits :=
    ⟨by decide, by decide, ⟨by decide, trivial⟩, by decide, by decide, trivial, trivial⟩
  obtain ⟨s₀, s₁, s₂, hbegin, hcompose, hdepth, hsend, message, count, hcount, hsent, hlength,
      hheader, hstart, hread⟩ :=
    Session.forest_roundtrip hs (by decide : 4 ∣ ([9, 9, 9, 9] : List UInt8).length) hlevels hfits
      (by decide) MessageType.newLink 0
  have htotal : message.length = 40 := hlength
  rw [htotal] at hheader
  exact ⟨hs, hlevels, hfits, s₀, s₁, s₂, hbegin, hcompose, hdepth, hsend, message, count, hcount,
    hsent, htotal, hheader, hstart, hread⟩

end Rtnetlink
