import Rtnetlink.Proofs.Alike
import Rtnetlink.Proofs.Conversation

/-!
# What a session does is independent of its storage

A session keeps its storage from one message to the next, with whatever was staged and received
there, and grows it as it goes.  None of that shows: as long as every byte of a layout is written
and there is room for what is done, two sessions with the same ahead of them answer the same to
whatever their user does, compose and send the same messages, and hear the same responses.

* `Edit.Full.effect_eq`: what an edit that writes all of its bytes comes to is independent of what
  the storage held;
* `Conversation.Alike.act`: whatever the user does next, two conversations that are alike end alike;
* `Conversation.observe_eq_of_outlook_eq`: a user, who may decide on each action by all that was
  seen before, sees the same of both sessions.
-/

namespace Rtnetlink

/-! ## Edits that write all of their bytes -/

lemma exists_eq_written {cells : List Cell} (h : none ∉ cells) :
    ∃ bytes, cells = written bytes := by
  induction cells with
  | nil => exact ⟨[], rfl⟩
  | cons cell cells ih =>
    rw [List.mem_cons, not_or] at h
    obtain ⟨hcell, hcells⟩ := h
    obtain ⟨byte, rfl⟩ := Option.ne_none_iff_exists'.1 (Ne.symm hcell)
    obtain ⟨bytes, rfl⟩ := ih hcells
    exact ⟨byte :: bytes, rfl⟩

/-- Bytes that are all written are laid as they are. -/
lemma Outline.laid_written (tape : Nat → UInt8) (bytes : List UInt8) (o : Outline) :
    o.laid tape (written bytes) = { o with bytes := o.bytes ++ bytes } := by
  rw [laid, settle_written (by simp)]

namespace Edit

/-- No byte is left to what the storage held. -/
def Full : Edit → Prop
  | .appendCells cells | .addAttributeCells _ cells => none ∉ cells
  | .append _ | .openAttribute _ | .closeAttribute | .addAttribute .. | .closeFrom _ => True

instance : DecidablePred Full
  | .appendCells _ | .addAttributeCells .. => inferInstanceAs (Decidable (_ ∉ _))
  | .append _ | .openAttribute _ | .closeAttribute | .addAttribute .. | .closeFrom _ =>
    inferInstanceAs (Decidable True)

/-- What such an edit comes to is the same on every tape. -/
lemma Full.effect_eq {e : Edit} (h : e.Full) (tape tape' : Nat → UInt8) (o : Outline) :
    e.effect tape' o = e.effect tape o := by
  cases e with
  | append bytes => simp only [effect, Outline.laid_written]
  | appendCells cells =>
    obtain ⟨bytes, rfl⟩ := exists_eq_written h
    simp only [effect, Outline.laid_written]
  | openAttribute kind => rfl
  | closeAttribute => rfl
  | addAttribute kind value => simp only [effect, Outline.enclose, Outline.laid_written]
  | addAttributeCells kind cells =>
    obtain ⟨bytes, rfl⟩ := exists_eq_written h
    simp only [effect, Outline.enclose, Outline.laid_written]
  | closeFrom level => rfl

end Edit

/-- The action leaves no byte to what the storage held. -/
def Action.Full (a : Action) : Prop := ∀ e ∈ a.edit?, e.Full

instance : DecidablePred Action.Full := fun a => inferInstanceAs (Decidable (∀ e ∈ a.edit?, e.Full))

/-! ## Composing side by side -/

namespace Session

variable {past past' : List Exchange} {s s' : Session}

instance (s : Session) : Decidable s.CanBegin := inferInstanceAs (Decidable (_ ∨ _))

/-- Two sessions that are alike and compose the same message. -/
structure AlikeComposing (past past' : List Exchange) (s s' : Session) : Prop extends
    Alike past past' s s' where
  draft_alike : s.draft.Alike s'.draft

/-- The same message is begun. -/
lemma Alike.begin {Q : Session → Session → Prop} (h : s.Alike past past' s') (hroom : s.CanBegin)
    (hroom' : s'.CanBegin) (type flags : UInt16) :
    Outcome.Alike (fun _ t _ t' => t.AlikeComposing past past' t') Q
      ((Session.begin type flags : Run SessionError Session Unit) s)
      ((Session.begin type flags : Run SessionError Session Unit) s') := by
  obtain ⟨d, hbegin, -⟩ := begin_laid (ε := SessionError) hroom type flags
  obtain ⟨d', hbegin', -⟩ := begin_laid (ε := SessionError) hroom' type flags
  obtain ⟨-, hfits, houtline⟩ := begin_eq_ok hbegin
  obtain ⟨-, hfits', houtline'⟩ := begin_eq_ok hbegin'
  rw [hbegin, hbegin']
  refine .ok ⟨⟨?_, h.fits, h.calls⟩, ?_, hfits, hfits', ?_⟩
  · exact congrArg (fun o : Outlook => { o with nextSequence := o.nextSequence + 1 }) h.outlook_eq
  · rw [houtline, houtline', h.header_eq]
  · rw [houtline]
    exact (Outline.intact_header _).toNested

/-- The same edit of the same message is made or refused, wherever there is room for it. -/
lemma AlikeComposing.edit {e : Edit} (h : s.AlikeComposing past past' s') (he : e.Full)
    (hroom : s.draft.arena.CanHold (e.effect s.draft.arena.byteAt s.draft.outline).2.length)
    (hroom' : s'.draft.arena.CanHold (e.effect s'.draft.arena.byteAt s'.draft.outline).2.length) :
    Outcome.Alike (fun _ t _ t' => t.AlikeComposing past past' t') (AlikeComposing past past')
      (compose e.run s) (compose e.run s') := by
  obtain ⟨houtline, hfits, hfits', hnested⟩ := h.draft_alike
  obtain ⟨d, hd, hrun⟩ := compose_of_follows <|
    e.run_follows (Draft.stages_outline hfits hroom hnested) (Nat.le_refl _)
  obtain ⟨d', hd', hrun'⟩ := compose_of_follows <|
    e.run_follows (Draft.stages_outline hfits' hroom' (houtline ▸ hnested)) (Nat.le_refl _)
  rw [houtline, he.effect_eq s.draft.arena.byteAt] at hd' hrun'
  have hdraft : d.Alike d' := by
    refine ⟨?_, hd.fits, hd'.fits, hd.nested⟩
    rw [Draft.outline, Draft.outline, hd.bytes_eq, hd.marks_eq, hd'.bytes_eq, hd'.marks_eq]
  have hafter : AlikeComposing past past' { s with draft := d } { s' with draft := d' } :=
    ⟨h.toAlike.draft d d', hdraft⟩
  rw [hrun, hrun']
  rcases (e.effect s.draft.arena.byteAt s.draft.outline).1 with _ | cause
  · exact .ok hafter
  · exact .refused hafter

end Session

/-! ## Conversations side by side -/

/-- Two sessions that are alike are used for the same. -/
inductive Phase.Alike (past past' : List Exchange) : Phase → Phase → Prop where
  | idle {s s' : Session} (h : s.Alike past past' s') : Alike past past' (.idle s) (.idle s')
  | composing {s s' : Session} (h : s.AlikeComposing past past' s') :
    Alike past past' (.composing s) (.composing s')
  | reading {a a' : Answer} (h : a.Alike past past' a') :
    Alike past past' (.reading a) (.reading a')

namespace Phase.Alike

variable {past past' : List Exchange} {p p' : Phase}

lemma session (h : p.Alike past past' p') : p.session.Alike past past' p'.session := by
  cases h with
  | idle h => exact h
  | composing h => exact h.toAlike
  | reading h =>
    obtain ⟨s', hs, rfl⟩ := h
    exact hs.toAlike

lemma fromNow (h : p.Alike past past' p') :
    p.Alike p.session.channel.log p'.session.channel.log p' := by
  have hcalls := Exchange.sameSince_refl p.session.channel.log p'.session.channel.log
  cases h with
  | idle h => exact .idle { h with calls := hcalls }
  | composing h => exact .composing { h with calls := hcalls }
  | reading h =>
    obtain ⟨s', hs, rfl⟩ := h
    exact .reading ⟨s', { hs with calls := hcalls }, rfl⟩

end Phase.Alike

namespace Conversation

/-- Two sessions that are alike are used for the same, and the same was heard from them. -/
structure Alike (past past' : List Exchange) (c c' : Conversation) : Prop where
  phase : c.phase.Alike past past' c'.phase
  heard_eq : c'.heard = c.heard

/-- There is room for what the action does, or it can be made. -/
def HasRoom (c : Conversation) : Action → Prop
  | .begin .. => c.session.CanBegin
  | .edit e => c.session.draft.arena.CanHold (c.lengthAfter (.edit e))
  | .sendAcked | .sendWith _ | .sendAndWait => c.session.CanReceive
  | .drop | .send | .next => True

instance (c : Conversation) : DecidablePred c.HasRoom
  | .begin .. => inferInstanceAs (Decidable (Session.CanBegin _))
  | .edit _ => inferInstanceAs (Decidable (Arena.CanHold ..))
  | .sendAcked | .sendWith _ | .sendAndWait => inferInstanceAs (Decidable (Session.CanReceive _))
  | .drop | .send | .next => inferInstanceAs (Decidable True)

/-- Two runs of conversations that end alike. -/
abbrev EndAlike (past past' : List Exchange) :
    Outcome SessionError Conversation Unit → Outcome SessionError Conversation Unit → Prop :=
  Outcome.Alike (fun _ c _ c' => c.Alike past past' c') (Alike past past')

namespace Alike

variable {past past' : List Exchange} {c c' : Conversation}

lemma session (h : c.Alike past past' c') : c.session.Alike past past' c'.session :=
  h.phase.session

/-- From now on, only the calls to come count. -/
lemma fromNow (h : c.Alike past past' c') :
    c.Alike c.session.channel.log c'.session.channel.log c' :=
  ⟨h.phase.fromNow, h.heard_eq⟩

/-- The sessions are used for runs that end alike. -/
lemma use {phase : Session → Phase} {run : Run SessionError Session Unit}
    {P : Session → Session → Prop} (h : c.Alike past past' c')
    (hrun : Outcome.Alike (fun _ t _ t' => P t t') P (run c.session) (run c'.session))
    (hphase : ∀ {t t'}, P t t' → (phase t).Alike past past' (phase t')) :
    EndAlike past past' (Conversation.use phase run c) (Conversation.use phase run c') :=
  hrun.within (fun ht => ⟨hphase ht, h.heard_eq⟩) fun ht => ⟨hphase ht, h.heard_eq⟩

/-- It is enough to look at messages that are being composed. -/
lemma whenComposing {run : Run SessionError Conversation Unit} (h : c.Alike past past' c')
    (hrun : c.session.AlikeComposing past past' c'.session →
      EndAlike past past' (run c) (run c')) :
    EndAlike past past' (Conversation.whenComposing run c) (Conversation.whenComposing run c') := by
  obtain ⟨phase, heard⟩ := c
  obtain ⟨phase', heard'⟩ := c'
  obtain ⟨hphase, hheard⟩ := h
  cases hphase with
  | idle hs => exact .ok ⟨.idle hs, hheard⟩
  | composing hs => exact hrun hs
  | reading ha => exact .ok ⟨.reading ha, hheard⟩

lemma ask (h : c.Alike past past' c') (hs : c.session.AlikeComposing past past' c'.session)
    (hroom : c.session.CanReceive) (hroom' : c'.session.CanReceive) :
    EndAlike past past' (Conversation.ask c) (Conversation.ask c') := by
  have hacked := hs.toAlike.sendAcked hs.draft_alike hroom hroom'
  rw [Conversation.ask, Conversation.ask]
  generalize Session.sendAcked c.session = o, Session.sendAcked c'.session = o' at hacked
  cases hacked with
  | ok ha => exact .ok ⟨.reading ha, h.heard_eq⟩
  | refused ht => exact .refused ⟨.idle ht, h.heard_eq⟩
  | halted ht => exact .halted ⟨.idle ht, h.heard_eq⟩

lemma listen (h : c.Alike past past' c') (hs : c.session.AlikeComposing past past' c'.session)
    (hroom : c.session.CanReceive) (hroom' : c'.session.CanReceive)
    (verdict : List Response → Option String) :
    EndAlike past past' (Conversation.listen verdict c) (Conversation.listen verdict c') := by
  have hwith := hs.toAlike.sendWith hs.draft_alike hroom hroom' (note verdict) []
  have hafter : ∀ {p p' : Session × List Response}, p'.2 = p.2 ∧ p.1.Alike past past' p'.1 →
      Conversation.Alike past past' { phase := .idle p.1, heard := c.heard ++ p.2 }
        { phase := .idle p'.1, heard := c'.heard ++ p'.2 } := by
    rintro p p' ⟨hheard, ht⟩
    exact ⟨.idle ht, by rw [hheard, h.heard_eq]⟩
  exact hwith.within hafter hafter

lemma readOn (h : c.Alike past past' c') :
    EndAlike past past' (Conversation.readOn c) (Conversation.readOn c') := by
  obtain ⟨phase, heard⟩ := c
  obtain ⟨phase', heard'⟩ := c'
  obtain ⟨hphase, rfl⟩ := h
  cases hphase with
  | idle hs => exact .ok ⟨.idle hs, rfl⟩
  | composing hs => exact .ok ⟨.composing hs, rfl⟩
  | @reading a a' ha =>
    have hnext := ha.next
    simp only [Conversation.readOn]
    generalize a.next = o, a'.next = o' at hnext
    cases hnext with
    | ok hrest =>
      obtain ⟨rfl, hrest⟩ := hrest
      exact .ok ⟨.reading hrest, rfl⟩
    | refused hrest => exact .refused ⟨.reading hrest, rfl⟩
    | halted hrest => exact .halted ⟨.reading hrest, rfl⟩

lemma edit {e : Edit} (h : c.Alike past past' c') (he : e.Full) (hroom : c.HasRoom (.edit e))
    (hroom' : c'.HasRoom (.edit e)) :
    EndAlike past past' (Conversation.act (.edit e) c) (Conversation.act (.edit e) c') := by
  obtain ⟨phase, heard⟩ := c
  obtain ⟨phase', heard'⟩ := c'
  obtain ⟨hphase, hheard⟩ := id h
  cases hphase with
  | idle hs => exact .ok h
  | composing hs => exact h.use (hs.edit he hroom hroom') fun ht => .composing ht
  | reading ha => exact .ok h

/-- **One action.**  It does the same in conversations that are alike, and leaves them alike. -/
theorem act {a : Action} (h : c.Alike past past' c') (ha : a.Full) (hroom : c.HasRoom a)
    (hroom' : c'.HasRoom a) :
    EndAlike past past' (Conversation.act a c) (Conversation.act a c') := by
  cases a with
  | begin type flags =>
    exact h.use (h.session.begin hroom hroom' type flags) fun ht => .composing ht
  | edit e => exact h.edit (ha e rfl) hroom hroom'
  | drop => exact h.use (P := Session.Alike past past') (.ok h.session) fun ht => .idle ht
  | send =>
    refine h.whenComposing fun hs => h.use (P := Session.Alike past past') ?_ fun ht => .idle ht
    exact (hs.toAlike.transmit hs.draft_alike).bind fun _ _ _ _ ht => .ok ht.2.1
  | sendAcked => exact h.whenComposing fun hs => h.ask hs hroom hroom'
  | sendWith verdict => exact h.whenComposing fun hs => h.listen hs hroom hroom' verdict
  | sendAndWait =>
    exact h.whenComposing fun hs =>
      h.use (hs.toAlike.sendAndWait hs.draft_alike hroom hroom') fun ht => .idle ht
  | next => exact h.readOn

end Alike

/-! ## What a user sees -/

/-- What there is to see after an action. -/
@[ext]
structure View where
  /-- The message that is composed, with its length. -/
  message : Option (Outline × Nat)
  /-- The responses that were heard so far. -/
  heard : List Response
  /-- The calls that the action made, up to the room for a batch. -/
  calls : List Exchange

/-- What there is to see after an action that led from the one conversation to the other. -/
def view (before after : Conversation) : View where
  message :=
    match after.phase with
    | .composing s => some (s.draft.outline, s.draft.length)
    | _ => none
  heard := after.heard
  calls := (after.session.channel.log.drop before.session.channel.log.length).map (Exchange.sized 0)

/-- What is seen of an action: how it ends, and the view after it. -/
abbrev Sight : Type := Outcome SessionError View Unit

/-- What is seen of an action in a conversation. -/
def sight (a : Action) (c : Conversation) : Sight :=
  match act a c with
  | .ok () d => .ok () (c.view d)
  | .refused cause d => .refused cause (c.view d)
  | .halted fault d => .halted fault (c.view d)

/-- Someone who decides what to do next by what was seen so far, or that nothing is left to do. -/
abbrev User : Type := List Sight → Option Action

namespace User

/-- The user leaves no byte to what the storage held. -/
def Full (user : User) : Prop := ∀ seen, ∀ a ∈ user seen, a.Full

/-- The user who does these things in order, whatever happens. -/
def script (actions : List Action) : User := fun seen => actions[seen.length]?

lemma full_script {actions : List Action} (h : ∀ a ∈ actions, a.Full) : (script actions).Full :=
  fun _ _ ha => h _ (List.mem_of_getElem? ha)

end User

/-- What the user sees of so many actions, after what was seen before.  Once an action halts, the
conversation is over. -/
def observe (user : User) : (count : Nat) → (seen : List Sight) → Conversation → List Sight
  | 0, seen, _ => seen
  | count + 1, seen, c =>
    match user seen with
    | none => seen
    | some a =>
      if (act a c).halts then seen ++ [sight a c]
      else observe user count (seen ++ [sight a c]) (act a c).state

/-- There is room for whatever the user does, until an action halts. -/
def Roomy (user : User) : (count : Nat) → (seen : List Sight) → Conversation → Prop
  | 0, _, _ => True
  | count + 1, seen, c => ∀ a ∈ user seen, c.HasRoom a ∧
    (Roomy user count (seen ++ [sight a c]) (act a c).state ∨ (act a c).halts)

instance decidableRoomy (user : User) :
    (count : Nat) → (seen : List Sight) → (c : Conversation) → Decidable (Roomy user count seen c)
  | 0, _, _ => .isTrue trivial
  | count + 1, seen, c =>
    have (a : Action) := decidableRoomy user count (seen ++ [sight a c]) (act a c).state
    inferInstanceAs (Decidable (∀ a ∈ user seen, c.HasRoom a ∧ (_ ∨ _)))

namespace Alike

variable {past past' : List Exchange} {c c' : Conversation} {user : User}

lemma view_eq {d d' : Conversation} (h : d.Alike c.session.channel.log c'.session.channel.log d') :
    c'.view d' = c.view d := by
  obtain ⟨calls, calls', hlog, hlog', hcalls⟩ := h.session.calls
  have hmessage : (c'.view d').message = (c.view d).message := by
    obtain ⟨phase, heard⟩ := d
    obtain ⟨phase', heard'⟩ := d'
    obtain ⟨hphase, -⟩ := h
    cases hphase with
    | idle => rfl
    | composing hs =>
      simp only [view]
      rw [hs.draft_alike.outline_eq, hs.draft_alike.length_eq]
    | reading => rfl
  have hdone : (c'.view d').calls = (c.view d).calls := by
    simp only [view]
    rw [hlog, hlog', List.drop_left, List.drop_left, hcalls]
  exact View.ext hmessage h.heard_eq hdone

/-- The same is seen of an action that ends alike. -/
lemma sight_eq {a : Action} (h : EndAlike c.session.channel.log c'.session.channel.log
    (Conversation.act a c) (Conversation.act a c')) : sight a c' = sight a c := by
  rw [sight, sight]
  generalize Conversation.act a c = o, Conversation.act a c' = o' at h
  cases h with
  | ok hd => exact congrArg (Outcome.ok ()) (view_eq hd)
  | refused hd => exact congrArg (Outcome.refused _) (view_eq hd)
  | halted hd => exact congrArg (Outcome.halted _) (view_eq hd)

/-- Any number of actions, by induction on how many are left. -/
lemma observe_eq (count : Nat) {seen : List Sight} (h : c.Alike past past' c')
    (huser : user.Full) (hroom : Roomy user count seen c)
    (hroom' : Roomy user count seen c') :
    observe user count seen c' = observe user count seen c := by
  induction count generalizing seen past past' c c' with
  | zero => rfl
  | succ count ih =>
    rw [observe, observe]
    rcases ha : user seen with _ | a
    · rfl
    · obtain ⟨hfirst, hrest⟩ := hroom a ha
      obtain ⟨hfirst', hrest'⟩ := hroom' a ha
      have hact := act h.fromNow (huser seen a ha) hfirst hfirst'
      have hsight := sight_eq hact
      dsimp only
      rw [hsight] at hrest' ⊢
      generalize Conversation.act a c = o, Conversation.act a c' = o' at hact hrest hrest'
      cases hact with
      | ok hd => exact ih hd (hrest.resolve_right nofun) (hrest'.resolve_right nofun)
      | refused hd => exact ih hd (hrest.resolve_right nofun) (hrest'.resolve_right nofun)
      | halted hd => rfl

end Alike

/-- **A session does not show what its storage was used for.**  Take two sessions with the same
ahead of them.  What their storage holds, how large it is, what of it is committed and marked, and
how much is reserved for sending may differ.  If every batch to come fits into the receive buffer
and is reported with its length, a user who leaves no byte to the storage sees the same of both, as
long as there is room for what is done: how each action ends, the message that is composed, the
responses and the calls that are made. -/
theorem observe_eq_of_outlook_eq {s s' : Session} {user : User} {count : Nat}
    (houtlook : s'.outlook = s.outlook)
    (hfits : ∀ d ∈ s.channel.deliveries, d.Fits s.options.receiveBufferSize)
    (huser : user.Full)
    (hroom : Roomy user count [] { phase := .idle s })
    (hroom' : Roomy user count [] { phase := .idle s' }) :
    observe user count [] { phase := .idle s' } = observe user count [] { phase := .idle s } :=
  have halike : Session.Alike s.channel.log s'.channel.log s s' :=
    ⟨houtlook, hfits, Exchange.sameSince_refl _ _⟩
  Alike.observe_eq count ⟨.idle halike, rfl⟩ huser hroom hroom'

/-- A session that was just opened, and one that has staged and received before and keeps the rest
of that in its storage.  A message with a nested attribute is sent after two failed calls, and
another one is answered. -/
theorem observe_eq_of_used_storage :
    let s : Session := {
      portId := 7
      nextSequence := 3
      options.receiveBufferSize := 64
      draft.arena.storage := List.replicate 16 0
      channel.sendCodes := [4, 11, 0]
      channel.deliveries := [
        .batch [20, 0, 0, 0, 2, 0, 0, 0, 4, 0, 0, 0, 7, 0, 0, 0, 0, 0, 0, 0] none true] }
    let s' : Session := { s with
      options.sendBufferSize := 50
      draft.arena := { storage := List.replicate 40 0xEE, committed := 33 }
      draft.marks := [20, 16]
      channel.log := [.sent [0xEE] 0] }
    let user := User.script [.begin 16 5, .edit (.openAttribute 1), .edit (.append [1, 2, 3]),
      .edit (.closeFrom 1), .edit .closeAttribute, .send, .begin 18 0,
      .edit (.addAttributeCells 3 [some 4]), .sendAcked, .next, .next]
    s'.outlook = s.outlook ∧ (∀ d ∈ s.channel.deliveries, d.Fits s.options.receiveBufferSize) ∧
      user.Full ∧ Roomy user 11 [] { phase := .idle s } ∧
      Roomy user 11 [] { phase := .idle s' } ∧
      observe user 11 [] { phase := .idle s' } = observe user 11 [] { phase := .idle s } := by
  intro s s' user
  have houtlook : s'.outlook = s.outlook := rfl
  have hfits : ∀ d ∈ s.channel.deliveries, d.Fits s.options.receiveBufferSize := by decide
  have huser : user.Full := User.full_script (by decide)
  have hroom : Roomy user 11 [] { phase := .idle s } := by decide +kernel
  have hroom' : Roomy user 11 [] { phase := .idle s' } := by decide +kernel
  exact ⟨houtlook, hfits, huser, hroom, hroom',
    observe_eq_of_outlook_eq houtlook hfits huser hroom hroom'⟩

end Conversation

end Rtnetlink
