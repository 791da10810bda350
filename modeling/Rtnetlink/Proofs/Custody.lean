import Mathlib.Data.List.Basic
import Mathlib.Data.List.Count
import Mathlib.Data.List.Nodup
import Mathlib.Tactic.Common
import Rtnetlink.Os.Machine

/-!
# Descriptors in custody

A descriptor that a call hands out is in somebody's hands from then on, until it is closed.  A step
on the machine takes over the descriptors that are held when it begins and leaves others held when
it ends, and the books are to balance: what was held or has been handed out is closed once, or is
still held.  This is what keeps a descriptor from being lost, and from being closed twice.

What a step leaves held depends on how it ends, so it is stated for each of the three ends, and
composed along the steps of a run.

* `Machine.Custody`: the books of some calls;
* `Run.Entrusts`: what a run takes over and what it leaves held;
* `Run.Entrusts.bind`: one run after another.
-/

namespace Rtnetlink

/-! ## What a call does to descriptors -/

namespace SystemCall

/-- The descriptor that a call is made on. -/
def descriptor? : SystemCall → Option Nat
  | .closeFile descriptor .. | .enterNamespace descriptor .. | .bindSocket descriptor ..
  | .socketName descriptor .. | .sendTo descriptor .. | .receiveFrom descriptor ..
  | .deviceControl descriptor .. => some descriptor
  | .openFile .. | .removeFile .. | .makeDirectory .. | .mount .. | .unmount ..
  | .newNamespace .. | .openSocket .. => none

/-- The descriptor that a call closes. -/
def closed? : SystemCall → Option Nat
  | .closeFile descriptor _ => some descriptor
  | _ => none

/-- The descriptor that a call hands out.  A result below zero is that of a failure. -/
def opened? : SystemCall → Option Nat
  | .openFile _ _ _ result | .openSocket _ _ _ result =>
    if 0 ≤ result then some result.toNat else none
  | _ => none

/-- A call is made on what is held, and what it closes is held no longer. -/
structure Spends (c : SystemCall) (held held' : List Nat) : Prop where
  onHeld : ∀ d ∈ c.descriptor?, d ∈ held
  perm : held.Perm (c.closed?.toList ++ held')

namespace Spends

variable {c : SystemCall} {held : List Nat}

/-- A call that is made on no descriptor. -/
lemma of_none (hon : c.descriptor? = none) (hclosed : c.closed? = none) : c.Spends held held where
  onHeld := by
    intro d hd
    rw [hon] at hd
    cases hd
  perm := by
    rw [hclosed]
    exact .refl held

/-- A call on a descriptor that is held, and goes on being held. -/
lemma of_mem {d : Nat} (hd : d ∈ held) (hon : c.descriptor? = some d) (hclosed : c.closed? = none) :
    c.Spends held held where
  onHeld := by
    intro d' hd'
    rw [hon] at hd'
    cases hd'
    exact hd
  perm := by
    rw [hclosed]
    exact .refl held

end Spends

/-- Calls that hand out what they result in, or fail. -/
structure HandsOut (entry : Int → SystemCall) : Prop where
  descriptor : ∀ result, (entry result).descriptor? = none
  closed : ∀ result, (entry result).closed? = none
  opened : ∀ result, (entry result).opened? = if 0 ≤ result then some result.toNat else none

lemma handsOut_openFile (path : String) (flags : Nat) (mode : Option Nat) :
    HandsOut (.openFile path flags mode) :=
  ⟨fun _ => rfl, fun _ => rfl, fun _ => rfl⟩

lemma handsOut_openSocket (domain type protocol : Nat) :
    HandsOut (.openSocket domain type protocol) :=
  ⟨fun _ => rfl, fun _ => rfl, fun _ => rfl⟩

end SystemCall

namespace Machine

variable {m m₁ m' : Machine} {held held₁ held' : List Nat} {calls calls' : List SystemCall}
  {name : CallName} {entry : Int → SystemCall}

/-! ## The books -/

/-- The outcomes that calls for descriptors will have are success, which is 0, and the numbers of
errors. -/
def Scripted (m : Machine) : Prop :=
  ∀ name ∈ [CallName.openFile, .openSocket], ∀ code ∈ m.codes name, 0 ≤ code

/-- The descriptors that are held are different from each other, and have been handed out. -/
structure Holds (m : Machine) (held : List Nat) : Prop where
  nodup : held.Nodup
  lt : ∀ d ∈ held, d < m.nextDescriptor

lemma Holds.of_perm (h : m.Holds held) (hperm : held.Perm held') : m.Holds held' where
  nodup := hperm.nodup_iff.1 h.nodup
  lt := fun d hd => h.lt d (hperm.mem_iff.2 hd)

/-- The books of some calls, which began when some descriptors were held and ended when others
were. -/
structure Custody (m : Machine) (held : List Nat) (calls : List SystemCall) (m' : Machine)
    (held' : List Nat) : Prop where
  /-- The calls were logged. -/
  log : m'.log = m.log ++ calls
  /-- Descriptors are handed out upwards. -/
  next_le : m.nextDescriptor ≤ m'.nextDescriptor
  /-- A descriptor that was held or has been handed out is closed once or is still held, and not
  both.  No other is closed or held. -/
  balance : ∀ d, held.count d + (if m.nextDescriptor ≤ d ∧ d < m'.nextDescriptor then 1 else 0)
    = (calls.filterMap SystemCall.closed?).count d + held'.count d
  /-- No call is made on any other descriptor. -/
  onHeld : ∀ c ∈ calls, ∀ d ∈ c.descriptor?,
    d ∈ held ∨ (m.nextDescriptor ≤ d ∧ d < m'.nextDescriptor)
  /-- No call is made on a descriptor that was closed before. -/
  spent : calls.Pairwise fun earlier later => ∀ d ∈ earlier.closed?, d ∉ later.descriptor?
  /-- What has been handed out is what the calls resulted in that were to hand out a descriptor and
  succeeded. -/
  opened : m.Scripted → m'.Scripted ∧ calls.filterMap SystemCall.opened?
    = List.range' m.nextDescriptor (m'.nextDescriptor - m.nextDescriptor)

namespace Custody

/-- Calls on what is held that hand out and close nothing. -/
lemma of_quiet (hlog : m'.log = m.log ++ calls) (hnext : m'.nextDescriptor = m.nextDescriptor)
    (hscripted : m.Scripted → m'.Scripted)
    (hquiet : ∀ c ∈ calls,
      (∀ d ∈ c.descriptor?, d ∈ held) ∧ c.closed? = none ∧ c.opened? = none) :
    m.Custody held calls m' held where
  log := hlog
  next_le := Nat.le_of_eq hnext.symm
  balance := by
    intro d
    have hclosed : calls.filterMap SystemCall.closed? = [] :=
      List.filterMap_eq_nil_iff.2 fun c hc => (hquiet c hc).2.1
    rw [if_neg (by omega), hclosed, List.count_nil, Nat.add_zero, Nat.zero_add]
  onHeld := fun c hc d hd => .inl ((hquiet c hc).1 d hd)
  spent := by
    refine List.pairwise_of_forall_mem_list fun earlier hearlier _ _ d hd => ?_
    rw [(hquiet earlier hearlier).2.1] at hd
    cases hd
  opened := by
    intro h
    have hopened : calls.filterMap SystemCall.opened? = [] :=
      List.filterMap_eq_nil_iff.2 fun c hc => (hquiet c hc).2.2
    rw [hopened, hnext, Nat.sub_self]
    exact ⟨hscripted h, rfl⟩

/-- Making no calls changes nothing. -/
lemma refl (m : Machine) (held : List Nat) : m.Custody held [] m held :=
  .of_quiet (List.append_nil _).symm rfl id (List.forall_mem_nil _)

/-- What is held at the end is different from each other again. -/
lemma holds (h : m.Custody held calls m' held') (hm : m.Holds held) : m'.Holds held' where
  nodup := by
    rw [List.nodup_iff_count_le_one]
    intro d
    have hbalance := h.balance d
    have hone := List.nodup_iff_count_le_one.1 hm.nodup d
    rcases Nat.eq_zero_or_pos (held.count d) with hnone | hsome
    · split at hbalance <;> omega
    · have hlt := hm.lt d (List.count_pos_iff.1 hsome)
      rw [if_neg (by omega)] at hbalance
      omega
  lt := by
    intro d hd
    have hbalance := h.balance d
    have hpos := List.count_pos_iff.2 hd
    by_contra hge
    have hnext := h.next_le
    rw [if_neg (by omega)] at hbalance
    have hlt := hm.lt d (List.count_pos_iff.1 (by omega))
    omega

/-- What is still held was held before, or has been handed out. -/
lemma mem_or_of_mem (h : m.Custody held calls m' held') {d : Nat} (hd : d ∈ held') :
    d ∈ held ∨ (m.nextDescriptor ≤ d ∧ d < m'.nextDescriptor) := by
  have hbalance := h.balance d
  have hpos := List.count_pos_iff.2 hd
  by_cases hnew : m.nextDescriptor ≤ d ∧ d < m'.nextDescriptor
  · exact .inr hnew
  · rw [if_neg hnew] at hbalance
    exact .inl (List.count_pos_iff.1 (by omega))

/-- What was closed is not held any more, and will not be handed out again. -/
lemma not_mem_of_closed (h : m.Custody held calls m' held') (hm : m.Holds held) {c : SystemCall}
    (hc : c ∈ calls) {d : Nat} (hd : d ∈ c.closed?) : d ∉ held' ∧ d < m'.nextDescriptor := by
  have hbalance := h.balance d
  have hnext := h.next_le
  have hclosed : 0 < (calls.filterMap SystemCall.closed?).count d :=
    List.count_pos_iff.2 (List.mem_filterMap.2 ⟨c, hc, hd⟩)
  have hone := List.nodup_iff_count_le_one.1 hm.nodup d
  have hlt : 0 < held.count d → d < m.nextDescriptor :=
    fun hpos => hm.lt d (List.count_pos_iff.1 hpos)
  rw [← List.count_eq_zero]
  split at hbalance <;> omega

lemma trans (h : m.Custody held calls m₁ held₁) (h' : m₁.Custody held₁ calls' m' held')
    (hm : m.Holds held) : m.Custody held (calls ++ calls') m' held' where
  log := by rw [h'.log, h.log, List.append_assoc]
  next_le := Nat.le_trans h.next_le h'.next_le
  balance := by
    intro d
    have hfirst := h.balance d
    have hsecond := h'.balance d
    have hle := h.next_le
    have hle' := h'.next_le
    rw [List.filterMap_append, List.count_append]
    split at hfirst <;> split at hsecond <;> split <;> omega
  onHeld := by
    intro c hc d hd
    have hle := h.next_le
    have hle' := h'.next_le
    rcases List.mem_append.1 hc with hc | hc
    · rcases h.onHeld c hc d hd with hheld | hnew
      · exact .inl hheld
      · exact .inr (by omega)
    · rcases h'.onHeld c hc d hd with hheld | hnew
      · rcases h.mem_or_of_mem hheld with hheld | hnew
        · exact .inl hheld
        · exact .inr (by omega)
      · exact .inr (by omega)
  spent := by
    refine List.pairwise_append.2 ⟨h.spent, h'.spent, ?_⟩
    intro earlier hearlier later hlater d hclosed hon
    obtain ⟨hgone, hlt⟩ := h.not_mem_of_closed hm hearlier hclosed
    rcases h'.onHeld later hlater d hon with hheld | hnew
    · exact hgone hheld
    · omega
  opened := by
    intro hscripted
    obtain ⟨hscripted₁, hopened⟩ := h.opened hscripted
    obtain ⟨hscripted', hopened'⟩ := h'.opened hscripted₁
    have hle := h.next_le
    have hle' := h'.next_le
    refine ⟨hscripted', ?_⟩
    rw [List.filterMap_append, hopened, hopened']
    conv_lhs => rw [← Nat.add_sub_cancel' hle]
    rw [Nat.add_sub_cancel_left, List.range'_append_1]
    congr 1
    omega

/-- A single call that hands out nothing. -/
lemma single {c : SystemCall} (hlog : m'.log = m.log ++ [c])
    (hnext : m'.nextDescriptor = m.nextDescriptor) (hspends : c.Spends held held')
    (hopened : m.Scripted → m'.Scripted ∧ c.opened? = none) : m.Custody held [c] m' held' where
  log := hlog
  next_le := Nat.le_of_eq hnext.symm
  balance := by
    intro d
    have hclosed : [c].filterMap SystemCall.closed? = c.closed?.toList := by
      rw [List.filterMap_cons]
      cases c.closed? <;> rfl
    rw [if_neg (by omega), hclosed, hspends.perm.count_eq, List.count_append, Nat.add_zero]
  onHeld := by
    intro c' hc' d hd
    obtain rfl := List.mem_singleton.1 hc'
    exact .inl (hspends.onHeld d hd)
  spent := List.pairwise_singleton ..
  opened := by
    intro hscripted
    obtain ⟨hscripted', hnone⟩ := hopened hscripted
    rw [hnext, Nat.sub_self, List.filterMap_cons, hnone]
    exact ⟨hscripted', rfl⟩

/-- A single call that hands out a descriptor. -/
lemma opening {entry : Int → SystemCall} (hentry : SystemCall.HandsOut entry)
    (hlog : m'.log = m.log ++ [entry m.nextDescriptor])
    (hnext : m'.nextDescriptor = m.nextDescriptor + 1) (hscripted : m.Scripted → m'.Scripted) :
    m.Custody held [entry m.nextDescriptor] m' (m.nextDescriptor :: held) where
  log := hlog
  next_le := by
    rw [hnext]
    exact Nat.le_succ _
  balance := by
    intro d
    have hnew : m.nextDescriptor ≤ d ∧ d < m.nextDescriptor + 1 ↔ m.nextDescriptor = d := by
      omega
    rw [hnext, List.filterMap_cons, hentry.closed, List.filterMap_nil, List.count_nil,
      Nat.zero_add, List.count_cons]
    simp only [hnew, beq_iff_eq]
  onHeld := by
    intro c hc d hd
    obtain rfl := List.mem_singleton.1 hc
    rw [hentry.descriptor] at hd
    cases hd
  spent := List.pairwise_singleton ..
  opened := by
    intro h
    refine ⟨hscripted h, ?_⟩
    rw [hnext, Nat.add_sub_cancel_left, List.filterMap_cons, hentry.opened,
      if_pos (Int.natCast_nonneg _)]
    rfl

/-- The books by what the calls resulted in: what was held or has been opened is closed once or is
still held. -/
lemma count_opened (h : m.Custody held calls m' held') (hscripted : m.Scripted) (d : Nat) :
    held.count d + (calls.filterMap SystemCall.opened?).count d
      = (calls.filterMap SystemCall.closed?).count d + held'.count d := by
  have hnext := h.next_le
  rw [← h.balance, (h.opened hscripted).2]
  congr 1
  split
  · exact List.count_eq_one_of_mem List.nodup_range' (List.mem_range'_1.2 (by omega))
  · exact List.count_eq_zero_of_not_mem fun hmem => by
      have := List.mem_range'_1.1 hmem
      omega

/-- In which order descriptors are held makes no difference. -/
lemma of_perm {held₀ held₀' : List Nat} (h : m.Custody held calls m' held')
    (hperm : held₀.Perm held) (hperm' : held'.Perm held₀') :
    m.Custody held₀ calls m' held₀' where
  log := h.log
  next_le := h.next_le
  balance := by
    intro d
    rw [hperm.count_eq, ← hperm'.count_eq, h.balance]
  onHeld := by
    intro c hc d hd
    rw [hperm.mem_iff]
    exact h.onHeld c hc d hd
  spent := h.spent
  opened := h.opened

end Custody

end Machine

/-! ## What runs leave held -/

section

variable {ε δ α β : Type} {held refused halted : List Nat} {kept : α → List Nat}

/-- What is held after a run, by how it ended. -/
def Outcome.holding (kept : α → List Nat) (refused halted : List Nat) :
    Outcome ε Machine α → List Nat
  | .ok value _ => kept value
  | .refused _ _ => refused
  | .halted _ _ => halted

/-- What is held after an attempt at a run, by whether the run was refused. -/
def Except.holding (kept : α → List Nat) (refused : List Nat) : Except ε α → List Nat
  | .ok value => kept value
  | .error _ => refused

/-- A run takes over some descriptors, and the books balance with what it leaves held: what its
value keeps, or what is left if it is refused or halts. -/
def Run.Entrusts (held : List Nat) (run : Run ε Machine α) (kept : α → List Nat)
    (refused halted : List Nat) : Prop :=
  ∀ m : Machine, m.Holds held → ∃ calls,
    m.Custody held calls (run m).state ((run m).holding kept refused halted)

namespace Run.Entrusts

variable {run : Run ε Machine α}

lemma pure {value : α} (hkept : kept value = held) :
    Run.Entrusts (ε := ε) held (pure value) kept refused halted := by
  subst hkept
  exact fun m _ => ⟨[], .refl m _⟩

lemma refuse (cause : ε) : Run.Entrusts refused (Run.refuse cause) kept refused halted :=
  fun m _ => ⟨[], .refl m _⟩

lemma halt (fault : Fault) :
    Run.Entrusts (ε := ε) halted (Run.halt fault) kept refused halted :=
  fun m _ => ⟨[], .refl m _⟩

/-- The second run takes over what the first one left. -/
lemma bind {next : α → Run ε Machine β} {kept' : β → List Nat}
    (h : Run.Entrusts held run kept refused halted)
    (hnext : ∀ value, Run.Entrusts (kept value) (next value) kept' refused halted) :
    Run.Entrusts held (run >>= next) kept' refused halted := by
  intro m hm
  obtain ⟨calls, hfirst⟩ := h m hm
  rw [Run.bind_apply]
  cases hrun : run m with
  | ok value m₁ =>
    rw [hrun] at hfirst
    obtain ⟨calls', hsecond⟩ := hnext value m₁ (hfirst.holds hm)
    exact ⟨calls ++ calls', hfirst.trans hsecond hm⟩
  | refused cause m₁ =>
    rw [hrun] at hfirst
    exact ⟨calls, hfirst⟩
  | halted fault m₁ =>
    rw [hrun] at hfirst
    exact ⟨calls, hfirst⟩

/-- What a refusal leaves held is still held when the refusal has become a value. -/
lemma attempt {refused' : List Nat} (h : Run.Entrusts held run kept refused halted) :
    Run.Entrusts (ε := δ) held (Run.attempt run) (Except.holding kept refused)
      refused' halted := by
  intro m hm
  obtain ⟨calls, hrun⟩ := h m hm
  refine ⟨calls, ?_⟩
  unfold Run.attempt
  cases hend : run m <;> rw [hend] at hrun <;> exact hrun

lemma mapCause {restate : ε → δ} (h : Run.Entrusts held run kept refused halted) :
    Run.Entrusts held (Run.mapCause restate run) kept refused halted := by
  intro m hm
  obtain ⟨calls, hrun⟩ := h m hm
  refine ⟨calls, ?_⟩
  unfold Run.mapCause
  cases hend : run m <;> rw [hend] at hrun <;> exact hrun

/-- The last step of a run that halts takes over what it left. -/
lemma onHalt {last : Run ε Machine Unit} {halted' : List Nat}
    (h : Run.Entrusts held run kept refused halted')
    (hlast : Run.Entrusts halted' last (fun _ => halted) halted halted) :
    Run.Entrusts held (Run.onHalt last run) kept refused halted := by
  intro m hm
  obtain ⟨calls, hrun⟩ := h m hm
  unfold Run.onHalt
  cases hend : run m with
  | ok value m₁ =>
    rw [hend] at hrun
    exact ⟨calls, hrun⟩
  | refused cause m₁ =>
    rw [hend] at hrun
    exact ⟨calls, hrun⟩
  | halted fault m₁ =>
    rw [hend] at hrun
    obtain ⟨calls', hfinal⟩ := hlast m₁ (hrun.holds hm)
    refine ⟨calls ++ calls', hrun.trans ?_ hm⟩
    show m₁.Custody halted' calls' (last m₁).state halted
    cases hdone : last m₁ <;> rw [hdone] at hfinal <;> exact hfinal

/-- In which order descriptors are taken over makes no difference. -/
lemma of_perm {held' : List Nat} (h : Run.Entrusts held run kept refused halted)
    (hperm : held'.Perm held) : Run.Entrusts held' run kept refused halted := by
  intro m hm
  obtain ⟨calls, hrun⟩ := h m (hm.of_perm hperm)
  exact ⟨calls, hrun.of_perm hperm (.refl _)⟩

end Run.Entrusts

end

/-! ## Single calls -/

namespace Machine

variable {m : Machine} {held held' refused halted : List Nat} {name : CallName}
  {entry : Int → SystemCall}

/-- Taking an outcome makes no call, and takes nothing but an outcome to come. -/
lemma takeCode_keeps (m : Machine) (name : CallName) :
    (m.takeCode name).2.log = m.log ∧ (m.takeCode name).2.nextDescriptor = m.nextDescriptor
      ∧ (m.Scripted → (m.takeCode name).2.Scripted
        ∧ (name ∈ [CallName.openFile, .openSocket] → 0 ≤ (m.takeCode name).1)) := by
  unfold takeCode
  rcases hcodes : m.codes name with - | ⟨code, rest⟩
  · exact ⟨rfl, rfl, fun hscripted => ⟨hscripted, fun _ => Int.le_refl 0⟩⟩
  refine ⟨rfl, rfl, fun hscripted => ⟨?_, fun hname => ?_⟩⟩
  · intro other hother code' hcode'
    by_cases hsame : other = name
    · subst hsame
      simp only [if_true] at hcode'
      exact hscripted other hother code' (hcodes ▸ List.mem_cons_of_mem code hcode')
    · simp only [if_neg hsame] at hcode'
      exact hscripted other hother code' hcode'
  · exact hscripted name hname code (hcodes ▸ List.mem_cons_self)

/-- One call, whatever its result, that is made on what is held or closes some of it. -/
lemma call_entrusts (hspends : ∀ result, (entry result).Spends held held')
    (hopened : ∀ result, (entry result).opened? = none) :
    Run.Entrusts held (call name entry) (fun _ => held') held' halted := by
  intro m _
  obtain ⟨hlog, hnext, hkept⟩ := takeCode_keeps m name
  have hcustody : m.Custody held [entry (-(m.takeCode name).1)]
      { (m.takeCode name).2 with
        log := (m.takeCode name).2.log ++ [entry (-(m.takeCode name).1)] } held' :=
    .single (by rw [hlog]) hnext (hspends _) fun hscripted => ⟨(hkept hscripted).1, hopened _⟩
  refine ⟨[entry (-(m.takeCode name).1)], ?_⟩
  unfold call
  dsimp only
  split <;> exact hcustody

/-- A call for a descriptor leaves that descriptor held if it succeeds. -/
lemma callForDescriptor_entrusts (hname : name ∈ [CallName.openFile, .openSocket])
    (hentry : SystemCall.HandsOut entry) :
    Run.Entrusts held (callForDescriptor name entry) (· :: held) held halted := by
  intro m _
  obtain ⟨hlog, hnext, hkept⟩ := takeCode_keeps m name
  unfold callForDescriptor
  dsimp only
  by_cases hsuccess : (m.takeCode name).1 = 0
  · rw [if_pos hsuccess, hnext, hlog]
    exact ⟨_, .opening hentry rfl rfl fun hscripted => (hkept hscripted).1⟩
  · rw [if_neg hsuccess]
    refine ⟨[entry (-(m.takeCode name).1)], .single (by rw [← hlog]; rfl) hnext ?_ ?_⟩
    · exact .of_none (hentry.descriptor _) (hentry.closed _)
    · intro hscripted
      obtain ⟨hscripted', hcode⟩ := hkept hscripted
      have hfailed : (0 : Int) < (m.takeCode name).1 :=
        Int.lt_iff_le_and_ne.2 ⟨hcode hname, Ne.symm hsuccess⟩
      rw [hentry.opened, if_neg (by omega)]
      exact ⟨hscripted', rfl⟩

/-- Passing over interruptions hands out nothing. -/
lemma passInterruptions_entrusts {ε : Type} (hentry : SystemCall.HandsOut entry) :
    Run.Entrusts (ε := ε) held (passInterruptions .openFile entry) (fun _ => held) refused
      halted := by
  intro m _
  let tries := (m.codes .openFile).takeWhile (· == interruption)
  refine ⟨tries.map fun code : CallCode => entry (-code), .of_quiet rfl rfl ?_ ?_⟩
  · intro hscripted name hname code hcode
    have hcode : code ∈ if name = .openFile then
        (m.codes .openFile).dropWhile (· == interruption) else m.codes name := hcode
    split at hcode
    · next hopen =>
      subst hopen
      exact hscripted _ hname code ((List.dropWhile_sublist _).subset hcode)
    · exact hscripted _ hname code hcode
  · -- every try fails
    intro c hc
    obtain ⟨code, hcode, rfl⟩ := List.mem_map.1 hc
    have hcode : code = interruption := by
      simpa using List.all_eq_true.1 List.all_takeWhile code hcode
    refine ⟨?_, hentry.closed _, ?_⟩
    · intro d hd
      rw [hentry.descriptor] at hd
      cases hd
    · rw [hentry.opened, hcode]
      exact if_neg (by decide)

lemma openFile_entrusts (hentry : SystemCall.HandsOut entry) :
    Run.Entrusts held (openFile entry) (· :: held) held halted :=
  (passInterruptions_entrusts hentry).bind fun _ =>
    callForDescriptor_entrusts (by decide) hentry

/-- A descriptor that is closed is not held any more, whatever the call comes to. -/
lemma closeFile_entrusts {d : Nat} :
    Run.Entrusts (d :: held) (closeFile d) (fun _ => held) held halted := by
  refine call_entrusts (fun result => ⟨?_, .refl _⟩) fun _ => rfl
  intro d' hd'
  cases hd'
  exact List.mem_cons_self

lemma release_entrusts {ε : Type} {d : Nat} :
    Run.Entrusts (ε := ε) (d :: held) (release d) (fun _ => held) refused halted := by
  unfold release
  refine .bind (.attempt closeFile_entrusts) ?_
  rintro (_ | _)
  · exact .pure rfl
  · exact .pure rfl

end Machine

end Rtnetlink
