import Mathlib.Data.List.Basic
import Mathlib.Tactic.Common
import Rtnetlink.Os.Namespace
import Rtnetlink.Proofs.Runs

/-!
# What system calls do to the machine

A step on the machine finishes some calls, each of which takes an outcome of its name, and logs what
it called.  Both are kept together here, for every step that opens or makes something, so the end of
a longer step can be read off the outcomes that the machine had before it.

* `Machine.After`: a machine after some calls;
* `Machine.openFile_ends`: opening a file ends with the next outcome of that name that is no
  interruption, however often it was interrupted;
* `BoundSession.connect_ends`: opening a session fails at its first step that has no success to
  come.
-/

namespace Rtnetlink

/-- Whether a system call takes something away from the file tree. -/
def SystemCall.isRemoval : SystemCall → Bool
  | .removeFile .. | .unmount .. => true
  | _ => false

/-- How a step ends whose outcome is a code: with a value, or refused for a cause it tells. -/
def Outcome.ofCode {ε σ α : Type} (code : CallCode) (cause : CallCode → ε) (value : α) (s : σ) :
    Outcome ε σ α :=
  if code = 0 then .ok value s else .refused (cause code) s

namespace Outcome

variable {ε σ α : Type} {code : CallCode} {cause : CallCode → ε} {value : α} {s : σ}

lemma ofCode_of_success (h : code = 0) : ofCode code cause value s = .ok value s := if_pos h

lemma ofCode_of_failure (h : code ≠ 0) : ofCode code cause value s = .refused (cause code) s :=
  if_neg h

end Outcome

namespace Run

variable {ε δ σ α : Type} {code : CallCode} {cause : CallCode → ε} {value : α} {s s' : σ}
  {run : Run ε σ α}

lemma mapCause_ofCode (restate : ε → δ) (h : run s = Outcome.ofCode code cause value s') :
    mapCause restate run s = Outcome.ofCode code (restate ∘ cause) value s' := by
  unfold mapCause
  rw [h]
  by_cases hcode : code = 0
  · rw [Outcome.ofCode_of_success hcode, Outcome.ofCode_of_success hcode]
  · rw [Outcome.ofCode_of_failure hcode, Outcome.ofCode_of_failure hcode]
    rfl

/-- An attempt at a step whose outcome is a code is never refused. -/
lemma attempt_ofCode (h : run s = Outcome.ofCode code cause value s') :
    (attempt run : Run δ σ (Except ε α)) s
      = .ok (if code = 0 then .ok value else .error (cause code)) s' := by
  by_cases hcode : code = 0
  · rw [attempt_of_ok (h.trans (Outcome.ofCode_of_success hcode)), if_pos hcode]
  · rw [attempt_of_refused (h.trans (Outcome.ofCode_of_failure hcode)), if_neg hcode]

end Run

namespace Machine

variable {m m' m'' : Machine} {taken taken' : List CallName} {calls calls' : List SystemCall}
  {name : CallName} {entry : Int → SystemCall}

/-! ## Outcomes and what is left of them -/

/-- The outcomes that the calls of a name end with.  A call that opens a file does not end with an
interruption. -/
def outcomes (m : Machine) : CallName → List CallCode
  | .openFile => (m.codes .openFile).filter (· != interruption)
  | name => m.codes name

/-- The outcome of the `i`th call of a name that is finished from here on. -/
def outcome (m : Machine) (name : CallName) (i : Nat) : CallCode := (m.outcomes name).getD i 0

lemma outcomes_of_ne (h : name ≠ .openFile) : m.outcomes name = m.codes name := by
  cases name <;> first | rfl | exact absurd rfl h

lemma outcomes_congr (h : m'.codes = m.codes) : m'.outcomes name = m.outcomes name := by
  by_cases hname : name = .openFile
  · subst hname
    simp only [outcomes, h]
  · rw [outcomes_of_ne hname, outcomes_of_ne hname, h]

/-- A machine `m'` is the machine `m` after some calls: it has logged them, and each call that was
finished has taken an outcome of its name. -/
structure After (m : Machine) (taken : List CallName) (calls : List SystemCall)
    (m' : Machine) : Prop where
  /-- The calls were logged. -/
  log : m'.log = m.log ++ calls
  /-- What was taken is not to come any more. -/
  outcome : ∀ name i, m'.outcome name i = m.outcome name (taken.count name + i)

namespace After

lemma refl (m : Machine) : m.After [] [] m where
  log := (List.append_nil _).symm
  outcome name i := by rw [List.count_nil, Nat.zero_add]

lemma trans (h : m.After taken calls m') (h' : m'.After taken' calls' m'') :
    m.After (taken ++ taken') (calls ++ calls') m'' where
  log := by rw [h'.log, h.log, List.append_assoc]
  outcome name i := by rw [h'.outcome, h.outcome, List.count_append, Nat.add_assoc]

/-- Only what is to come and the log of a machine matter, and the log may become longer. -/
lemma logging (h : m.After taken calls m') (hcodes : m''.codes = m'.codes)
    (hlog : m''.log = m'.log ++ calls') : m.After taken (calls ++ calls') m'' where
  log := by rw [hlog, h.log, List.append_assoc]
  outcome name i := by rw [← h.outcome, Machine.outcome, outcomes_congr hcodes, Machine.outcome]

/-- A call of a name that has not been made yet ends as it would have done before. -/
lemma outcome_of_not_mem (h : m.After taken calls m') (hname : name ∉ taken) (i : Nat) :
    m'.outcome name i = m.outcome name i := by
  rw [h.outcome, List.count_eq_zero_of_not_mem hname, Nat.zero_add]

end After

/-! ## Single calls -/

lemma log_takeCode (m : Machine) (name : CallName) : (m.takeCode name).2.log = m.log := by
  unfold takeCode
  split <;> rfl

/-- A call takes the next outcome of its name.  A call that opens a file is finished by it if it is
no interruption. -/
lemma takeCode_takes (h : name = .openFile → (m.codes name).head? ≠ some interruption) :
    (m.takeCode name).1 = m.outcome name 0 ∧ m.After [name] [] (m.takeCode name).2 := by
  have hfirst : m.outcomes name = (m.takeCode name).1 :: (m.takeCode name).2.outcomes name
      ∨ (m.outcomes name = [] ∧ (m.takeCode name) = (0, m)) := by
    unfold takeCode
    rcases hcodes : m.codes name with _ | ⟨code, rest⟩
    · refine .inr ⟨?_, rfl⟩
      cases name <;> simp [outcomes, hcodes]
    · refine .inl ?_
      by_cases hname : name = .openFile
      · subst hname
        have hcode : code ≠ interruption := by simpa [hcodes] using h rfl
        simp [outcomes, hcodes, hcode]
      · rw [outcomes_of_ne hname, outcomes_of_ne hname, hcodes]
        simp
  have hothers : ∀ other, other ≠ name →
      (m.takeCode name).2.outcomes other = m.outcomes other := by
    intro other hother
    have hcodes : (m.takeCode name).2.codes other = m.codes other := by
      unfold takeCode
      split <;> simp [hother]
    by_cases hopen : other = .openFile
    · subst hopen
      simp only [outcomes, hcodes]
    · rw [outcomes_of_ne hopen, outcomes_of_ne hopen, hcodes]
  refine ⟨?_, by rw [log_takeCode, List.append_nil], fun other i => ?_⟩
  · rcases hfirst with hfirst | ⟨hnone, htaken⟩
    · simp [outcome, hfirst]
    · simp [outcome, hnone, htaken]
  · by_cases hother : other = name
    · subst hother
      rw [List.count_singleton_self, Nat.add_comm]
      rcases hfirst with hfirst | ⟨hnone, htaken⟩
      · simp [outcome, hfirst]
      · simp [outcome, hnone, htaken]
    · rw [List.count_eq_zero_of_not_mem (by simpa using hother), Nat.zero_add, outcome,
        hothers other hother, outcome]

lemma call_ends (m : Machine) (name : CallName) (entry : Int → SystemCall)
    (h : name ≠ .openFile) :
    ∃ m', m.After [name] [entry (-m.outcome name 0)] m'
      ∧ call name entry m = Outcome.ofCode (m.outcome name 0) id () m' := by
  obtain ⟨hcode, hafter⟩ := takeCode_takes (m := m) fun hopen => absurd hopen h
  refine ⟨{ (m.takeCode name).2 with
    log := (m.takeCode name).2.log ++ [entry (-m.outcome name 0)] }, hafter.logging rfl rfl, ?_⟩
  rw [← hcode]
  rfl

/-- A call for a descriptor logs the descriptor, or the number of its error. -/
lemma callForDescriptor_ends (m : Machine) (entry : Int → SystemCall)
    (h : name = .openFile → (m.codes name).head? ≠ some interruption) :
    ∃ m' descriptor result, m.After [name] [entry result] m'
      ∧ callForDescriptor name entry m = Outcome.ofCode (m.outcome name 0) id descriptor m' := by
  obtain ⟨hcode, hafter⟩ := takeCode_takes h
  unfold callForDescriptor
  simp only [hcode]
  by_cases hsuccess : m.outcome name 0 = 0
  · rw [if_pos hsuccess]
    refine ⟨_, _, (m.takeCode name).2.nextDescriptor, ?_, (if_pos hsuccess).symm⟩
    exact hafter.logging rfl rfl
  · rw [if_neg hsuccess]
    refine ⟨_, 0, -m.outcome name 0, ?_, (if_neg hsuccess).symm⟩
    exact hafter.logging rfl rfl

/-- Passing over interruptions leaves the outcomes of finished calls as they are, and the next one
is no interruption. -/
lemma passInterruptions_ends {ε : Type} (m : Machine) (entry : Int → SystemCall) :
    ∃ m' tries, m.After [] (List.map (fun code : CallCode => entry (-code)) tries) m'
      ∧ (m'.codes .openFile).head? ≠ some interruption
      ∧ (passInterruptions .openFile entry : Run ε Machine Unit) m = .ok () m' := by
  refine ⟨_, (m.codes .openFile).takeWhile (· == interruption), ⟨rfl, fun name i => ?_⟩, ?_, rfl⟩
  · rw [List.count_nil, Nat.zero_add, outcome, outcome]
    by_cases hname : name = .openFile
    · subst hname
      have hsplit := List.takeWhile_append_dropWhile (p := (· == interruption))
        (l := m.codes .openFile)
      have htries : ((m.codes .openFile).takeWhile (· == interruption)).filter
          (· != interruption) = [] := by
        rw [List.filter_eq_nil_iff]
        intro code hcode
        simpa using (List.all_eq_true.1 (List.all_takeWhile) code hcode)
      congr 1
      simp only [outcomes, if_true]
      conv_rhs => rw [← hsplit]
      rw [List.filter_append, htries, List.nil_append]
    · rw [outcomes_of_ne hname, outcomes_of_ne hname]
      simp [hname]
  · intro hhead
    have := List.head?_dropWhile_not (· == interruption) (m.codes .openFile)
    simp only [if_true] at hhead
    rw [hhead] at this
    simp at this

/-- Opening a file ends with the next outcome that is no interruption.  What it calls are only tries
to open the file. -/
theorem openFile_ends (m : Machine) (entry : Int → SystemCall) :
    ∃ m' descriptor calls, m.After [.openFile] calls m'
      ∧ (∀ c ∈ calls, ∃ result, c = entry result)
      ∧ openFile entry m = Outcome.ofCode (m.outcome .openFile 0) id descriptor m' := by
  obtain ⟨passed, tries, hpassed, hhead, hrun⟩ := passInterruptions_ends (ε := CallCode) m entry
  obtain ⟨m', descriptor, result, hafter, hend⟩ :=
    callForDescriptor_ends passed entry fun _ => hhead
  rw [hpassed.outcome_of_not_mem List.not_mem_nil] at hend
  refine ⟨m', descriptor, _, hpassed.trans hafter, ?_, ?_⟩
  · intro c hc
    rcases List.mem_append.1 hc with htry | hlast
    · obtain ⟨code, -, rfl⟩ := List.mem_map.1 htry
      exact ⟨_, rfl⟩
    · exact ⟨result, List.mem_singleton.1 hlast⟩
  · unfold openFile
    rw [Run.bind_of_ok hrun, hend]

/-! ## The steps that change the machine -/

variable {path : String}

lemma recognized_ends {α : Type} {run : Calling α} {code : CallCode} {value : α}
    (h : run m = Outcome.ofCode code id value m') :
    recognized run m = Outcome.ofCode code Errno.ofNumber value m' :=
  Run.mapCause_ofCode _ h

lemma withFile_ends {α : Type} {run : Calling α} {code : CallCode} {value : α}
    (hpath : isPath path = true) (h : run m = Outcome.ofCode code id value m') :
    withFile path run m = Outcome.ofCode code FileError.os value m' := by
  unfold withFile
  rw [if_pos hpath]
  exact Run.mapCause_ofCode _ h

/-- A file is not even asked for at a path that cannot be handed on. -/
lemma withFile_of_not_isPath {α : Type} (run : Calling α) (hpath : ¬ isPath path = true)
    (m : Machine) : withFile path run m = .refused badPath m := by
  unfold withFile
  rw [if_neg hpath]
  rfl

lemma withPath_ends {α : Type} {run : Calling α} {code : CallCode} {value : α}
    (hpath : isPath path = true) (h : run m = Outcome.ofCode code id value m') :
    withPath path run m = Outcome.ofCode code Errno.ofNumber value m' := by
  unfold withPath
  rw [if_pos hpath]
  exact recognized_ends h

/-- Letting go of a descriptor succeeds, whatever the call that closes it comes to. -/
lemma release_ends {ε : Type} (m : Machine) (descriptor : Nat) :
    ∃ m', m.After [.closeFile] [.closeFile descriptor (-m.outcome .closeFile 0)] m'
      ∧ (release descriptor : Run ε Machine Unit) m = .ok () m' := by
  obtain ⟨m', hafter, hend⟩ := call_ends m .closeFile (.closeFile descriptor) (by decide)
  refine ⟨m', hafter, ?_⟩
  unfold release closeFile
  rw [Run.bind_of_ok (Run.attempt_ofCode hend), Run.pure_apply]

lemma enterNamespace_ends (m : Machine) (descriptor : Nat) :
    ∃ m', m.After [.enterNamespace]
        [.enterNamespace descriptor networkNamespace (-m.outcome .enterNamespace 0)] m'
      ∧ enterNamespace descriptor m
        = Outcome.ofCode (m.outcome .enterNamespace 0) Errno.ofNumber () m' := by
  obtain ⟨m', hafter, hend⟩ := call_ends m .enterNamespace _ (by decide)
  exact ⟨m', hafter, recognized_ends hend⟩

lemma newNamespace_ends (m : Machine) :
    ∃ m', m.After [.newNamespace] [.newNamespace networkNamespace (-m.outcome .newNamespace 0)] m'
      ∧ newNamespace m = Outcome.ofCode (m.outcome .newNamespace 0) Errno.ofNumber () m' := by
  obtain ⟨m', hafter, hend⟩ := call_ends m .newNamespace _ (by decide)
  exact ⟨m', hafter, recognized_ends hend⟩

lemma bindMount_ends (m : Machine) (source : String) (hpath : isPath path = true) :
    ∃ m', m.After [.mount]
        [.mount (some source) path (some "none") 0x1000 none (-m.outcome .mount 0)] m'
      ∧ bindMount source path m = Outcome.ofCode (m.outcome .mount 0) Errno.ofNumber () m' := by
  obtain ⟨m', hafter, hend⟩ :=
    call_ends m .mount (.mount (some source) path (some "none") 0x1000 none) (by decide)
  exact ⟨m', hafter, withPath_ends hpath hend⟩

lemma unmount_ends (m : Machine) (hpath : isPath path = true) :
    ∃ m', m.After [.unmount] [.unmount path 2 (-m.outcome .unmount 0)] m'
      ∧ unmount path m = Outcome.ofCode (m.outcome .unmount 0) Errno.ofNumber () m' := by
  obtain ⟨m', hafter, hend⟩ := call_ends m .unmount (.unmount path 2) (by decide)
  exact ⟨m', hafter, withPath_ends hpath hend⟩

lemma removeFile_ends (m : Machine) (hpath : isPath path = true) :
    ∃ m', m.After [.removeFile] [.removeFile path (-m.outcome .removeFile 0)] m'
      ∧ removeFile path m = Outcome.ofCode (m.outcome .removeFile 0) FileError.os () m' := by
  obtain ⟨m', hafter, hend⟩ := call_ends m .removeFile (.removeFile path) (by decide)
  exact ⟨m', hafter, withFile_ends hpath hend⟩

lemma openForReading_ends (m : Machine) (hpath : isPath path = true) :
    ∃ m' descriptor calls, m.After [.openFile] calls m'
      ∧ (∀ c ∈ calls, ∃ result, c = .openFile path closeOnExec none result)
      ∧ openForReading path m
        = Outcome.ofCode (m.outcome .openFile 0) FileError.os descriptor m' := by
  obtain ⟨m', descriptor, calls, hafter, hcalls, hend⟩ := openFile_ends m _
  exact ⟨m', descriptor, calls, hafter, hcalls, withFile_ends hpath hend⟩

lemma openForCreating_ends (m : Machine) (mustBeNew : Bool) (hpath : isPath path = true) :
    ∃ m' descriptor calls flags, m.After [.openFile] calls m'
      ∧ (∀ c ∈ calls, ∃ result, c = .openFile path flags (some 0o444) result)
      ∧ openForCreating path mustBeNew m
        = Outcome.ofCode (m.outcome .openFile 0) FileError.os descriptor m' := by
  obtain ⟨m', descriptor, calls, hafter, hcalls, hend⟩ := openFile_ends m _
  exact ⟨m', descriptor, calls, _, hafter, hcalls, withFile_ends hpath hend⟩

/-! ## Sockets -/

lemma openRoutingSocket_ends (m : Machine) :
    ∃ m' descriptor result,
      m.After [.openSocket] [.openSocket routingFamily (closeOnExec + 3) 0 result] m'
      ∧ openRoutingSocket m
        = Outcome.ofCode (m.outcome .openSocket 0) Errno.ofNumber descriptor m' := by
  obtain ⟨m', descriptor, result, hafter, hend⟩ :=
    callForDescriptor_ends m (.openSocket routingFamily (closeOnExec + 3) 0)
      (fun h => absurd h (by decide : ¬ CallName.openSocket = .openFile))
  exact ⟨m', descriptor, result, hafter, recognized_ends hend⟩

lemma bindSocket_ends (m : Machine) (socket : Nat) :
    ∃ m', m.After [.bindSocket]
        [.bindSocket socket routingFamily 0 0 (-m.outcome .bindSocket 0)] m'
      ∧ bindSocket socket m = Outcome.ofCode (m.outcome .bindSocket 0) Errno.ofNumber () m' := by
  obtain ⟨m', hafter, hend⟩ := call_ends m .bindSocket _ (by decide)
  exact ⟨m', hafter, recognized_ends hend⟩

lemma socketPortId_ends (m : Machine) (socket : Nat) :
    ∃ m' portId, m.After [.socketName] [.socketName socket (-m.outcome .socketName 0)] m'
      ∧ socketPortId socket m
        = Outcome.ofCode (m.outcome .socketName 0) Errno.ofNumber portId m' := by
  obtain ⟨portId, taken, htaking, hcodes, hlog⟩ : ∃ portId m₁, takePortId m = .ok portId m₁
      ∧ m₁.codes = m.codes ∧ m₁.log = m.log := by
    unfold takePortId
    split <;> exact ⟨_, _, rfl, rfl, rfl⟩
  obtain ⟨m', hafter, hend⟩ := call_ends taken .socketName (.socketName socket) (by decide)
  have htaken : m.After [] [] taken :=
    (After.refl m).logging hcodes (hlog.trans (List.append_nil _).symm)
  rw [htaken.outcome_of_not_mem List.not_mem_nil] at hafter hend
  refine ⟨m', portId, htaken.trans hafter, recognized_ends ?_⟩
  rw [Run.bind_of_ok htaking]
  by_cases hcode : m.outcome .socketName 0 = 0
  · rw [Run.bind_of_ok (hend.trans (Outcome.ofCode_of_success hcode)),
      Outcome.ofCode_of_success hcode, Run.pure_apply]
  · rw [Run.bind_of_refused (hend.trans (Outcome.ofCode_of_failure hcode)),
      Outcome.ofCode_of_failure hcode]

end Machine

/-- The call that a setup step makes. -/
def SetupStep.callName : SetupStep → CallName
  | .socket => .openSocket
  | .bind => .bindSocket
  | .portName => .socketName

namespace BoundSession

open Machine

/-- The first step of opening a session that will fail, with the outcome of its call. -/
def setupFailure? (m : Machine) : Option (SetupStep × CallCode) :=
  [SetupStep.socket, .bind, .portName].findSome? fun step =>
    if m.outcome step.callName 0 = 0 then none else some (step, m.outcome step.callName 0)

/-- The calls that opening a session may make. -/
def setupCalls : List CallName := [.openSocket, .bindSocket, .socketName, .closeFile]

/-- A failed socket is let go of, and the error is that of the step that failed. -/
lemma refuse_after_release {m m' : Machine} {taken : List CallName} {calls : List SystemCall}
    (h : m.After taken calls m') (socket : Nat) (cause : SessionError) :
    ∃ m'' r, m.After (taken ++ [.closeFile]) (calls ++ [.closeFile socket r]) m''
      ∧ (do Machine.release socket; Run.refuse cause : Run SessionError Machine BoundSession) m'
        = .refused cause m'' := by
  obtain ⟨m'', hafter, hend⟩ := release_ends (ε := SessionError) m' socket
  refine ⟨m'', _, h.trans hafter, ?_⟩
  rw [Run.bind_of_ok hend, Run.refuse_apply]

/-- Opening a session fails at the first setup step that has no success to come, with the error of
that step. -/
theorem connect_ends (m : Machine) (options : SessionOptions) :
    ∃ m' taken calls, m.After taken calls m' ∧ (∀ name ∈ taken, name ∈ setupCalls)
      ∧ (∀ c ∈ calls, c.isRemoval = false)
      ∧ match setupFailure? m with
        | some (step, code) => connect options m = .refused (.setup step (.ofNumber code)) m'
        | none =>
          if Size.greatest < options.sendBufferSize then connect options m = .halted .tooLarge m'
          else ∃ b, connect options m = .ok b m' := by
  obtain ⟨m₁, socket, r₁, hafter₁, hend⟩ := openRoutingSocket_ends m
  have hopen := Run.mapCause_ofCode (SessionError.setup .socket) hend
  unfold connect
  by_cases hsocket : m.outcome .openSocket 0 = 0
  swap
  · refine ⟨m₁, _, _, hafter₁, by decide, by simp [SystemCall.isRemoval], ?_⟩
    have hfailure : setupFailure? m = some (.socket, m.outcome .openSocket 0) := by
      simp [setupFailure?, SetupStep.callName, hsocket]
    rw [hfailure]
    exact Run.bind_of_refused (hopen.trans (Outcome.ofCode_of_failure hsocket)) _
  rw [Run.bind_of_ok (hopen.trans (Outcome.ofCode_of_success hsocket))]
  obtain ⟨m₂, hafter₂, hend⟩ := bindSocket_ends m₁ socket
  rw [hafter₁.outcome_of_not_mem (by decide)] at hafter₂ hend
  have hafter₂ := hafter₁.trans hafter₂
  rw [Run.bind_of_ok (Run.attempt_ofCode hend)]
  by_cases hbind : m.outcome .bindSocket 0 = 0
  swap
  · obtain ⟨m₃, r₃, hafter₃, hend⟩ := refuse_after_release hafter₂ socket
      (.setup .bind (.ofNumber (m.outcome .bindSocket 0)))
    refine ⟨m₃, _, _, hafter₃, by decide, by simp [SystemCall.isRemoval], ?_⟩
    have hfailure : setupFailure? m = some (.bind, m.outcome .bindSocket 0) := by
      simp [setupFailure?, SetupStep.callName, hsocket, hbind]
    rw [hfailure, if_neg hbind]
    exact hend
  rw [if_pos hbind]
  dsimp only
  obtain ⟨m₃, portId, hafter₃, hend⟩ := socketPortId_ends m₂ socket
  rw [hafter₂.outcome_of_not_mem (by decide)] at hafter₃ hend
  have hafter₃ := hafter₂.trans hafter₃
  rw [Run.bind_of_ok (Run.attempt_ofCode hend)]
  by_cases hport : m.outcome .socketName 0 = 0
  swap
  · obtain ⟨m₄, r₄, hafter₄, hend⟩ := refuse_after_release hafter₃ socket
      (.setup .portName (.ofNumber (m.outcome .socketName 0)))
    refine ⟨m₄, _, _, hafter₄, by decide, by simp [SystemCall.isRemoval], ?_⟩
    have hfailure : setupFailure? m = some (.portName, m.outcome .socketName 0) := by
      simp [setupFailure?, SetupStep.callName, hsocket, hbind, hport]
    rw [hfailure, if_neg hport]
    exact hend
  have hnone : setupFailure? m = none := by
    simp [setupFailure?, SetupStep.callName, hsocket, hbind, hport]
  simp only [if_pos hport, hnone, Session.ofChannel?, Arena.ofCapacity?]
  by_cases hlarge : Size.greatest < options.sendBufferSize
  · simp only [if_pos hlarge, Option.map_none]
    obtain ⟨m₄, hafter₄, hend⟩ := release_ends (ε := SessionError) m₃ socket
    refine ⟨m₄, _, _, hafter₃.trans hafter₄, by decide, by simp [SystemCall.isRemoval], ?_⟩
    rw [Run.bind_of_ok hend, Run.halt_apply]
  · simp only [if_neg hlarge, Option.map_some]
    exact ⟨m₃, _, _, hafter₃, by decide, by simp [SystemCall.isRemoval], _, rfl⟩

end BoundSession

end Rtnetlink
