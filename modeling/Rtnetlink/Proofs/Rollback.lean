import Rtnetlink.Proofs.SystemCalls

/-!
# A failed opening is taken back step by step

Opening a namespace is a row of steps, each of which may fail, and what has to be undone depends on
how far it came: nothing for a file that was there already or could not be created, the file once
it was created, and the mount, then the file, once the namespace was bound to it.  Undoing may fail
as well, which stops it but does not change the error of the opening.

How the steps end is read off the outcomes that a machine has to come.

* `OpeningStep.undoing`: what is taken back when a step fails;
* `NetworkNamespace.openOrMake_takes_back`: exactly that is taken back, and the error is that of the
  step that failed.
-/

namespace Rtnetlink

/-- The steps of opening a namespace that can fail. -/
inductive OpeningStep where
  /-- Going into the namespace of a file that was there. -/
  | enter
  /-- Creating the file. -/
  | create
  /-- Moving into a new namespace. -/
  | isolate
  /-- Binding the namespace to the file. -/
  | bindFile
  /-- Opening the file that the namespace was bound to. -/
  | reopen
  /-- A step of opening the session. -/
  | connect (step : SetupStep)
deriving DecidableEq, Repr

namespace OpeningStep

open Machine

/-- The error of a file at a path whose opening has this outcome, if it is one. -/
def fileError? (path : String) (code : CallCode) : Option ConfigError :=
  if isPath path = false then some (.file badPath)
  else if code = 0 then none else some (.file (.os code))

/-- The error of a call with this outcome, if it is one. -/
def callError? (code : CallCode) : Option ConfigError :=
  if code = 0 then none else some (.call (.ofNumber code))

/-- The error of a setup step with this outcome, if it is one. -/
def setupError? (step : SetupStep) (code : CallCode) : Option ConfigError :=
  if code = 0 then none else some (.session (.setup step (.ofNumber code)))

/-- The error that a step ends with, if it fails.  The file is created by the open call with index
`first`. -/
def error? (path : String) (first : Nat) (m : Machine) : OpeningStep → Option ConfigError
  | .enter => callError? (m.outcome .enterNamespace 0)
  | .create => fileError? path (m.outcome .openFile first)
  | .isolate => callError? (m.outcome .newNamespace 0)
  | .bindFile => callError? (m.outcome .mount 0)
  | .reopen => fileError? path (m.outcome .openFile (first + 1))
  | .connect step => setupError? step (m.outcome step.callName 0)

/-- The first of some steps that fails, with its error. -/
def failure? (path : String) (first : Nat) (m : Machine) (steps : List OpeningStep) :
    Option (OpeningStep × ConfigError) :=
  steps.findSome? fun step => (step.error? path first m).map (step, ·)

/-- The steps that make a namespace. -/
def making : List OpeningStep := [.create, .isolate, .bindFile, .reopen]

/-- The steps that open a session. -/
def connecting : List OpeningStep := [.connect .socket, .connect .bind, .connect .portName]

/-- The call that removes the file. -/
def removal (path : String) (m : Machine) : SystemCall :=
  .removeFile path (-m.outcome .removeFile 0)

/-- The calls that unmount the namespace and, if that succeeds, remove its file. -/
def unbinding (path : String) (m : Machine) : List SystemCall :=
  .unmount path 2 (-m.outcome .unmount 0)
    :: if m.outcome .unmount 0 = 0 then [removal path m] else []

/-- What is taken back when a step fails.  Nothing is if the file was there before. -/
def undoing (path : String) (existing : Bool) (m : Machine) : OpeningStep → List SystemCall
  | .enter | .create => []
  | .isolate | .bindFile => [removal path m]
  | .reopen | .connect _ => if existing then [] else unbinding path m

end OpeningStep

namespace Machine

/-- Whether an opening finds the file of a namespace; an exclusive one does not look for it. -/
def findsFile (m : Machine) (path : String) (exclusive : Bool) : Bool :=
  !exclusive && isPath path && m.outcome .openFile 0 == 0

/-- The steps of an opening. -/
def openingSteps (m : Machine) (path : String) (exclusive : Bool) : List OpeningStep :=
  (if m.findsFile path exclusive then [.enter] else OpeningStep.making) ++ OpeningStep.connecting

/-- The step at which an opening fails, with its error. -/
def openingFailure? (m : Machine) (path : String) (exclusive : Bool) :
    Option (OpeningStep × ConfigError) :=
  OpeningStep.failure? path (if exclusive then 0 else 1) m (m.openingSteps path exclusive)

end Machine

namespace NetworkNamespace

open Machine OpeningStep

variable {m m' : Machine} {path : String} {taken : List CallName} {calls : List SystemCall}

/-- Tries to open a file take nothing away. -/
lemma filter_isRemoval_of_opens {flags : Nat} {mode : Option Nat}
    (h : ∀ c ∈ calls, ∃ result, c = .openFile path flags mode result) :
    calls.filter SystemCall.isRemoval = [] := by
  rw [List.filter_eq_nil_iff]
  intro c hc
  obtain ⟨result, rfl⟩ := h c hc
  exact Bool.false_ne_true

/-- The file is removed, and the error that made this necessary is the result. -/
lemma refuse_after_discard (h : m.After taken calls m') (hpath : isPath path = true)
    (htaken : .removeFile ∉ taken) (cause : ConfigError) :
    ∃ m'' taken', m.After taken' (calls ++ [removal path m]) m''
      ∧ (do discard path; Run.refuse cause : Administering Unit) m' = .refused cause m'' := by
  obtain ⟨m'', hafter, hend⟩ := removeFile_ends m' hpath
  rw [h.outcome_of_not_mem htaken] at hafter
  refine ⟨m'', _, h.trans hafter, ?_⟩
  have hdiscard : discard path m' = .ok () m'' := by
    unfold discard
    rw [Run.bind_of_ok (Run.attempt_ofCode hend), Run.pure_apply]
  rw [Run.bind_of_ok hdiscard, Run.refuse_apply]

/-- The namespace is unmounted and, if that succeeds, its file is removed. -/
lemma rollback_ends (h : m.After taken calls m') (hpath : isPath path = true)
    (hunmount : .unmount ∉ taken) (hremove : .removeFile ∉ taken) :
    ∃ m'' taken', m.After taken' (calls ++ unbinding path m) m''
      ∧ rollback path m' = .ok () m'' := by
  obtain ⟨m₁, hafter, hend⟩ := unmount_ends m' hpath
  rw [h.outcome_of_not_mem hunmount] at hafter hend
  have hunmounted := h.trans hafter
  have hfirst := Run.mapCause_ofCode ConfigError.call hend
  unfold rollback remove unbinding
  by_cases hcode : m.outcome .unmount 0 = 0
  · obtain ⟨m₂, hafter₂, hend⟩ := removeFile_ends m₁ hpath
    rw [hunmounted.outcome_of_not_mem (by simp [hremove])] at hafter₂ hend
    have hsecond := Run.mapCause_ofCode ConfigError.file hend
    have hboth := Run.bind_of_ok (hfirst.trans (Outcome.ofCode_of_success hcode))
      (fun _ => Run.mapCause .file (Machine.removeFile path))
    refine ⟨m₂, taken ++ [.unmount] ++ [.removeFile], ?_, ?_⟩
    · rw [if_pos hcode]
      simpa [removal] using hunmounted.trans hafter₂
    · rw [Run.bind_of_ok (Run.attempt_ofCode (hboth.trans hsecond)), Run.pure_apply]
  · have hstop := Run.bind_of_refused (hfirst.trans (Outcome.ofCode_of_failure hcode))
      (fun _ => Run.mapCause .file (Machine.removeFile path))
    refine ⟨m₁, taken ++ [.unmount], ?_, ?_⟩
    · rw [if_neg hcode]
      exact hunmounted
    · rw [Run.bind_of_ok (Run.attempt_of_refused hstop), Run.pure_apply]

lemma filter_isRemoval_unbinding :
    (unbinding path m).filter SystemCall.isRemoval = unbinding path m := by
  unfold unbinding
  split <;> rfl

lemma failure?_append {first : Nat} (steps rest : List OpeningStep) :
    failure? path first m (steps ++ rest)
      = (failure? path first m steps).or (failure? path first m rest) :=
  List.findSome?_append

/-- Creating the file of a namespace ends at the first step that fails. -/
lemma create_ends (m : Machine) (path : String) (exclusive : Bool) :
    ∃ m' taken calls, m.After taken calls m'
      ∧ match failure? path 0 m [.create, .isolate, .bindFile] with
        | some (step, cause) =>
          create path exclusive m = .refused cause m'
            ∧ calls.filter SystemCall.isRemoval = step.undoing path false m
        | none =>
          create path exclusive m = .ok () m' ∧ calls.filter SystemCall.isRemoval = []
            ∧ isPath path = true ∧ taken = [.openFile, .closeFile, .newNamespace, .mount] := by
  unfold create
  by_cases hpath : isPath path = true
  swap
  · -- the file is not even asked for
    have hfailure : failure? path 0 m [.create, .isolate, .bindFile]
        = some (.create, .file badPath) := by
      simp [failure?, error?, fileError?, hpath]
    rw [hfailure]
    have hopen : Run.mapCause ConfigError.file (openForCreating path exclusive) m
        = .refused (.file badPath) m := by
      unfold Run.mapCause
      rw [show openForCreating path exclusive m = _ from withFile_of_not_isPath _ hpath m]
    exact ⟨m, [], [], .refl m, Run.bind_of_refused hopen _, rfl⟩
  obtain ⟨m₁, file, opens, flags, hafter, hopens, hend⟩ := openForCreating_ends m exclusive hpath
  have hopen := Run.mapCause_ofCode ConfigError.file hend
  have hkept := filter_isRemoval_of_opens hopens
  by_cases hcreate : m.outcome .openFile 0 = 0
  swap
  · have hfailure : failure? path 0 m [.create, .isolate, .bindFile]
        = some (.create, .file (.os (m.outcome .openFile 0))) := by
      simp [failure?, error?, fileError?, hpath, hcreate]
    rw [hfailure]
    exact ⟨m₁, _, _, hafter,
      Run.bind_of_refused (hopen.trans (Outcome.ofCode_of_failure hcreate)) _, hkept⟩
  rw [Run.bind_of_ok (hopen.trans (Outcome.ofCode_of_success hcreate))]
  obtain ⟨m₂, hclose, hend⟩ := release_ends (ε := ConfigError) m₁ file
  have hafter := hafter.trans hclose
  rw [Run.bind_of_ok hend]
  obtain ⟨m₃, hnew, hend⟩ := newNamespace_ends m₂
  rw [hafter.outcome_of_not_mem (by decide)] at hnew hend
  have hafter := hafter.trans hnew
  rw [Run.bind_of_ok (Run.attempt_ofCode hend)]
  by_cases hisolate : m.outcome .newNamespace 0 = 0
  swap
  · have hfailure : failure? path 0 m [.create, .isolate, .bindFile]
        = some (.isolate, .call (.ofNumber (m.outcome .newNamespace 0))) := by
      simp [failure?, error?, fileError?, callError?, hpath, hcreate, hisolate]
    obtain ⟨m₄, taken, hafter, hend⟩ := refuse_after_discard hafter hpath (by decide)
      (.call (.ofNumber (m.outcome .newNamespace 0)))
    rw [hfailure, if_neg hisolate]
    refine ⟨m₄, taken, _, hafter, hend, ?_⟩
    simp [hkept, undoing, removal, SystemCall.isRemoval]
  obtain ⟨m₄, hmount, hend⟩ := bindMount_ends m₃ ownPath hpath
  rw [hafter.outcome_of_not_mem (by decide)] at hmount hend
  have hafter := hafter.trans hmount
  rw [if_pos hisolate]
  dsimp only
  rw [Run.bind_of_ok (Run.attempt_ofCode hend)]
  by_cases hbind : m.outcome .mount 0 = 0
  swap
  · have hfailure : failure? path 0 m [.create, .isolate, .bindFile]
        = some (.bindFile, .call (.ofNumber (m.outcome .mount 0))) := by
      simp [failure?, error?, fileError?, callError?, hpath, hcreate, hisolate, hbind]
    obtain ⟨m₅, taken, hafter, hend⟩ := refuse_after_discard hafter hpath (by decide)
      (.call (.ofNumber (m.outcome .mount 0)))
    rw [hfailure, if_neg hbind]
    refine ⟨m₅, taken, _, hafter, hend, ?_⟩
    simp [hkept, undoing, removal, SystemCall.isRemoval]
  have hfailure : failure? path 0 m [.create, .isolate, .bindFile] = none := by
    simp [failure?, error?, fileError?, callError?, hpath, hcreate, hisolate, hbind]
  rw [hfailure, if_pos hbind]
  refine ⟨m₄, _, _, hafter, rfl, ?_, hpath, rfl⟩
  simp [hkept, SystemCall.isRemoval]

/-- Making a namespace ends at the first step that fails. -/
lemma make_ends (m : Machine) (path : String) (exclusive : Bool) :
    ∃ m' taken calls, m.After taken calls m'
      ∧ match failure? path 0 m making with
        | some (step, cause) =>
          make path exclusive m = .refused cause m'
            ∧ calls.filter SystemCall.isRemoval = step.undoing path false m
        | none =>
          (∃ file, make path exclusive m = .ok file m') ∧ calls.filter SystemCall.isRemoval = []
            ∧ isPath path = true
            ∧ taken = [.openFile, .closeFile, .newNamespace, .mount, .openFile] := by
  obtain ⟨m₁, taken, calls, hafter, hends⟩ := create_ends m path exclusive
  have hsteps : failure? path 0 m making
      = (failure? path 0 m [.create, .isolate, .bindFile]).or (failure? path 0 m [.reopen]) :=
    failure?_append [.create, .isolate, .bindFile] [.reopen]
  rw [hsteps]
  unfold make
  rcases hfailure : failure? path 0 m [.create, .isolate, .bindFile] with - | ⟨step, cause⟩
  swap
  · rw [hfailure] at hends
    obtain ⟨hend, hundone⟩ := hends
    exact ⟨m₁, taken, calls, hafter, Run.bind_of_refused hend _, hundone⟩
  rw [hfailure] at hends
  obtain ⟨hend, hkept, hpath, rfl⟩ := hends
  rw [Run.bind_of_ok hend, Option.none_or]
  obtain ⟨m₂, file, opens, hafter₂, hopens, hend⟩ := openForReading_ends m₁ hpath
  have hsecond : m₁.outcome .openFile 0 = m.outcome .openFile 1 := hafter.outcome _ _
  rw [hsecond] at hend
  have hafter := hafter.trans hafter₂
  rw [Run.bind_of_ok (Run.attempt_ofCode hend)]
  have hkept : (calls ++ opens).filter SystemCall.isRemoval = [] := by
    rw [List.filter_append, hkept, filter_isRemoval_of_opens hopens, List.nil_append]
  by_cases hreopen : m.outcome .openFile 1 = 0
  · have hnone : failure? path 0 m [.reopen] = none := by
      simp [failure?, error?, fileError?, hpath, hreopen]
    rw [hnone, if_pos hreopen]
    exact ⟨m₂, _, _, hafter, ⟨file, rfl⟩, hkept, hpath, rfl⟩
  · have hsome : failure? path 0 m [.reopen]
        = some (.reopen, .file (.os (m.outcome .openFile 1))) := by
      simp [failure?, error?, fileError?, hpath, hreopen]
    obtain ⟨m₃, taken, hafter, hend⟩ := rollback_ends hafter hpath (by decide) (by decide)
    rw [hsome, if_neg hreopen]
    refine ⟨m₃, taken, _, hafter, ?_, ?_⟩
    · dsimp only
      rw [Run.bind_of_ok hend, Run.refuse_apply]
    · rw [List.filter_append, hkept, filter_isRemoval_unbinding, List.nil_append]
      rfl

/-- The setup step that fails is the step of the opening that fails. -/
lemma failure?_connecting (m : Machine) (path : String) (first : Nat) :
    failure? path first m connecting = (BoundSession.setupFailure? m).map fun (step, code) =>
      (.connect step, .session (.setup step (.ofNumber code))) := by
  by_cases hsocket : m.outcome .openSocket 0 = 0 <;>
    by_cases hbind : m.outcome .bindSocket 0 = 0 <;>
      by_cases hport : m.outcome .socketName 0 = 0 <;>
        simp [failure?, connecting, error?, setupError?, BoundSession.setupFailure?,
          SetupStep.callName, hsocket, hbind, hport]

/-- How an opening ends that has made these calls and can fail at one place: there it is refused
with the error of the step, and what has to be taken back for the step is all that was taken away.
Otherwise nothing is, and it succeeds if there is storage for its session. -/
def OpensTo (o : NamespaceOptions) (failure? : Option (OpeningStep × ConfigError))
    (undoing : OpeningStep → List SystemCall) (calls : List SystemCall) :
    Outcome ConfigError Machine NetworkNamespace → Prop
  | .ok _ _ =>
    failure? = none ∧ o.session.sendBufferSize ≤ Size.greatest
      ∧ calls.filter SystemCall.isRemoval = []
  | .refused cause _ =>
    ∃ step, failure? = some (step, cause) ∧ calls.filter SystemCall.isRemoval = undoing step
  | .halted fault _ =>
    failure? = none ∧ Size.greatest < o.session.sendBufferSize ∧ fault = .tooLarge
      ∧ calls.filter SystemCall.isRemoval = []

lemma OpensTo.before {o : NamespaceOptions} {failure? : Option (OpeningStep × ConfigError)}
    {undoing : OpeningStep → List SystemCall} {earlier : List SystemCall}
    {outcome : Outcome ConfigError Machine NetworkNamespace}
    (h : OpensTo o failure? undoing calls outcome)
    (hearlier : earlier.filter SystemCall.isRemoval = []) :
    OpensTo o failure? undoing (earlier ++ calls) outcome := by
  have hcalls : (earlier ++ calls).filter SystemCall.isRemoval
      = calls.filter SystemCall.isRemoval := by
    rw [List.filter_append, hearlier, List.nil_append]
  cases outcome <;> simpa only [OpensTo, hcalls] using h

/-- Opening the session of a namespace ends at the setup step that fails.  A namespace that was made
for it is taken back then, and only then. -/
lemma connect_ends (m : Machine) (name : String) (file : Nat) (made : Bool)
    (o : NamespaceOptions) (hpath : isPath path = true) :
    ∃ calls, (connect name path file made o m).state.log = m.log ++ calls
      ∧ OpensTo o (failure? path 0 m connecting) (undoing path (!made) m) calls
        (connect name path file made o m) := by
  obtain ⟨m₁, taken, calls, hafter, htaken, hcalls, hends⟩ :=
    BoundSession.connect_ends m o.session
  have hkept : calls.filter SystemCall.isRemoval = [] := by
    rw [List.filter_eq_nil_iff]
    intro c hc
    rw [hcalls c hc]
    exact Bool.false_ne_true
  rw [failure?_connecting]
  rcases hfailure : BoundSession.setupFailure? m with - | ⟨step, code⟩
  · rw [hfailure] at hends
    dsimp only at hends
    by_cases hlarge : Size.greatest < o.session.sendBufferSize
    · rw [if_pos hlarge] at hends
      obtain ⟨m₂, hclose, hend⟩ := release_ends (ε := SessionError) m₁ file
      have hrun : connect name path file made o m = .halted .tooLarge m₂ :=
        Run.bind_of_halted (Run.attempt_of_halted (Run.onHalt_of_halted hends hend)) _
      rw [hrun]
      refine ⟨_, (hafter.trans hclose).log, rfl, hlarge, rfl, ?_⟩
      simp [hkept, SystemCall.isRemoval]
    · rw [if_neg hlarge] at hends
      obtain ⟨b, hend⟩ := hends
      have hrun : connect name path file made o m = .ok { name, path, file, bound := b } m₁ :=
        Run.bind_of_ok (Run.attempt_of_ok (Run.onHalt_of_ok hend)) _
      rw [hrun]
      exact ⟨calls, hafter.log, rfl, Nat.le_of_not_lt hlarge, hkept⟩
  · rw [hfailure] at hends
    dsimp only at hends
    have hattempt : (Run.attempt (Run.onHalt (Machine.release file)
        (BoundSession.connect o.session)) : Administering _) m
        = .ok (.error (.setup step (.ofNumber code))) m₁ :=
      Run.attempt_of_refused (Run.onHalt_of_refused hends)
    cases made with
    | false =>
      obtain ⟨m₂, hclose, hend⟩ := release_ends (ε := ConfigError) m₁ file
      have hrun : connect name path file false o m
          = .refused (.session (.setup step (.ofNumber code))) m₂ :=
        (Run.bind_of_ok hattempt _).trans (Run.bind_of_ok hend _)
      rw [hrun]
      refine ⟨_, (hafter.trans hclose).log, .connect step, rfl, ?_⟩
      simp [hkept, SystemCall.isRemoval, undoing]
    | true =>
      have hfresh : ∀ name, name ∉ BoundSession.setupCalls → name ∉ taken :=
        fun name hname hmem => hname (htaken name hmem)
      obtain ⟨m₂, taken₂, hafter₂, hrollback⟩ := rollback_ends hafter hpath
        (hfresh _ (by decide)) (hfresh _ (by decide))
      obtain ⟨m₃, hclose, hend⟩ := release_ends (ε := ConfigError) m₂ file
      have hrun : connect name path file true o m
          = .refused (.session (.setup step (.ofNumber code))) m₃ :=
        (Run.bind_of_ok hattempt _).trans
          ((Run.bind_of_ok hrollback _).trans (Run.bind_of_ok hend _))
      rw [hrun]
      refine ⟨_, (hafter₂.trans hclose).log, .connect step, rfl, ?_⟩
      rw [List.filter_append, List.filter_append, hkept, filter_isRemoval_unbinding]
      simp [SystemCall.isRemoval, undoing]

/-- Calls that were made before do not change where the steps to come fail. -/
lemma failure?_congr {first second : Nat} {steps : List OpeningStep}
    (h : ∀ step ∈ steps, step.error? path second m' = step.error? path first m) :
    failure? path second m' steps = failure? path first m steps := by
  unfold failure?
  induction steps with
  | nil => rfl
  | cons step rest ih =>
    rw [List.findSome?_cons, List.findSome?_cons, h step List.mem_cons_self,
      ih fun other hother => h other (List.mem_cons_of_mem _ hother)]

/-- As long as no setup call was made, the session will be opened with the outcomes there were. -/
lemma failure?_connecting_after (first : Nat) (h : m.After taken calls m')
    (htaken : ∀ step : SetupStep, step.callName ∉ taken) :
    failure? path 0 m' connecting = failure? path first m connecting := by
  refine failure?_congr fun step hstep => ?_
  obtain ⟨setup, rfl⟩ : ∃ setup, step = .connect setup := by
    simp only [connecting, List.mem_cons, List.not_mem_nil, or_false] at hstep
    rcases hstep with rfl | rfl | rfl <;> exact ⟨_, rfl⟩
  simp only [error?, h.outcome_of_not_mem (htaken setup)]

/-- As long as nothing was taken away, it will be with the outcomes there were. -/
lemma undoing_after (h : m.After taken calls m') (hunmount : .unmount ∉ taken)
    (hremove : .removeFile ∉ taken) (path : String) (existing : Bool) :
    undoing path existing m' = undoing path existing m := by
  funext step
  cases step <;>
    simp only [undoing, unbinding, removal, h.outcome_of_not_mem hunmount,
      h.outcome_of_not_mem hremove]

/-- Making a namespace and opening its session ends at the first step that fails. -/
lemma make_connect_ends (m : Machine) (name path : String) (exclusive : Bool)
    (o : NamespaceOptions) :
    ∃ calls outcome, outcome.state.log = m.log ++ calls
      ∧ (do let file ← make path exclusive; connect name path file true o) m = outcome
      ∧ OpensTo o (failure? path 0 m (making ++ connecting)) (undoing path false m) calls
        outcome := by
  obtain ⟨m₁, taken, calls, hafter, hends⟩ := make_ends m path exclusive
  rw [failure?_append]
  rcases hfailure : failure? path 0 m making with - | ⟨step, cause⟩
  · rw [hfailure] at hends
    obtain ⟨⟨file, hend⟩, hkept, hpath, rfl⟩ := hends
    obtain ⟨later, hlog, hopens⟩ := connect_ends m₁ name file true o hpath
    rw [failure?_connecting_after 0 hafter fun step => by cases step <;> decide,
      undoing_after hafter (by decide) (by decide)] at hopens
    rw [Run.bind_of_ok hend, Option.none_or]
    refine ⟨calls ++ later, _, ?_, rfl, hopens.before hkept⟩
    rw [hlog, hafter.log, List.append_assoc]
  · rw [hfailure] at hends
    obtain ⟨hend, hundone⟩ := hends
    exact ⟨calls, .refused cause m₁, hafter.log, Run.bind_of_refused hend _, step, rfl, hundone⟩

/-- Looking for the file takes the outcome of one open call at most, so the steps that follow fail
where they would have failed before. -/
lemma lookUp_ends (m : Machine) (path : String) (exclusive : Bool) :
    ∃ m' taken calls found, m.After taken calls m' ∧ lookUp path exclusive m = .ok found m'
      ∧ found.isSome = m.findsFile path exclusive ∧ (found.isSome → isPath path = true)
      ∧ (∀ name ∈ taken, name = .openFile) ∧ calls.filter SystemCall.isRemoval = []
      ∧ ∀ step : OpeningStep,
        step.error? path 0 m' = step.error? path (if exclusive then 0 else 1) m := by
  unfold lookUp findsFile
  cases exclusive with
  | true => exact ⟨m, [], [], none, .refl m, rfl, rfl, by simp, by simp, rfl, fun _ => rfl⟩
  | false =>
    by_cases hpath : isPath path = true
    · obtain ⟨m', file, opens, hafter, hopens, hend⟩ := openForReading_ends m hpath
      have hopen : ∀ i, m'.outcome .openFile i = m.outcome .openFile (1 + i) := hafter.outcome _
      have herror : ∀ step : OpeningStep, step.error? path 0 m' = step.error? path 1 m := by
        intro step
        have hsetup : ∀ step : SetupStep, step.callName ∉ [CallName.openFile] :=
          fun step => by cases step <;> decide
        cases step <;> simp [error?, hopen, hafter.outcome_of_not_mem, hsetup]
      by_cases hcode : m.outcome .openFile 0 = 0
      · refine ⟨m', _, _, some file, hafter, ?_, by simp [hpath, hcode], fun _ => hpath, by simp,
          filter_isRemoval_of_opens hopens, herror⟩
        exact Run.bind_of_ok (Run.attempt_of_ok (hend.trans (Outcome.ofCode_of_success hcode))) _
      · refine ⟨m', _, _, none, hafter, ?_, by simp [hcode], by simp, by simp,
          filter_isRemoval_of_opens hopens, herror⟩
        exact Run.bind_of_ok
          (Run.attempt_of_refused (hend.trans (Outcome.ofCode_of_failure hcode))) _
    · refine ⟨m, [], [], none, .refl m, ?_, by simp [hpath], by simp, by simp, rfl, ?_⟩
      · exact Run.bind_of_ok (Run.attempt_of_refused (withFile_of_not_isPath _ hpath m)) _
      · intro step
        cases step <;> simp [error?, fileError?, hpath]

/-- Going into an existing namespace and opening its session ends at the first step that fails. -/
lemma enter_connect_ends (m : Machine) (name : String) (file : Nat) (o : NamespaceOptions)
    (hpath : isPath path = true) :
    ∃ calls outcome, outcome.state.log = m.log ++ calls
      ∧ (do let file ← enterExisting file; connect name path file false o) m = outcome
      ∧ OpensTo o (failure? path 0 m ([.enter] ++ connecting)) (undoing path true m) calls
        outcome := by
  obtain ⟨m₁, hafter, hend⟩ := enterNamespace_ends m file
  rw [failure?_append]
  by_cases hcode : m.outcome .enterNamespace 0 = 0
  · have hnone : failure? path 0 m [.enter] = none := by
      simp [failure?, error?, callError?, hcode]
    have henter : enterExisting file m = .ok file m₁ :=
      Run.bind_of_ok (Run.attempt_of_ok (hend.trans (Outcome.ofCode_of_success hcode))) _
    obtain ⟨later, hlog, hopens⟩ := connect_ends m₁ name file false o hpath
    rw [hafter.log, List.append_assoc] at hlog
    rw [failure?_connecting_after 0 hafter fun step => by cases step <;> decide,
      undoing_after hafter (by decide) (by decide)] at hopens
    rw [Run.bind_of_ok henter, hnone, Option.none_or]
    exact ⟨_, _, hlog, rfl, hopens.before rfl⟩
  · have hsome : failure? path 0 m [.enter]
        = some (.enter, .call (.ofNumber (m.outcome .enterNamespace 0))) := by
      simp [failure?, error?, callError?, hcode]
    obtain ⟨m₂, hclose, hrelease⟩ := release_ends (ε := ConfigError) m₁ file
    have hrefused : enterExisting file m
        = .refused (.call (.ofNumber (m.outcome .enterNamespace 0))) m₂ :=
      (Run.bind_of_ok
        (Run.attempt_of_refused (hend.trans (Outcome.ofCode_of_failure hcode))) _).trans
        (Run.bind_of_ok hrelease _)
    rw [hsome]
    exact ⟨_, .refused _ m₂, (hafter.trans hclose).log, Run.bind_of_refused hrefused _, .enter,
      rfl, rfl⟩

/-- **A failed opening is taken back step by step.**  A name that is no name of a file in the run
directory is refused before any call.  For any other, an opening is refused if and only if one of
its steps fails, with the error of the first one that does, and exactly what is to be undone for
that step is taken away: the calls that remove or unmount something are those, in this order and
with these results.  An opening that succeeds takes nothing away. -/
theorem openOrMake_takes_back (name : String) (exclusive : Bool) (o : NamespaceOptions)
    (m : Machine) :
    match o.path name with
    | .error cause => openOrMake name exclusive o m = .refused cause m
    | .ok path =>
      ∃ calls, (openOrMake name exclusive o m).state.log = m.log ++ calls
        ∧ OpensTo o (m.openingFailure? path exclusive)
          (undoing path (m.findsFile path exclusive) m) calls (openOrMake name exclusive o m) := by
  unfold openOrMake withPath
  rcases o.path name with cause | path
  · rfl
  dsimp only
  obtain ⟨m₁, taken, earlier, found, hafter, hlook, hfound, hpath, htaken, hkept, herror⟩ :=
    lookUp_ends m path exclusive
  have hfailure : ∀ steps, failure? path 0 m₁ steps
      = failure? path (if exclusive then 0 else 1) m steps :=
    fun steps => failure?_congr fun step _ => herror step
  have hundoing : ∀ existing, undoing path existing m₁ = undoing path existing m :=
    undoing_after hafter (fun h => nomatch htaken _ h) (fun h => nomatch htaken _ h) path
  rw [Run.bind_of_ok hlook]
  unfold openingFailure? openingSteps
  cases found with
  | some file =>
    obtain ⟨calls, outcome, hlog, hend, hopens⟩ := enter_connect_ends m₁ name file o (hpath rfl)
    rw [hfailure, hundoing] at hopens
    refine ⟨earlier ++ calls, ?_⟩
    dsimp only [Option.isNone]
    rw [hend, ← hfound, hlog, hafter.log, List.append_assoc]
    exact ⟨rfl, hopens.before hkept⟩
  | none =>
    obtain ⟨calls, outcome, hlog, hend, hopens⟩ := make_connect_ends m₁ name path exclusive o
    rw [hfailure, hundoing] at hopens
    refine ⟨earlier ++ calls, ?_⟩
    dsimp only [Option.isNone]
    rw [hend, ← hfound, hlog, hafter.log, List.append_assoc]
    exact ⟨rfl, hopens.before hkept⟩

-- the socket cannot be bound and the namespace is busy, so its file stays
example :
    ((openOrMake "lab" true {}
        { codes := fun
            | .bindSocket => [12]
            | .unmount => [16]
            | _ => [] }).state.log.filter SystemCall.isRemoval)
      = [.unmount "/var/run/netns/lab" 2 (-16)] := by
  decide +kernel

end NetworkNamespace

end Rtnetlink
