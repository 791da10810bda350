import Rtnetlink.Proofs.Rollback

/-!
# What a failed opening takes for its own

An opening that need not be exclusive looks for the file first, and makes a namespace only if it
finds none.  Finding none means that the file could not be opened, for whatever cause: the file may
be missing, or be there and out of reach for a moment.  The open call that is to create it succeeds
on a file that is there as well, and from then on the opening takes the file for one that it made.
If a later step fails, it takes the file away.

* `Machine.TakesForOwn`: the opening takes the file for one that it made;
* `NetworkNamespace.openOrMake_removes_iff`: something is taken away if and only if the opening
  takes the file for its own and fails behind that.
-/

namespace Rtnetlink

namespace Machine

/-- An opening takes the file at a path for one that it made: it does not look for the file or
cannot open it, whatever the cause, and the open call that creates a file if there is none
succeeds. -/
structure TakesForOwn (m : Machine) (path : String) (exclusive : Bool) : Prop where
  /-- The path can be handed on. -/
  isPath : isPath path = true
  /-- The first open call fails, if it is made at all. -/
  missed : exclusive = true ∨ m.outcome .openFile 0 ≠ 0
  /-- The open call after it succeeds. -/
  created : m.outcome .openFile (if exclusive then 0 else 1) = 0

/-- A step fails that comes after the file was created. -/
def FailsBehind (m : Machine) (exclusive : Bool) : Prop :=
  m.outcome .newNamespace 0 ≠ 0 ∨ m.outcome .mount 0 ≠ 0
    ∨ m.outcome .openFile (if exclusive then 1 else 2) ≠ 0
    ∨ ∃ step : SetupStep, m.outcome step.callName 0 ≠ 0

end Machine

namespace NetworkNamespace

open Machine OpeningStep

variable {m : Machine} {path : String} {calls : List SystemCall}

section

variable {o : NamespaceOptions} {failure? : Option (OpeningStep × ConfigError)}
  {undoing : OpeningStep → List SystemCall}
  {outcome : Outcome ConfigError Machine NetworkNamespace}

/-- What is taken away is what is to be undone for the step that fails. -/
lemma OpensTo.mem_filter_iff (h : OpensTo o failure? undoing calls outcome) {c : SystemCall} :
    c ∈ calls.filter SystemCall.isRemoval ↔ ∃ step ∈ failure?.map Prod.fst, c ∈ undoing step := by
  cases outcome with
  | ok =>
    obtain ⟨hnone, -, hkept⟩ := h
    simp [hnone, hkept]
  | refused =>
    obtain ⟨step, hstep, hundone⟩ := h
    simp [hstep, hundone]
  | halted =>
    obtain ⟨hnone, -, -, hkept⟩ := h
    simp [hnone, hkept]

end

/-! ## Where the steps fail -/

@[simp] lemma isSome_callError? (code : CallCode) : (callError? code).isSome = true ↔ code ≠ 0 := by
  by_cases h : code = 0 <;> simp [callError?, h]

@[simp] lemma isSome_setupError? (step : SetupStep) (code : CallCode) :
    (setupError? step code).isSome = true ↔ code ≠ 0 := by
  by_cases h : code = 0 <;> simp [setupError?, h]

lemma isSome_fileError? (hpath : isPath path = true) (code : CallCode) :
    (fileError? path code).isSome = true ↔ code ≠ 0 := by
  by_cases h : code = 0 <;> simp [fileError?, hpath, h]

lemma fileError?_eq_none_iff {code : CallCode} :
    fileError? path code = none ↔ isPath path = true ∧ code = 0 := by
  by_cases hpath : isPath path = true <;> by_cases h : code = 0 <;> simp [fileError?, hpath, h]

/-- The step that fails is one of the steps. -/
lemma mem_of_failure? {first : Nat} {steps : List OpeningStep} {step : OpeningStep}
    {cause : ConfigError} (h : failure? path first m steps = some (step, cause)) :
    step ∈ steps := by
  obtain ⟨step', hmem, hfails⟩ := List.exists_of_findSome?_eq_some h
  obtain ⟨_, -, hsame⟩ := Option.map_eq_some_iff.1 hfails
  cases hsame
  exact hmem

lemma isSome_failure? {first : Nat} {steps : List OpeningStep} :
    (failure? path first m steps).isSome = true
      ↔ ∃ step ∈ steps, (error? path first m step).isSome = true := by
  simp [failure?, List.findSome?_isSome_iff]

/-- The steps of making a namespace and opening its session that come after the file was created. -/
def stepsBehind : List OpeningStep := [.isolate, .bindFile, .reopen] ++ connecting

/-- Where a path can be handed on, a step fails if and only if its call does. -/
lemma failsBehind_iff {exclusive : Bool} (hpath : isPath path = true) :
    m.FailsBehind exclusive ↔ ∃ step ∈ stepsBehind,
      (error? path (if exclusive then 0 else 1) m step).isSome = true := by
  have hsetup : (∃ step : SetupStep, m.outcome step.callName 0 ≠ 0)
      ↔ m.outcome .openSocket 0 ≠ 0 ∨ m.outcome .bindSocket 0 ≠ 0
        ∨ m.outcome .socketName 0 ≠ 0 := by
    constructor
    · rintro ⟨step, hstep⟩
      cases step with
      | socket => exact .inl hstep
      | bind => exact .inr (.inl hstep)
      | portName => exact .inr (.inr hstep)
    · rintro (hstep | hstep | hstep)
      · exact ⟨.socket, hstep⟩
      · exact ⟨.bind, hstep⟩
      · exact ⟨.portName, hstep⟩
  rw [FailsBehind, hsetup]
  cases exclusive <;>
    simp [stepsBehind, connecting, error?, isSome_fileError? hpath, SetupStep.callName]

/-! ## What is undone -/

/-- Each of these steps leaves something to undo if it fails. -/
lemma exists_mem_undoing {step : OpeningStep} (h : step ∈ stepsBehind) :
    ∃ c, c ∈ undoing path false m step := by
  simp only [stepsBehind, connecting, List.cons_append, List.nil_append, List.mem_cons,
    List.not_mem_nil, or_false] at h
  rcases h with rfl | rfl | rfl | rfl | rfl | rfl <;> exact ⟨_, List.mem_cons_self⟩

/-- Nothing is undone for a file that was there before. -/
lemma undoing_eq_nil {step : OpeningStep} (h : step ∈ [.enter] ++ connecting) :
    undoing path true m step = [] := by
  simp only [connecting, List.cons_append, List.nil_append, List.mem_cons, List.not_mem_nil,
    or_false] at h
  rcases h with rfl | rfl | rfl | rfl <;> rfl

/-- What is undone is undone at the path. -/
lemma eq_of_mem_undoing {existing : Bool} {step : OpeningStep} {c : SystemCall}
    (h : c ∈ undoing path existing m step) :
    ∃ result, c = .removeFile path result ∨ c = .unmount path 2 result := by
  have hparts : c ∈ [removal path m] ∨ c ∈ unbinding path m := by
    cases step with
    | enter => cases h
    | create => cases h
    | isolate => exact .inl h
    | bindFile => exact .inl h
    | reopen => cases existing with
      | true => cases h
      | false => exact .inr h
    | connect => cases existing with
      | true => cases h
      | false => exact .inr h
  rcases hparts with hremoval | hunbinding
  · exact ⟨_, .inl (List.mem_singleton.1 hremoval)⟩
  · rcases List.mem_cons.1 hunbinding with rfl | hremoval
    · exact ⟨_, .inr rfl⟩
    · split at hremoval
      · exact ⟨_, .inl (List.mem_singleton.1 hremoval)⟩
      · cases hremoval

/-- Making a namespace and opening its session leaves something to undo if and only if the file was
created and a step behind that fails. -/
lemma exists_undoing_iff {first : Nat} :
    (∃ c, ∃ step ∈ (failure? path first m (making ++ connecting)).map Prod.fst,
        c ∈ undoing path false m step)
      ↔ fileError? path (m.outcome .openFile first) = none
        ∧ ∃ step ∈ stepsBehind, (error? path first m step).isSome = true := by
  have hsteps : making ++ connecting = .create :: stepsBehind := rfl
  rw [hsteps, ← isSome_failure?]
  rcases hcreate : fileError? path (m.outcome .openFile first) with - | cause
  · -- the first failure is that of a step behind, which is always undone
    have hfirst : failure? path first m (.create :: stepsBehind)
        = failure? path first m stepsBehind := by
      simp [failure?, error?, hcreate]
    rw [hfirst]
    rcases hfailure : failure? path first m stepsBehind with - | ⟨step, cause⟩
    · simp
    · simpa using exists_mem_undoing (mem_of_failure? hfailure)
  · -- a file that was not created is not taken away
    have hfirst : failure? path first m (.create :: stepsBehind) = some (.create, cause) := by
      simp [failure?, error?, hcreate]
    rw [hfirst]
    simp [undoing]

/-- An opening that finds no file takes one for its own if and only if it can create one. -/
lemma takesForOwn_iff {exclusive : Bool} (hfinds : m.findsFile path exclusive = false) :
    m.TakesForOwn path exclusive
      ↔ fileError? path (m.outcome .openFile (if exclusive then 0 else 1)) = none := by
  rw [fileError?_eq_none_iff]
  constructor
  · intro h
    exact ⟨h.isPath, h.created⟩
  · rintro ⟨hpath, hcreated⟩
    refine ⟨hpath, ?_, hcreated⟩
    cases exclusive with
    | true => exact .inl rfl
    | false => exact .inr (by simpa [findsFile, hpath] using hfinds)

/-- An opening that finds the file does not take it for its own. -/
lemma findsFile_of_takesForOwn {exclusive : Bool} (h : m.TakesForOwn path exclusive) :
    m.findsFile path exclusive = false := by
  rcases h.missed with rfl | hcode
  · rfl
  · simp [findsFile, hcode]

section

variable {o : NamespaceOptions} {first : Nat}
  {outcome : Outcome ConfigError Machine NetworkNamespace}

/-- Nothing is taken away of what was found. -/
lemma OpensTo.not_isRemoval_of_found
    (h : OpensTo o (failure? path first m ([.enter] ++ connecting)) (undoing path true m) calls
      outcome) {c : SystemCall} (hc : c ∈ calls) : ¬ c.isRemoval = true := by
  intro hremoval
  obtain ⟨step, hstep, hundone⟩ := h.mem_filter_iff.1 (List.mem_filter.2 ⟨hc, hremoval⟩)
  obtain ⟨⟨_, cause⟩, hfailure, rfl⟩ := Option.map_eq_some_iff.1 hstep
  rw [undoing_eq_nil (mem_of_failure? hfailure)] at hundone
  exact List.not_mem_nil hundone

/-- Of what was made, all is at the path, and something is taken away if and only if the file was
created and a step behind that fails. -/
lemma OpensTo.isRemoval_of_made
    (h : OpensTo o (failure? path first m (making ++ connecting)) (undoing path false m) calls
      outcome) :
    (∀ c ∈ calls, c.isRemoval = true →
        ∃ result, c = .removeFile path result ∨ c = .unmount path 2 result)
      ∧ ((∃ c ∈ calls, c.isRemoval = true)
        ↔ fileError? path (m.outcome .openFile first) = none
          ∧ ∃ step ∈ stepsBehind, (error? path first m step).isSome = true) := by
  have hremoved : ∀ c, c ∈ calls ∧ c.isRemoval = true
      ↔ ∃ step ∈ (failure? path first m (making ++ connecting)).map Prod.fst,
        c ∈ undoing path false m step := by
    intro c
    rw [← List.mem_filter]
    exact h.mem_filter_iff
  constructor
  · intro c hc hremoval
    obtain ⟨step, -, hundone⟩ := (hremoved c).1 ⟨hc, hremoval⟩
    exact eq_of_mem_undoing hundone
  · simp only [hremoved, exists_undoing_iff]

end

/-- **A failed opening takes away whatever file it takes for its own.**  All that an opening removes
or unmounts is at the path of its name.  It removes or unmounts something if and only if it takes
the file there for its own and a step behind that fails.  So why the first open call failed makes no
difference: a file that is known to be missing and a file that may well be there are treated
alike. -/
theorem openOrMake_removes_iff (name : String) (exclusive : Bool) (o : NamespaceOptions)
    (m : Machine) :
    match o.path name with
    | .error _ => (openOrMake name exclusive o m).state.log = m.log
    | .ok path =>
      ∃ calls, (openOrMake name exclusive o m).state.log = m.log ++ calls
        ∧ (∀ c ∈ calls, c.isRemoval = true →
          ∃ result, c = .removeFile path result ∨ c = .unmount path 2 result)
        ∧ ((∃ c ∈ calls, c.isRemoval = true)
          ↔ m.TakesForOwn path exclusive ∧ m.FailsBehind exclusive) := by
  unfold openOrMake withPath
  rcases o.path name with cause | path
  · rfl
  dsimp only
  obtain ⟨m₁, taken, earlier, found, hafter, hlook, hfound, hpath, -, hkept, herror⟩ :=
    lookUp_ends m path exclusive
  rw [Run.bind_of_ok hlook]
  cases found with
  | some file =>
    obtain ⟨calls, outcome, hlog, hend, hopens⟩ := enter_connect_ends m₁ name file o (hpath rfl)
    have hnone : ∀ c ∈ earlier ++ calls, ¬ c.isRemoval = true :=
      fun _ => (hopens.before hkept).not_isRemoval_of_found
    refine ⟨earlier ++ calls, ?_, fun c hc hremoval => absurd hremoval (hnone c hc), ?_⟩
    · dsimp only [Option.isNone]
      rw [hend, hlog, hafter.log, List.append_assoc]
    · constructor
      · rintro ⟨c, hc, hremoval⟩
        exact absurd hremoval (hnone c hc)
      · rintro ⟨htakes, -⟩
        exact absurd (hfound.trans (findsFile_of_takesForOwn htakes)) Bool.noConfusion
  | none =>
    obtain ⟨calls, outcome, hlog, hend, hopens⟩ := make_connect_ends m₁ name path exclusive o
    obtain ⟨hplace, hremoved⟩ := (hopens.before hkept).isRemoval_of_made
    refine ⟨earlier ++ calls, ?_, hplace, hremoved.trans ?_⟩
    · dsimp only [Option.isNone]
      rw [hend, hlog, hafter.log, List.append_assoc]
    · have hcreate : fileError? path (m₁.outcome .openFile 0)
          = fileError? path (m.outcome .openFile (if exclusive then 0 else 1)) := herror .create
      simp only [herror, hcreate]
      rw [takesForOwn_iff hfound.symm]
      refine and_congr_right fun h => ?_
      exact (failsBehind_iff (fileError?_eq_none_iff.1 h).1).symm

-- the table of open files was full for a moment, and no new namespace could be entered: the file,
-- which may well be that of somebody else, is removed
example :
    ((openOrMake "lab" false {}
        { codes := fun
            | .openFile => [23]
            | .newNamespace => [1]
            | _ => [] }).state.log.filter SystemCall.isRemoval)
      = [.removeFile "/var/run/netns/lab" 0] := by
  decide +kernel

end NetworkNamespace

end Rtnetlink
