import Mathlib.Data.List.Perm.Basic
import Rtnetlink.Os.Offload
import Rtnetlink.Proofs.Custody

/-!
# Who owns the descriptors

A session owns the descriptor of its socket, and an open namespace owns that of its file as well.
Nothing else owns any: what is opened on the way to something else is closed on every way out, and
what was opened for a value that is not yielded in the end is closed before the failure is told.

A program works on one machine and has some sessions and namespaces in its hands.  It can open
more, close or drop them, and use them.  Whatever it does, the descriptors that are open are those
of what it has in its hands, and all others that were ever handed out to it are closed.

* `NetworkNamespace.openOrMake_entrusts`: an opening that fails leaves nothing held;
* `Program.step_custody`: the books of one operation;
* `Program.run_custody`: the books of a program balance, whatever it does.
-/

namespace Rtnetlink

section

variable {held refused halted : List Nat} {path : String}

/-! ## Calls -/

namespace Machine

lemma withFile_entrusts {α : Type} {run : Calling α} {kept : α → List Nat}
    (h : Run.Entrusts held run kept held halted) :
    Run.Entrusts held (withFile path run) kept held halted := by
  unfold withFile
  split
  · exact .mapCause h
  · exact .refuse _

lemma withPath_entrusts {α : Type} {run : Calling α} {kept : α → List Nat}
    (h : Run.Entrusts held run kept held halted) :
    Run.Entrusts held (withPath path run) kept held halted := by
  unfold withPath
  split
  · exact .mapCause h
  · exact .refuse _

lemma openForReading_entrusts :
    Run.Entrusts held (openForReading path) (· :: held) held halted :=
  withFile_entrusts (openFile_entrusts (SystemCall.handsOut_openFile ..))

lemma openForCreating_entrusts {mustBeNew : Bool} :
    Run.Entrusts held (openForCreating path mustBeNew) (· :: held) held halted :=
  withFile_entrusts (openFile_entrusts (SystemCall.handsOut_openFile ..))

lemma removeFile_entrusts : Run.Entrusts held (removeFile path) (fun _ => held) held halted :=
  withFile_entrusts (call_entrusts (fun _ => .of_none rfl rfl) fun _ => rfl)

lemma bindMount_entrusts {source : String} :
    Run.Entrusts held (bindMount source path) (fun _ => held) held halted :=
  withPath_entrusts (call_entrusts (fun _ => .of_none rfl rfl) fun _ => rfl)

lemma unmount_entrusts : Run.Entrusts held (unmount path) (fun _ => held) held halted :=
  withPath_entrusts (call_entrusts (fun _ => .of_none rfl rfl) fun _ => rfl)

lemma newNamespace_entrusts : Run.Entrusts held newNamespace (fun _ => held) held halted :=
  .mapCause (call_entrusts (fun _ => .of_none rfl rfl) fun _ => rfl)

lemma enterNamespace_entrusts {d : Nat} (hd : d ∈ held) :
    Run.Entrusts held (enterNamespace d) (fun _ => held) held halted :=
  .mapCause (call_entrusts (fun _ => .of_mem hd rfl rfl) fun _ => rfl)

lemma openRoutingSocket_entrusts :
    Run.Entrusts held openRoutingSocket (· :: held) held halted :=
  .mapCause (callForDescriptor_entrusts (by decide) (SystemCall.handsOut_openSocket ..))

lemma bindSocket_entrusts {d : Nat} (hd : d ∈ held) :
    Run.Entrusts held (bindSocket d) (fun _ => held) held halted :=
  .mapCause (call_entrusts (fun _ => .of_mem hd rfl rfl) fun _ => rfl)

lemma takePortId_entrusts : Run.Entrusts held takePortId (fun _ => held) refused halted := by
  intro m _
  refine ⟨[], ?_⟩
  unfold takePortId
  split
  · exact .refl m held
  · exact .of_quiet (List.append_nil _).symm rfl id (List.forall_mem_nil _)

lemma socketPortId_entrusts {d : Nat} (hd : d ∈ held) :
    Run.Entrusts held (socketPortId d) (fun _ => held) held halted := by
  refine .mapCause (.bind takePortId_entrusts fun portId => .bind ?_ fun _ => .pure rfl)
  exact call_entrusts (fun _ => .of_mem hd rfl rfl) fun _ => rfl

end Machine

/-! ## Sessions -/

namespace BoundSession

open Machine

/-- A session that could not be opened leaves no socket behind, not even when it halts. -/
lemma connect_entrusts {options : SessionOptions} :
    Run.Entrusts held (connect options) (fun b => b.socket :: held) held held := by
  refine .bind (.mapCause openRoutingSocket_entrusts) fun socket => ?_
  refine .bind (.attempt (bindSocket_entrusts List.mem_cons_self)) ?_
  rintro (errno | _)
  · exact .bind release_entrusts fun _ => .refuse _
  refine .bind (.attempt (socketPortId_entrusts List.mem_cons_self)) ?_
  rintro (errno | portId)
  · exact .bind release_entrusts fun _ => .refuse _
  dsimp only
  split
  · exact .pure rfl
  · exact .bind release_entrusts fun _ => .halt _

/-- A socket is closed, even if that fails. -/
lemma close_entrusts {b : BoundSession} :
    Run.Entrusts (b.socket :: held) b.close (fun _ => held) held halted :=
  .mapCause (.mapCause closeFile_entrusts)

end BoundSession

/-! ## Namespaces -/

namespace NetworkNamespace

open Machine

/-- Something is tried, and what it comes to is passed over. -/
lemma pass_entrusts {ε : Type} {run : Run ε Machine Unit}
    (h : Run.Entrusts held run (fun _ => held) held halted) :
    Run.Entrusts held (do let _ ← Run.attempt run; pure () : Administering Unit) (fun _ => held)
      refused halted := by
  refine .bind (.attempt h) ?_
  rintro (_ | _)
  · exact .pure rfl
  · exact .pure rfl

lemma discard_entrusts : Run.Entrusts held (discard path) (fun _ => held) refused halted :=
  pass_entrusts removeFile_entrusts

lemma remove_entrusts : Run.Entrusts held (remove path) (fun _ => held) held halted :=
  .bind (.mapCause unmount_entrusts) fun _ => .mapCause removeFile_entrusts

lemma rollback_entrusts : Run.Entrusts held (rollback path) (fun _ => held) refused halted :=
  pass_entrusts remove_entrusts

lemma create_entrusts {exclusive : Bool} :
    Run.Entrusts held (create path exclusive) (fun _ => held) held halted := by
  refine .bind (.mapCause openForCreating_entrusts) fun file => .bind release_entrusts fun _ => ?_
  refine .bind (.attempt newNamespace_entrusts) ?_
  rintro (errno | _)
  · exact .bind discard_entrusts fun _ => .refuse _
  refine .bind (.attempt bindMount_entrusts) ?_
  rintro (errno | _)
  · exact .bind discard_entrusts fun _ => .refuse _
  · exact .pure rfl

lemma enterExisting_entrusts {file : Nat} :
    Run.Entrusts (file :: held) (enterExisting file) (· :: held) held halted := by
  refine .bind (.attempt (enterNamespace_entrusts List.mem_cons_self)) ?_
  rintro (errno | _)
  · exact .bind release_entrusts fun _ => .refuse _
  · exact .pure rfl

lemma make_entrusts {exclusive : Bool} :
    Run.Entrusts held (make path exclusive) (· :: held) held halted := by
  refine .bind create_entrusts fun _ => .bind (.attempt openForReading_entrusts) ?_
  rintro (cause | file)
  · exact .bind rollback_entrusts fun _ => .refuse _
  · exact .pure rfl

/-- The file of a namespace whose session cannot be opened is closed, also when that halts. -/
lemma connect_entrusts {name : String} {file : Nat} {made : Bool} {o : NamespaceOptions} :
    Run.Entrusts (file :: held) (connect name path file made o)
      (fun n => n.bound.socket :: n.file :: held) held held := by
  refine .bind (.attempt (.onHalt BoundSession.connect_entrusts release_entrusts)) ?_
  rintro (cause | bound)
  · have hfailed : Run.Entrusts (file :: held)
        (do Machine.release file; Run.refuse (.session cause) : Administering NetworkNamespace)
        (fun n => n.bound.socket :: n.file :: held) held held :=
      .bind release_entrusts fun _ => .refuse _
    dsimp only
    split
    · exact .bind rollback_entrusts fun _ => hfailed
    · exact hfailed
  · exact .pure rfl

lemma lookUp_entrusts {exclusive : Bool} :
    Run.Entrusts held (lookUp path exclusive) (fun existing => existing.toList ++ held) refused
      halted := by
  unfold lookUp
  split
  · exact .pure rfl
  · refine .bind (.attempt openForReading_entrusts) ?_
    rintro (_ | _)
    · exact .pure rfl
    · exact .pure rfl

/-- An opening that fails leaves nothing held, and one that succeeds the socket and the file of the
namespace. -/
theorem openOrMake_entrusts {name : String} {exclusive : Bool} {o : NamespaceOptions} :
    Run.Entrusts held (openOrMake name exclusive o)
      (fun n => n.bound.socket :: n.file :: held) held held := by
  unfold openOrMake withPath
  split
  · exact .refuse _
  · refine .bind lookUp_entrusts ?_
    rintro (_ | file)
    · exact .bind make_entrusts fun _ => connect_entrusts
    · exact .bind enterExisting_entrusts fun _ => connect_entrusts

variable {n : NetworkNamespace}

lemma enter_entrusts (hfile : n.file ∈ held) :
    Run.Entrusts held n.enter (fun _ => held) held halted :=
  .mapCause (enterNamespace_entrusts hfile)

/-- The file is closed even if the socket could not be. -/
lemma close_entrusts :
    Run.Entrusts (n.bound.socket :: n.file :: held) n.close (fun _ => held) held halted := by
  refine .bind (.attempt BoundSession.close_entrusts) ?_
  rintro (cause | _)
  · exact .bind release_entrusts fun _ => .refuse _
  · exact .bind release_entrusts fun _ => .pure rfl

lemma release_entrusts :
    Run.Entrusts (n.file :: n.bound.socket :: held) n.release (fun _ => held) refused halted :=
  .bind Machine.release_entrusts fun _ => Machine.release_entrusts

lemma delete_entrusts {name : String} {o : NamespaceOptions} :
    Run.Entrusts held (delete name o) (fun _ => held) held halted := by
  unfold delete withPath
  split
  · exact .refuse _
  · exact remove_entrusts

lemma enterDefault_entrusts : Run.Entrusts held enterDefault (fun _ => held) held halted := by
  refine .bind (.mapCause openForReading_entrusts) fun file => ?_
  refine .bind (.attempt (enterNamespace_entrusts List.mem_cons_self)) ?_
  rintro (errno | _)
  · exact .bind Machine.release_entrusts fun _ => .refuse _
  · exact .bind Machine.release_entrusts fun _ => .pure rfl

end NetworkNamespace

lemma Interface.setOffload_entrusts {name : String} {enabled : Bool} :
    Run.Entrusts held (setOffload name enabled) (fun _ => held) held halted := by
  unfold setOffload
  split
  · exact .refuse _
  refine .bind (.mapCause (.mapCause (Machine.callForDescriptor_entrusts (by decide)
    (SystemCall.handsOut_openSocket ..)))) fun socket => ?_
  refine .bind (.attempt (.mapCause (Machine.call_entrusts
    (fun _ => .of_mem List.mem_cons_self rfl rfl) fun _ => rfl))) ?_
  rintro (errno | _)
  · refine .bind Machine.release_entrusts fun _ => ?_
    dsimp only
    split <;> exact .refuse _
  · exact .bind Machine.release_entrusts fun _ => .pure rfl

end

/-! ## Programs -/

/-- What can be opened. -/
inductive Handle where
  /-- A session. -/
  | session (b : BoundSession)
  /-- A namespace with a session inside it. -/
  | network (n : NetworkNamespace)

namespace Handle

/-- The descriptors that are owned. -/
def descriptors : Handle → List Nat
  | .session b => [b.socket]
  | .network n => [n.bound.socket, n.file]

/-- The session. -/
def bound : Handle → BoundSession
  | .session b => b
  | .network n => n.bound

/-- The handle with its session in another state. -/
def withBound (b : BoundSession) : Handle → Handle
  | .session _ => .session b
  | .network n => .network { n with bound := b }

/-- Closes what was opened; a failure is reported. -/
def close : Handle → Administering Unit
  | .session b => Run.mapCause .session b.close
  | .network n => n.close

/-- Lets go of what was opened; failures are passed over. -/
def drop : Handle → Administering Unit
  | .session b => Machine.release b.socket
  | .network n => n.release

/-- Moves the calling thread into a namespace.  A session is no namespace. -/
def enter : Handle → Administering Unit
  | .session _ => pure ()
  | .network n => n.enter

end Handle

/-- A program, by the machine that it works on and what it has in its hands. -/
structure Program where
  /-- The machine. -/
  machine : Machine
  /-- What is in its hands, the latest first. -/
  handles : List Handle := []

namespace Program

/-- What a program can do.  What it has in its hands is referred to by its place. -/
inductive Operation where
  /-- Opens a session. -/
  | openSession (options : SessionOptions)
  /-- Opens the namespace of a name. -/
  | openNamespace (name : String) (exclusive : Bool) (o : NamespaceOptions)
  /-- Closes a session or a namespace. -/
  | close (place : Nat)
  /-- Lets go of a session or a namespace. -/
  | drop (place : Nat)
  /-- Moves the calling thread into a namespace. -/
  | enter (place : Nat)
  /-- Deletes the namespace of a name. -/
  | delete (name : String) (o : NamespaceOptions)
  /-- Moves the calling thread into the namespace the machine was started in. -/
  | enterDefault
  /-- Turns receive offload on or off. -/
  | setOffload (interface : String) (enabled : Bool)
  /-- Uses a session, for whatever is said on it. -/
  | converse (place : Nat) (run : Run SessionError Session Unit)

/-- The descriptors that the program owns. -/
def owned (p : Program) : List Nat := p.handles.flatMap Handle.descriptors

/-- Takes what a run yields into its hands, if it yields anything. -/
def take {ε α : Type} (handle : α → Handle) (run : Run ε Machine α) (p : Program) : Program :=
  match run p.machine with
  | .ok value m => { machine := m, handles := handle value :: p.handles }
  | .refused _ m | .halted _ m => { p with machine := m }

/-- Makes a run that yields nothing. -/
def perform (run : Administering Unit) (p : Program) : Program :=
  { p with machine := (run p.machine).state }

/-- Gives something away, whatever that comes to. -/
def give (place : Nat) (run : Handle → Administering Unit) (p : Program) : Program :=
  match p.handles[place]? with
  | none => p
  | some handle =>
    { machine := (run handle p.machine).state, handles := p.handles.eraseIdx place }

/-- Moves the calling thread into what is at a place. -/
def visit (place : Nat) (p : Program) : Program :=
  match p.handles[place]? with
  | none => p
  | some handle => p.perform handle.enter

/-- Uses the session of a handle. -/
def talk (place : Nat) (run : Run SessionError Session Unit) (p : Program) : Program :=
  match p.handles[place]? with
  | none => p
  | some handle =>
    let (m, b) := (BoundSession.converse run (p.machine, handle.bound)).state
    { machine := m, handles := p.handles.set place (handle.withBound b) }

/-- The program after an operation.  The operation may have been refused or have halted. -/
def step (p : Program) : Operation → Program
  | .openSession options => p.take .session (BoundSession.connect options)
  | .openNamespace name exclusive o =>
    p.take .network (NetworkNamespace.openOrMake name exclusive o)
  | .close place => p.give place Handle.close
  | .drop place => p.give place Handle.drop
  | .enter place => p.visit place
  | .delete name o => p.perform (NetworkNamespace.delete name o)
  | .enterDefault => p.perform NetworkNamespace.enterDefault
  | .setOffload interface enabled => p.perform (Interface.setOffload interface enabled)
  | .converse place run => p.talk place run

/-- The program after some operations, one after the other. -/
def run (p : Program) (operations : List Operation) : Program := operations.foldl step p

/-! ### One operation -/

section

variable {p : Program} {held : List Nat} {place : Nat} {handle : Handle}

lemma take_custody {ε α : Type} {kind : α → Handle} {run : Run ε Machine α}
    (h : Run.Entrusts p.owned run (fun value => (kind value).descriptors ++ p.owned) p.owned
      p.owned)
    (hp : p.machine.Holds p.owned) :
    ∃ calls, p.machine.Custody p.owned calls (p.take kind run).machine (p.take kind run).owned := by
  obtain ⟨calls, hcustody⟩ := h p.machine hp
  refine ⟨calls, ?_⟩
  unfold take
  cases hrun : run p.machine <;> rw [hrun] at hcustody <;> exact hcustody

lemma perform_custody {run : Administering Unit}
    (h : Run.Entrusts p.owned run (fun _ => p.owned) p.owned p.owned)
    (hp : p.machine.Holds p.owned) :
    ∃ calls, p.machine.Custody p.owned calls (p.perform run).machine (p.perform run).owned := by
  obtain ⟨calls, hcustody⟩ := h p.machine hp
  refine ⟨calls, ?_⟩
  show p.machine.Custody p.owned calls (run p.machine).state p.owned
  cases hrun : run p.machine <;> rw [hrun] at hcustody <;> exact hcustody

/-- What is at a place is one of the things in the program's hands. -/
lemma owned_perm_eraseIdx (hhandle : p.handles[place]? = some handle) :
    p.owned.Perm (handle.descriptors ++ (p.handles.eraseIdx place).flatMap Handle.descriptors) := by
  obtain ⟨hlt, rfl⟩ := List.getElem?_eq_some_iff.1 hhandle
  exact (List.getElem_cons_eraseIdx_perm hlt).symm.flatMap_right Handle.descriptors

lemma give_custody {run : Handle → Administering Unit}
    (h : ∀ handle held,
      Run.Entrusts (handle.descriptors ++ held) (run handle) (fun _ => held) held held)
    (hp : p.machine.Holds p.owned) :
    ∃ calls,
      p.machine.Custody p.owned calls (p.give place run).machine (p.give place run).owned := by
  unfold give
  split
  · exact ⟨[], .refl _ _⟩
  · next handle hhandle =>
    have hperm := owned_perm_eraseIdx hhandle
    obtain ⟨calls, hcustody⟩ := h handle _ p.machine (hp.of_perm hperm)
    refine ⟨calls, Machine.Custody.of_perm ?_ hperm (.refl _)⟩
    cases hrun : run handle p.machine <;> rw [hrun] at hcustody <;> exact hcustody

lemma close_entrusts (handle : Handle) (held : List Nat) :
    Run.Entrusts (handle.descriptors ++ held) handle.close (fun _ => held) held held := by
  cases handle with
  | session b => exact .mapCause BoundSession.close_entrusts
  | network n => exact NetworkNamespace.close_entrusts

lemma drop_entrusts (handle : Handle) (held : List Nat) :
    Run.Entrusts (handle.descriptors ++ held) handle.drop (fun _ => held) held held := by
  cases handle with
  | session b => exact Machine.release_entrusts
  | network n => exact NetworkNamespace.release_entrusts.of_perm (.swap ..)

/-- The descriptors of what is at a place are owned. -/
lemma mem_owned (hhandle : p.handles[place]? = some handle) {d : Nat}
    (hd : d ∈ handle.descriptors) : d ∈ p.owned :=
  List.mem_flatMap.2 ⟨handle, List.mem_of_getElem? hhandle, hd⟩

lemma visit_custody (hp : p.machine.Holds p.owned) :
    ∃ calls,
      p.machine.Custody p.owned calls (p.visit place).machine (p.visit place).owned := by
  unfold visit
  split
  · exact ⟨[], .refl _ _⟩
  · next handle hhandle =>
    refine perform_custody ?_ hp
    cases handle with
    | session b => exact .pure rfl
    | network n =>
      exact NetworkNamespace.enter_entrusts
        (mem_owned hhandle (List.mem_cons_of_mem _ List.mem_cons_self))

/-- What is said on a session is said on its socket. -/
lemma converse_custody {m : Machine} {b : BoundSession} (hb : b.socket ∈ held)
    (run : Run SessionError Session Unit) :
    ∃ session calls, (BoundSession.converse run (m, b)).state
        = (b.machineAfter session m, { b with session })
      ∧ m.Custody held calls (b.machineAfter session m) held := by
  refine ⟨(run (b.onChannel m)).state, _, ?_, .of_quiet rfl rfl ?_ ?_⟩
  · unfold BoundSession.converse Run.within
    cases run (b.onChannel m) <;> rfl
  · intro hscripted name hname code hcode
    have hsend : name ≠ .sendTo := by
      rintro rfl
      exact absurd hname (by decide)
    have hcode : code ∈ if name = .sendTo then _ else m.codes name := hcode
    rw [if_neg hsend] at hcode
    exact hscripted name hname code hcode
  · intro c hc
    obtain ⟨exchange, -, rfl⟩ := List.mem_map.1 hc
    refine ⟨fun d hd => ?_, ?_⟩
    · cases exchange <;> cases hd <;> exact hb
    · cases exchange <;> exact ⟨rfl, rfl⟩

/-- Whatever is said on a session, the same descriptors are owned. -/
lemma flatMap_set_withBound (hhandle : p.handles[place]? = some handle) (session : Session) :
    (p.handles.set place (handle.withBound { handle.bound with session })).flatMap
      Handle.descriptors = p.owned := by
  have hdescriptors :
      (handle.withBound { handle.bound with session }).descriptors = handle.descriptors := by
    cases handle <;> rfl
  obtain ⟨hlt, rfl⟩ := List.getElem?_eq_some_iff.1 hhandle
  have hplace : place < (p.handles.map Handle.descriptors).length := by rwa [List.length_map]
  have hself := List.set_getElem_self hplace
  rw [List.getElem_map] at hself
  rw [owned, List.flatMap_def, List.flatMap_def, List.map_set, hdescriptors, hself]

lemma talk_custody (run : Run SessionError Session Unit) :
    ∃ calls,
      p.machine.Custody p.owned calls (p.talk place run).machine (p.talk place run).owned := by
  unfold talk
  split
  · exact ⟨[], .refl _ _⟩
  · next handle hhandle =>
    have hsocket : handle.bound.socket ∈ p.owned :=
      mem_owned hhandle (by cases handle <;> exact List.mem_cons_self)
    obtain ⟨session, calls, hstate, hcustody⟩ := converse_custody (m := p.machine) hsocket run
    rw [hstate]
    exact ⟨calls, hcustody.of_perm (.refl _) (.of_eq (flatMap_set_withBound hhandle session).symm)⟩

/-- The books of an operation balance. -/
theorem step_custody (hp : p.machine.Holds p.owned) (operation : Operation) :
    ∃ calls,
      p.machine.Custody p.owned calls (p.step operation).machine (p.step operation).owned := by
  cases operation with
  | openSession options => exact take_custody BoundSession.connect_entrusts hp
  | openNamespace name exclusive o => exact take_custody NetworkNamespace.openOrMake_entrusts hp
  | close place => exact give_custody close_entrusts hp
  | drop place => exact give_custody drop_entrusts hp
  | enter place => exact visit_custody hp
  | delete name o => exact perform_custody NetworkNamespace.delete_entrusts hp
  | enterDefault => exact perform_custody NetworkNamespace.enterDefault_entrusts hp
  | setOffload interface enabled => exact perform_custody Interface.setOffload_entrusts hp
  | converse place run => exact talk_custody run

/-- The books of all operations balance. -/
lemma run_custody_of_holds (hp : p.machine.Holds p.owned) (operations : List Operation) :
    ∃ calls,
      p.machine.Custody p.owned calls (p.run operations).machine (p.run operations).owned := by
  induction operations generalizing p with
  | nil => exact ⟨[], .refl _ _⟩
  | cons operation rest ih =>
    obtain ⟨calls, hstep⟩ := step_custody hp operation
    obtain ⟨calls', hrest⟩ := ih (hstep.holds hp)
    exact ⟨calls ++ calls', hstep.trans hrest hp⟩

end

/-- **No descriptor is lost, closed twice or used after it was closed.**  A program starts with
nothing in its hands, has done some operations and does another one.  The books of that operation
balance: what the program owned before, or was handed out during the operation, is either closed
once during the operation or owned afterwards, and what was handed out is what the open and socket
calls of the operation resulted in.  So do the books of all that was ever done, and no call was ever
made on a descriptor after it was closed. -/
theorem run_custody (start : Machine) (past : List Operation) (operation : Operation) :
    let before := run { machine := start } past
    let behind := before.step operation
    ∃ earlier calls,
      start.Custody [] earlier before.machine before.owned
        ∧ before.machine.Custody before.owned calls behind.machine behind.owned
        ∧ start.Custody [] (earlier ++ calls) behind.machine behind.owned
        ∧ (start.Scripted → ∀ d,
          before.owned.count d + (calls.filterMap SystemCall.opened?).count d
            = (calls.filterMap SystemCall.closed?).count d + behind.owned.count d) := by
  intro before behind
  have hstart : start.Holds [] := ⟨List.nodup_nil, List.forall_mem_nil _⟩
  obtain ⟨earlier, hearlier⟩ := run_custody_of_holds (p := { machine := start }) hstart past
  obtain ⟨calls, hcalls⟩ := step_custody (hearlier.holds hstart) operation
  refine ⟨earlier, calls, hearlier, hcalls, hearlier.trans hcalls hstart, fun hscripted => ?_⟩
  exact hcalls.count_opened (hearlier.opened hscripted).1

/-- The socket of a session inside an existing namespace cannot be bound: whatever was opened on the
way is closed. -/
theorem run_custody_unbound :
    let start : Machine := { codes := fun | .bindSocket => [98] | _ => [] }
    let behind := (run { machine := start } []).step (.openNamespace "lab" false {})
    start.Scripted ∧ ∀ d,
      (behind.machine.log.filterMap SystemCall.opened?).count d
        = (behind.machine.log.filterMap SystemCall.closed?).count d := by
  intro start behind
  have hscripted : start.Scripted := by
    intro name hname code hcode
    rcases List.mem_cons.1 hname with rfl | hname
    · cases hcode
    · obtain rfl := List.mem_singleton.1 hname
      cases hcode
  obtain ⟨-, calls, -, hcustody, -, hopened⟩ :=
    run_custody start [] (.openNamespace "lab" false {})
  have hlog : behind.machine.log = calls := hcustody.log
  have hnothing : behind.owned = [] := by decide +kernel
  refine ⟨hscripted, fun d => ?_⟩
  have hbalance : ([] : List Nat).count d + (calls.filterMap SystemCall.opened?).count d
      = (calls.filterMap SystemCall.closed?).count d + behind.owned.count d := hopened hscripted d
  rw [hnothing, List.count_nil, Nat.zero_add, Nat.add_zero] at hbalance
  rw [hlog]
  exact hbalance

end Program

end Rtnetlink
