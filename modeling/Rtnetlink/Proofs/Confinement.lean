import Rtnetlink.Proofs.Splitting
import Rtnetlink.Proofs.Storage
import Rtnetlink.Proofs.SystemCalls

/-!
# Namespaces are worked on in the run directory only

The file of a namespace is named by its options and its name alone: the name, with what is put in
front of it, is one component of a path, and the path is that of the run directory with this
component behind it.  So no name leads out of the run directory, and two names never lead to the
same file.  Whatever the system calls come to, opening and deleting a namespace works at this path
and at no other.

* `NamespaceOptions.components_join`: a file below a directory is one more component;
* `Machine.KeepsTo`: the calls made since some point work at one path, if they work at any;
* `NetworkNamespace.stays_in_runDirectory`: a name is refused before any call, or all calls are made
  at the path of its file.
-/

namespace Rtnetlink

/-! ## Paths and their components -/

namespace NamespaceOptions

/-- The components of a path: what stands between its slashes.  Slashes in a row count as one. -/
def components (path : List Char) : List (List Char) :=
  (Text.splitOn '/' path).filter fun part => !part.isEmpty

lemma components_append_slash (front rest : List Char) :
    components (front ++ '/' :: rest) = components front ++ components rest := by
  simp only [components, Text.splitOn_eq, List.splitOn_append_cons_self, List.filter_append]

/-- A text without slashes is one component. -/
lemma components_of_not_mem {file : List Char} (hslash : '/' ∉ file) (hne : file ≠ []) :
    components file = [file] := by
  rw [components, Text.splitOn_eq, List.splitOn_eq_singleton hslash]
  simp [hne]

/-- A file below a directory is named by the components of the directory and one more. -/
lemma components_join {directory file : String} (hslash : '/' ∉ file.toList)
    (hne : file.toList ≠ []) :
    components (join directory file).toList = components directory.toList ++ [file.toList] := by
  rw [← components_of_not_mem hslash hne]
  unfold join
  split
  · next hends =>
    rw [String.toList_append]
    rcases Bool.or_eq_true_iff.1 hends with hempty | hlast
    · rw [String.isEmpty_iff.1 hempty]
      rfl
    · -- the slash at the end of the directory separates the two
      obtain ⟨front, hfront⟩ := List.getLast?_eq_some_iff.1 (beq_iff_eq.1 hlast)
      have hdirectory : components (front ++ ['/']) = components front :=
        (components_append_slash front []).trans (List.append_nil _)
      rw [hfront, hdirectory, List.append_assoc]
      exact components_append_slash front file.toList
  · have hseparator : (directory ++ "/" ++ file).toList
        = directory.toList ++ '/' :: file.toList := by
      simp
    rw [hseparator, components_append_slash]

/-- A name that is not that of a file in the run directory: it is empty or, with what is put in
front of it, no component of a path or a special one. -/
def Misnamed (o : NamespaceOptions) (name : String) : Prop :=
  name = "" ∨ '/' ∈ (o.namePrefix ++ name).toList ∨ Char.ofNat 0 ∈ (o.namePrefix ++ name).toList
    ∨ o.namePrefix ++ name = "." ∨ o.namePrefix ++ name = ".."

variable {o : NamespaceOptions} {name name' path : String}

lemma isAcceptable_eq_false_iff : o.isAcceptable name = false ↔ o.Misnamed name := by
  have hdot : (o.namePrefix ++ name).toList = ['.'] ↔ o.namePrefix ++ name = "." :=
    @String.toList_inj _ "."
  have hdots : (o.namePrefix ++ name).toList = ['.', '.'] ↔ o.namePrefix ++ name = ".." :=
    @String.toList_inj _ ".."
  simp only [isAcceptable, Misnamed, Bool.not_eq_false', Bool.or_eq_true, String.isEmpty_iff,
    List.contains_iff_mem, beq_iff_eq, hdot, hdots, or_assoc]

lemma path_of_misnamed (h : o.Misnamed name) :
    o.path name = .error (.invalidNamespaceName (o.namePrefix ++ name)) := by
  rw [NamespaceOptions.path, isAcceptable_eq_false_iff.2 h]
  rfl

lemma path_of_not_misnamed (h : ¬ o.Misnamed name) :
    o.path name = .ok (join o.runDirectory (o.namePrefix ++ name)) := by
  rw [← isAcceptable_eq_false_iff, Bool.not_eq_false] at h
  rw [NamespaceOptions.path, if_pos h]

lemma path_eq_ok_iff :
    o.path name = .ok path
      ↔ ¬ o.Misnamed name ∧ path = join o.runDirectory (o.namePrefix ++ name) := by
  by_cases h : o.Misnamed name
  · rw [path_of_misnamed h]
    simp [h]
  · rw [path_of_not_misnamed h]
    simp [h, eq_comm]

/-- The components of a path of a namespace are those of the run directory and the name, with what
is put in front of it. -/
lemma components_of_path (h : o.path name = .ok path) :
    components path.toList
      = components o.runDirectory.toList ++ [(o.namePrefix ++ name).toList] := by
  obtain ⟨hnamed, rfl⟩ := path_eq_ok_iff.1 h
  refine components_join (fun hslash => hnamed (.inr (.inl hslash))) fun hnil => ?_
  rw [String.toList_append, List.append_eq_nil_iff] at hnil
  exact hnamed (.inl (String.toList_eq_nil_iff.1 hnil.2))

/-- Two names never lead to the same file. -/
lemma path_injective (h : o.path name = .ok path) (h' : o.path name' = .ok path) :
    name' = name := by
  have hcomponents := components_of_path h
  rw [components_of_path h', List.append_cancel_left_eq, List.singleton_inj,
    String.toList_inj] at hcomponents
  exact (String.append_right_inj o.namePrefix).1 hcomponents

end NamespaceOptions

/-! ## Calls at one path -/

/-- The path that a call works at.  For a mount it is the place where something is mounted. -/
def SystemCall.place? : SystemCall → Option String
  | .openFile path .. | .removeFile path .. | .makeDirectory path .. | .unmount path .. => some path
  | .mount _ target .. => some target
  | .closeFile .. | .enterNamespace .. | .newNamespace .. | .openSocket .. | .bindSocket ..
  | .socketName .. | .sendTo .. | .receiveFrom .. | .deviceControl .. => none

section

variable {c : SystemCall} {path place : String}

lemma SystemCall.eq_of_place? (h : c.place? = some path) (hplace : place ∈ c.place?) :
    place = path :=
  (Option.some.inj (h.symm.trans hplace)).symm

/-- A call that works at no path may be made at any point. -/
lemma SystemCall.eq_of_place?_eq_none (h : c.place? = none) (hplace : place ∈ c.place?) :
    place = path :=
  absurd (h.symm.trans hplace) (Option.some_ne_none place).symm

end

namespace Machine

/-- The calls that a machine made since some point work at one path, if they work at any. -/
def KeepsTo (path : String) (past : List SystemCall) (m : Machine) : Prop :=
  ∃ calls, m.log = past ++ calls ∧ ∀ c ∈ calls, ∀ place ∈ c.place?, place = path

variable {ε : Type} {path : String} {past : List SystemCall} {m m' : Machine}
  {name : CallName} {entry : Int → SystemCall}

lemma keepsTo_self (path : String) (m : Machine) : m.KeepsTo path m.log :=
  ⟨[], (List.append_nil _).symm, List.forall_mem_nil _⟩

lemma KeepsTo.logging (h : m.KeepsTo path past) (calls : List SystemCall)
    (hlog : m'.log = m.log ++ calls) (hcalls : ∀ c ∈ calls, ∀ place ∈ c.place?, place = path) :
    m'.KeepsTo path past := by
  obtain ⟨earlier, hearlier, hkept⟩ := h
  refine ⟨earlier ++ calls, by rw [hlog, hearlier, List.append_assoc], fun c hc => ?_⟩
  rcases List.mem_append.1 hc with hc | hc
  · exact hkept c hc
  · exact hcalls c hc

section

variable (hentry : ∀ result, ∀ place ∈ (entry result).place?, place = path)
include hentry

lemma call_keepsTo : Run.Maintains (KeepsTo path past) (call name entry) := by
  intro m hm
  have hlogged : KeepsTo path past { (m.takeCode name).2 with
      log := (m.takeCode name).2.log ++ [entry (-(m.takeCode name).1)] } := by
    refine hm.logging [entry (-(m.takeCode name).1)] (by rw [log_takeCode]) ?_
    exact List.forall_mem_singleton.2 (hentry _)
  unfold call
  dsimp only
  split <;> exact hlogged

lemma callForDescriptor_keepsTo :
    Run.Maintains (KeepsTo path past) (callForDescriptor name entry) := by
  intro m hm
  have hlog := log_takeCode m name
  unfold callForDescriptor
  dsimp only
  split
  · refine hm.logging [entry (m.takeCode name).2.nextDescriptor] (by rw [← hlog]; rfl) ?_
    exact List.forall_mem_singleton.2 (hentry _)
  · refine hm.logging [entry (-(m.takeCode name).1)] (by rw [← hlog]; rfl) ?_
    exact List.forall_mem_singleton.2 (hentry _)

lemma passInterruptions_keepsTo :
    Run.Maintains (KeepsTo path past) (passInterruptions name entry : Run ε Machine Unit) := by
  refine Run.maintains_modify fun m hm => hm.logging _ rfl fun c hc => ?_
  obtain ⟨code, -, rfl⟩ := List.mem_map.1 hc
  exact hentry _

lemma openFile_keepsTo : Run.Maintains (KeepsTo path past) (openFile entry) :=
  (passInterruptions_keepsTo hentry).bind fun _ => callForDescriptor_keepsTo hentry

end

/-! ## The steps of opening and deleting -/

lemma withFile_keepsTo {α : Type} {run : Calling α} (h : Run.Maintains (KeepsTo path past) run) :
    Run.Maintains (KeepsTo path past) (withFile path run) := by
  unfold withFile
  split
  · exact h.mapCause _
  · exact Run.maintains_refuse _

lemma withPath_keepsTo {α : Type} {run : Calling α} (h : Run.Maintains (KeepsTo path past) run) :
    Run.Maintains (KeepsTo path past) (withPath path run) := by
  unfold withPath
  split
  · exact h.mapCause _
  · exact Run.maintains_refuse _

lemma openForReading_keepsTo : Run.Maintains (KeepsTo path past) (openForReading path) :=
  withFile_keepsTo (openFile_keepsTo fun _ _ => SystemCall.eq_of_place? rfl)

lemma openForCreating_keepsTo {mustBeNew : Bool} :
    Run.Maintains (KeepsTo path past) (openForCreating path mustBeNew) :=
  withFile_keepsTo (openFile_keepsTo fun _ _ => SystemCall.eq_of_place? rfl)

lemma removeFile_keepsTo : Run.Maintains (KeepsTo path past) (removeFile path) :=
  withFile_keepsTo (call_keepsTo fun _ _ => SystemCall.eq_of_place? rfl)

lemma bindMount_keepsTo {source : String} :
    Run.Maintains (KeepsTo path past) (bindMount source path) :=
  withPath_keepsTo (call_keepsTo fun _ _ => SystemCall.eq_of_place? rfl)

lemma unmount_keepsTo : Run.Maintains (KeepsTo path past) (unmount path) :=
  withPath_keepsTo (call_keepsTo fun _ _ => SystemCall.eq_of_place? rfl)

lemma release_keepsTo {descriptor : Nat} :
    Run.Maintains (KeepsTo path past) (release descriptor : Run ε Machine Unit) :=
  .bind (.attempt (call_keepsTo fun _ _ => SystemCall.eq_of_place?_eq_none rfl))
    fun _ => Run.maintains_pure ()

lemma enterNamespace_keepsTo {descriptor : Nat} :
    Run.Maintains (KeepsTo path past) (enterNamespace descriptor) :=
  .mapCause (call_keepsTo fun _ _ => SystemCall.eq_of_place?_eq_none rfl) _

lemma newNamespace_keepsTo : Run.Maintains (KeepsTo path past) newNamespace :=
  .mapCause (call_keepsTo fun _ _ => SystemCall.eq_of_place?_eq_none rfl) _

lemma openRoutingSocket_keepsTo : Run.Maintains (KeepsTo path past) openRoutingSocket :=
  .mapCause (callForDescriptor_keepsTo fun _ _ => SystemCall.eq_of_place?_eq_none rfl) _

lemma bindSocket_keepsTo {socket : Nat} :
    Run.Maintains (KeepsTo path past) (bindSocket socket) :=
  .mapCause (call_keepsTo fun _ _ => SystemCall.eq_of_place?_eq_none rfl) _

lemma takePortId_keepsTo : Run.Maintains (KeepsTo path past) takePortId := by
  intro m hm
  unfold takePortId
  split <;> exact hm

lemma socketPortId_keepsTo {socket : Nat} :
    Run.Maintains (KeepsTo path past) (socketPortId socket) := by
  refine .mapCause (takePortId_keepsTo.bind fun _ => .bind ?_ fun _ => Run.maintains_pure _) _
  exact call_keepsTo fun _ _ => SystemCall.eq_of_place?_eq_none rfl

end Machine

open Machine

variable {path : String} {past : List SystemCall}

/-- Opening a session works at no path at all. -/
lemma BoundSession.connect_keepsTo {options : SessionOptions} :
    Run.Maintains (KeepsTo path past) (connect options) := by
  refine (openRoutingSocket_keepsTo.mapCause _).bind fun socket => ?_
  refine bindSocket_keepsTo.attempt.bind ?_
  rintro (errno | _)
  · exact release_keepsTo.bind fun _ => Run.maintains_refuse _
  refine socketPortId_keepsTo.attempt.bind ?_
  rintro (errno | portId)
  · exact release_keepsTo.bind fun _ => Run.maintains_refuse _
  dsimp only
  split
  · exact Run.maintains_pure _
  · exact release_keepsTo.bind fun _ => Run.maintains_halt _

namespace NetworkNamespace

lemma discard_keepsTo : Run.Maintains (KeepsTo path past) (discard path) :=
  removeFile_keepsTo.attempt.bind fun _ => Run.maintains_pure ()

lemma remove_keepsTo : Run.Maintains (KeepsTo path past) (remove path) :=
  (unmount_keepsTo.mapCause _).bind fun _ => removeFile_keepsTo.mapCause _

lemma rollback_keepsTo : Run.Maintains (KeepsTo path past) (rollback path) :=
  remove_keepsTo.attempt.bind fun _ => Run.maintains_pure ()

/-- The namespace that is bound to the file is at another path, but the file is what is mounted
on. -/
lemma create_keepsTo {exclusive : Bool} :
    Run.Maintains (KeepsTo path past) (create path exclusive) := by
  refine (openForCreating_keepsTo.mapCause _).bind fun file => release_keepsTo.bind fun _ => ?_
  refine newNamespace_keepsTo.attempt.bind ?_
  rintro (errno | _)
  · exact discard_keepsTo.bind fun _ => Run.maintains_refuse _
  refine bindMount_keepsTo.attempt.bind ?_
  rintro (errno | _)
  · exact discard_keepsTo.bind fun _ => Run.maintains_refuse _
  · exact Run.maintains_pure _

lemma enterExisting_keepsTo {file : Nat} :
    Run.Maintains (KeepsTo path past) (enterExisting file) := by
  refine enterNamespace_keepsTo.attempt.bind ?_
  rintro (errno | _)
  · exact release_keepsTo.bind fun _ => Run.maintains_refuse _
  · exact Run.maintains_pure _

lemma make_keepsTo {exclusive : Bool} :
    Run.Maintains (KeepsTo path past) (make path exclusive) := by
  refine create_keepsTo.bind fun _ => openForReading_keepsTo.attempt.bind ?_
  rintro (cause | file)
  · exact rollback_keepsTo.bind fun _ => Run.maintains_refuse _
  · exact Run.maintains_pure _

variable {name : String} {o : NamespaceOptions}

lemma connect_keepsTo {file : Nat} {made : Bool} :
    Run.Maintains (KeepsTo path past) (connect name path file made o) := by
  refine (BoundSession.connect_keepsTo.onHalt release_keepsTo).attempt.bind ?_
  rintro (cause | bound)
  · dsimp only
    split
    · exact rollback_keepsTo.bind fun _ => release_keepsTo.bind fun _ => Run.maintains_refuse _
    · exact release_keepsTo.bind fun _ => Run.maintains_refuse _
  · exact Run.maintains_pure _

lemma lookUp_keepsTo {exclusive : Bool} :
    Run.Maintains (KeepsTo path past) (lookUp path exclusive) := by
  unfold lookUp
  split
  · exact Run.maintains_pure _
  · exact openForReading_keepsTo.attempt.bind fun _ => Run.maintains_pure _

/-- All that an opening does with a path is done at that path. -/
lemma openOrMake_keepsTo {exclusive : Bool} (h : o.path name = .ok path) :
    Run.Maintains (KeepsTo path past) (openOrMake name exclusive o) := by
  unfold openOrMake withPath
  rw [h]
  refine lookUp_keepsTo.bind ?_
  rintro (_ | file)
  · exact make_keepsTo.bind fun _ => connect_keepsTo
  · exact enterExisting_keepsTo.bind fun _ => connect_keepsTo

lemma delete_keepsTo (h : o.path name = .ok path) :
    Run.Maintains (KeepsTo path past) (delete name o) := by
  unfold delete withPath
  rw [h]
  exact remove_keepsTo

/-- **Opening and deleting stay in the run directory.**  If a name is empty or, with what is put in
front of it, is not one component of a path or a special one, both are refused for that name before
any call.  Otherwise there is one path, which has the components of the run directory and the name,
with what is put in front of it, as its last one.  No other name leads to this path.  Whatever the
calls come to, what an opening or a deletion opens, mounts on, unmounts or removes is at this
path. -/
theorem stays_in_runDirectory (name : String) (exclusive : Bool) (o : NamespaceOptions)
    (m : Machine) :
    (o.Misnamed name ∧
        openOrMake name exclusive o m
          = .refused (.invalidNamespaceName (o.namePrefix ++ name)) m ∧
        delete name o m = .refused (.invalidNamespaceName (o.namePrefix ++ name)) m) ∨
      ∃ path, ¬ o.Misnamed name ∧
        path = NamespaceOptions.join o.runDirectory (o.namePrefix ++ name) ∧
        NamespaceOptions.components path.toList
          = NamespaceOptions.components o.runDirectory.toList ++ [(o.namePrefix ++ name).toList] ∧
        (∀ name', o.path name' = .ok path ↔ name' = name) ∧
        (openOrMake name exclusive o m).state.KeepsTo path m.log ∧
        (delete name o m).state.KeepsTo path m.log := by
  by_cases hnamed : o.Misnamed name
  · have hpath := NamespaceOptions.path_of_misnamed hnamed
    refine .inl ⟨hnamed, ?_, ?_⟩
    · rw [openOrMake, withPath, hpath]
      rfl
    · rw [delete, withPath, hpath]
      rfl
  · have hpath := NamespaceOptions.path_of_not_misnamed hnamed
    refine .inr ⟨_, hnamed, rfl, NamespaceOptions.components_of_path hpath, fun name' => ?_,
      openOrMake_keepsTo hpath m (keepsTo_self _ m), delete_keepsTo hpath m (keepsTo_self _ m)⟩
    constructor
    · exact NamespaceOptions.path_injective hpath
    · rintro rfl
      exact hpath

-- a name that is special only with what is put in front of it, and the components of a path
example : ({ namePrefix := "." } : NamespaceOptions).Misnamed "."
    ∧ NamespaceOptions.components "/var//run/netns/mirage-h1".toList
      = ["var".toList, "run".toList, "netns".toList, "mirage-h1".toList] :=
  ⟨.inr (.inr (.inr (.inr rfl))), by decide⟩

end NetworkNamespace

end Rtnetlink
