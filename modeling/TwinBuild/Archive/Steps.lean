import TwinBuild.Archive

/-!
# Storing step by step

A call that stores a bitcode file makes the directory of the archive, opens the file, makes a staged
copy under an unused name, passes the content on piece by piece, flushes the copy and moves it over
the entry. After a failure it takes the copy away again. Between any two steps other calls may take
theirs, the host may change its mind about what it refuses, and a call may be stopped for good.

`Archive.store` is a call that takes its steps in a row and passes the content on in one piece.
-/

namespace TwinBuild.Archive

/-- How far a call has come. -/
inductive Phase where
  | begun
  /-- The directory of the archive is there. -/
  | rooted
  | opened (source : Node)
  /-- A staged copy is there, and this much has been passed on. -/
  | copying (source : Node) (copy : Path) (written : Octets)
  | copied (source : Node) (copy : Path)
  | flushed (source : Node) (copy : Path)
  /-- The copy has been moved over the entry. -/
  | succeeded (source : Node)
  /-- A step with the copy has failed. -/
  | dropping (copy : Path) (error : ArchiveError)
  /-- The call has failed. A copy that could not be taken away is left. -/
  | failed (error : ArchiveError) (left : Option Path)
deriving DecidableEq, Repr

namespace Phase

/-- The staged copy that there is. -/
def copy? : Phase → Option Path
  | copying _ copy _ => some copy
  | copied _ copy => some copy
  | flushed _ copy => some copy
  | dropping copy _ => some copy
  | failed _ left => left
  | _ => none

/-- What was opened, unless the call has failed. -/
def source? : Phase → Option Node
  | opened source => some source
  | copying source _ _ => some source
  | copied source _ => some source
  | flushed source _ => some source
  | succeeded source => some source
  | _ => none

/-- What a finished call answers. -/
def answer? (a : Archive) (bitcode : Path) : Phase → Option (Except ArchiveError Path)
  | succeeded _ => some (.ok (a.entry bitcode))
  | failed error _ => some (.error error)
  | _ => none

/-- Go on with one of two phases, as an operation succeeds or fails. -/
def proceed {α : Type} (act : HostAct α) (success : α → Phase) (failure : Fault → Phase)
    (h : Host) : Phase × Host :=
  match act.run.run h with
  | (.ok x, h) => (success x, h)
  | (.error fault, h) => (failure fault, h)

/-- Pass on up to `n` octets of what was opened. A step for none is the last one if nothing is
left. -/
def pass (bitcode : Path) (source : Node) (copy : Path) (written : Octets) (n : Nat) :
    HostAct Phase := do
  let content ← Host.readNode bitcode source
  if n = 0 ∧ written = content then pure (copied source copy)
  else do
    let written := written ++ (content.drop written.length).take n
    Host.writeFile copy written
    pure (copying source copy written)

/-- One step of a call; `n` bounds the piece that is passed on. -/
def step (a : Archive) (bitcode : Path) (n : Nat) : Phase → Host → Phase × Host
  | begun =>
    proceed (Host.makeDirectories a.root) (fun _ => rooted)
      fun fault => failed (.makeRoot a.root fault) none
  | rooted =>
    proceed (Host.openFile bitcode) opened
      fun fault => failed (.openBitcode bitcode fault) none
  | opened source =>
    proceed (Host.createTemporaryFile stagedLead a.root) (fun copy => copying source copy [])
      fun fault => failed (.stage a.root fault) none
  | copying source copy written =>
    proceed (pass bitcode source copy written n) id
      fun fault => dropping copy (.copy (a.entry bitcode) fault)
  | copied source copy =>
    proceed (Host.syncFile copy) (fun _ => flushed source copy)
      fun fault => dropping copy (.sync (a.entry bitcode) fault)
  | flushed source copy =>
    proceed (Host.renameFile copy (a.entry bitcode)) (fun _ => succeeded source)
      fun fault => dropping copy (.place (a.entry bitcode) fault)
  | dropping copy error =>
    proceed (Host.removeFile copy) (fun _ => failed error none)
      fun _ => failed error (some copy)
  | succeeded source => fun h => (succeeded source, h)
  | failed error left => fun h => (failed error left, h)

end Phase

/-- Calls on one host, and how far each has come. -/
structure Calls (ι : Type) where
  host : Host
  phase : ι → Phase

namespace Calls

/-- No call has taken a step. -/
def initial {ι : Type} (h : Host) : Calls ι := ⟨h, fun _ => .begun⟩

/-- **What can happen next**: one call takes a step, or the host comes to refuse other operations
and to draw other numbers. -/
inductive Step {ι : Type} (a : Archive) (bitcode : ι → Path) : Calls ι → Calls ι → Prop
  | call {σ : Calls ι} {phase : ι → Phase} {host : Host} (i : ι) (n : Nat)
      (own : (σ.phase i).step a (bitcode i) n σ.host = (phase i, host))
      (others : ∀ j, j ≠ i → phase j = σ.phase j) : Step a bitcode σ ⟨host, phase⟩
  | host {σ : Calls ι} (refuses : Operation → Option Errno) (serial : Nat) :
      Step a bitcode σ { σ with host := { σ.host with refuses, serial } }

end Calls

end TwinBuild.Archive
