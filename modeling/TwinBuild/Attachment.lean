import TwinBuild.Archive
import TwinBuild.Artifact
import TwinBuild.Embedding
import TwinBuild.Session

/-!
# Attaching bitcode to objects

The absolute path of a bitcode file is written into the object compiled from the same source, by
way of a temporary payload file, and the bitcode is copied into the archive if there is one. No
failure here is one of the run: it is logged and the run goes on.
-/

namespace TwinBuild

/-- A bitcode file with the object compiled from the same source. -/
structure Pairing where
  bitcode : Path
  object : Path
deriving DecidableEq, Repr

/-- What came of attaching. -/
inductive Attachment where
  /-- The object is no object file, and nothing was done. -/
  | notAnObject
  /-- The payload could not be made, and nothing else was done. -/
  | noPayload
  /-- The payload was handed to the embedder, and the archive tried. -/
  | attempted (embedded : Bool) (stored : Option Path)
deriving DecidableEq, Repr

namespace Attachment

/-- What the names of temporary files begin with. -/
def temporaryLead : Octets := Octets.ofString "dualcc"

/-- The payload for a bitcode file: its path as readable text on a line of its own. -/
def payloadOf (bitcode : Path) : Octets := Octets.ofString (bitcode.lossy ++ "\n")

/-- Make a payload file; it is taken away again if it cannot be written. -/
def writePayload (bitcode : Path) : HostAct Path := do
  let p ← Host.createTemporaryFile temporaryLead (← get).temporaryDirectory
  tryCatch (Host.about p (Host.writeFile p (payloadOf bitcode))) fun fault => do
    let _ ← tryCatch (Host.removeFile p) fun _ => pure ()
    throw fault
  pure p

/-- Copy a bitcode file into the archive if there is one; a failure is logged. -/
def store (archive? : Option Archive) (bitcode : Path) : SessionM (Option Path) :=
  match archive? with
  | none => pure none
  | some archive => do
    match ← Session.onHost (archive.store bitcode) with
    | .ok entry => pure (some entry)
    | .error e => do
      Session.say .warn .attachment e.text
      pure none

/-- Have the embedder write a payload into an object, and take the payload away; the answer is
whether the embedder succeeded. -/
def embed (runner : Runner) (embedder : Embedder) (object payload : Path) : SessionM Bool := do
  let verdict ← Session.run runner (embedder.command object payload)
  match verdict with
  | .ok () => pure ()
  | .error e => Session.say .debug .attachment ("Embedding bitcode path failed: " ++ e.text)
  match ← Session.onHost (Host.about payload (Host.removeFile payload)) with
  | .ok () => pure ()
  | .error fault =>
    Session.say .warn .attachment ("Could not remove temporary file: " ++ fault.text)
  pure verdict.isOk

/-- Attach a bitcode file, given by the one spelling of its place, to an object file. -/
def attachClean (runner : Runner) (embedder : Embedder) (archive? : Option Archive)
    (object bitcode : Path) : SessionM Attachment := do
  match ← Session.onHost (writePayload bitcode) with
  | .error fault => do
    Session.say .error .attachment
      ("Could not write bitcode path for " ++ object.quoted ++ ": " ++ fault.text)
    pure .noPayload
  | .ok payload => do
    let embedded ← embed runner embedder object payload
    let stored ← store archive? bitcode
    pure (.attempted embedded stored)

/-- Attach a bitcode file to its object. -/
def attach (runner : Runner) (embedder : Embedder) (archive? : Option Archive)
    (pairing : Pairing) : SessionM Attachment :=
  if pairing.object.isObject then do
    match pairing.bitcode.absoluteClean (← get).host.currentPlace with
    | .error fault => do
      Session.say .error .attachment
        ("Could not resolve bitcode path " ++ pairing.bitcode.quoted ++ ": " ++ fault.text)
      pure .noPayload
    | .ok bitcode => attachClean runner embedder archive? pairing.object bitcode
  else do
    Session.say .debug .attachment
      ("Not attaching bitcode to " ++ pairing.object.quoted ++ ": not an object file")
    pure .notAnObject

end Attachment

end TwinBuild
