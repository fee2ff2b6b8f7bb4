import TwinBuild.Sha256
import TwinBuild.System.Host

/-!
# The bitcode archive

A directory with a copy of every bitcode file, under the digest of the file's absolute path.
Nothing is ever taken away, and writing a name again replaces its entry in one step: the copy is
staged beside the entry, flushed, and moved over it.
-/

namespace TwinBuild

/-- An archive, by its directory. -/
structure Archive where
  root : Path
deriving DecidableEq, Repr

/-- The steps at which storing can fail, each with the path it concerns. -/
inductive ArchiveError where
  | makeRoot (root : Path) (fault : Fault)
  | openBitcode (bitcode : Path) (fault : Fault)
  | stage (root : Path) (fault : Fault)
  | copy (entry : Path) (fault : Fault)
  | sync (entry : Path) (fault : Fault)
  | place (entry : Path) (fault : Fault)
deriving DecidableEq, Repr

/-- What a message says of a failed step. -/
def ArchiveError.text : ArchiveError → String
  | makeRoot p f => "could not create bitcode store " ++ p.quoted ++ ": " ++ f.text
  | openBitcode p f => "could not open bitcode file " ++ p.quoted ++ ": " ++ f.text
  | stage p f => "could not create temporary store entry in " ++ p.quoted ++ ": " ++ f.text
  | copy p f => "copying bitcode into store entry " ++ p.quoted ++ " failed: " ++ f.text
  | sync p f => "syncing store entry " ++ p.quoted ++ " failed: " ++ f.text
  | place p f => "could not move store entry into place at " ++ p.quoted ++ ": " ++ f.text

namespace Archive

/-- The name of the entry for a bitcode file. -/
def entryName (bitcode : Path) : Octets := Octets.ofString (Sha256.hexDigest bitcode.text)

/-- The path of the entry for a bitcode file. -/
def entry (a : Archive) (bitcode : Path) : Path := a.root.join ⟨entryName bitcode⟩

/-- What the names of staged copies begin with. -/
def stagedLead : Octets := Octets.ofString ".staged-"

/-- Name the step at which a fault arose. -/
def atStep {α : Type} (error : Fault → ArchiveError) (act : HostAct α) :
    ExceptT ArchiveError (StateM Host) α := fun h =>
  match act h with
  | (.ok a, h) => (.ok a, h)
  | (.error fault, h) => (.error (error fault), h)

/-- Take the staged copy away after a failure; that this may fail too is passed over. -/
def discard (staged : Path) : ExceptT ArchiveError (StateM Host) Unit := fun h =>
  (.ok (), (Host.removeFile staged h).2)

/-- Fill, flush and place a staged copy. -/
def fill (a : Archive) (bitcode : Path) (source : Node) (staged : Path) :
    ExceptT ArchiveError (StateM Host) Unit := do
  let entry := a.entry bitcode
  let content ← atStep (.copy entry) (Host.readNode bitcode source)
  atStep (.copy entry) (Host.writeFile staged content)
  atStep (.sync entry) (Host.syncFile staged)
  atStep (.place entry) (Host.renameFile staged entry)

/-- Copy a bitcode file into the archive and give the path of its entry. -/
def store (a : Archive) (bitcode : Path) : ExceptT ArchiveError (StateM Host) Path := do
  atStep (.makeRoot a.root) (Host.makeDirectories a.root)
  let source ← atStep (.openBitcode bitcode) (Host.openFile bitcode)
  let staged ← atStep (.stage a.root) (Host.createTemporaryFile stagedLead a.root)
  tryCatch (a.fill bitcode source staged) fun error => do
    discard staged
    throw error
  pure (a.entry bitcode)

end Archive

end TwinBuild
