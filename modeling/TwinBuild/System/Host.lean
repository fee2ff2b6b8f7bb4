import TwinBuild.System.Files

/-!
# The host

What a run reads and changes outside itself: the file tree, the current directory, the
environment, and the supply of names for temporary files. Beyond what the tree itself rules out,
the host may refuse any operation for reasons of its own, such as a full disk.

Operations keep what they did before they failed: they run in `ExceptT Fault (StateM Host)`.
-/

namespace TwinBuild

/-- An operation that the host may refuse. -/
inductive Operation where
  | makeDirectory (path : Path)
  | removeDirectory (path : Path)
  | openFile (path : Path)
  | createFile (path : Path)
  | readFile (path : Path)
  | writeFile (path : Path)
  | syncFile (path : Path)
  | renameFile (source target : Path)
  | removeFile (path : Path)
deriving DecidableEq, Repr

/-- The host that a run sees. -/
structure Host where
  files : Files
  cwd : CurrentDirectory
  environment : List (Octets × Octets) := []
  /-- The number from which the next temporary name is drawn. -/
  serial : Nat := 0
  /-- What the host refuses, whatever the tree allows. -/
  refuses : Operation → Option Errno := fun _ => none

/-- A computation on the host that may fail. -/
abbrev HostAct (α : Type) := ExceptT Fault (StateM Host) α

namespace Host

/-! ## Reading -/

/-- The value of an environment variable. -/
def valueOf (h : Host) (name : Octets) : Option Octets :=
  (h.environment.find? fun e => e.1 == name).map (·.2)

/-- The place that is the current directory, unless it has been removed. -/
def currentPlace (h : Host) : Except Fault Place :=
  if h.cwd.lost = 0 then .ok h.cwd.place else .error (.refused .noEntry)

/-- Whether a path can be handed to the operating system at all. -/
def isName (p : Path) : Bool := !p.text.contains 0

/-- What a path names. -/
def lookup (h : Host) (p : Path) : Except Fault (Place × Option Node) :=
  if isName p then (h.files.lookup h.cwd p).mapError .refused else .error .nulInName

/-- Whether a path names a directory. -/
def isDirectory (h : Host) (p : Path) : Bool :=
  match h.lookup p with
  | .ok (_, some .directory) => true
  | _ => false

/-- Whether a path names a file that may be started. -/
def isExecutable (h : Host) (p : Path) : Bool :=
  match h.lookup p with
  | .ok (_, some (.file f)) => f.executable
  | _ => false

/-! ## Changing -/

/-- Change the tree; the current directory is lost when it is removed. -/
def update (h : Host) (files : Files) : Host := { h with files, cwd := files.surviving h.cwd }

/-- Run a step of the host: either it fails and nothing has changed, or it gives a result and the
host after it. -/
def attempt {α : Type} (step : Host → Except Fault (α × Host)) : HostAct α := fun h =>
  match step h with
  | .ok (a, after) => (.ok a, after)
  | .error fault => (.error fault, h)

theorem run_attempt {α : Type} (step : Host → Except Fault (α × Host)) (h : Host) :
    (attempt step).run.run h = match step h with
      | .ok (a, after) => (.ok a, after)
      | .error fault => (.error fault, h) := rfl

theorem run_bind {ε α β : Type} (x : ExceptT ε (StateM Host) α)
    (f : α → ExceptT ε (StateM Host) β) (h : Host) :
    (x >>= f).run.run h = match x.run.run h with
      | (.ok a, after) => (f a).run.run after
      | (.error e, after) => (.error e, after) := by
  simp only [ExceptT.run_bind, StateT.run_bind]
  generalize x.run.run h = p
  obtain ⟨r, after⟩ := p
  cases r <;> rfl

/-- Fail if the host refuses the operation. -/
def permit (h : Host) (op : Operation) : Except Fault Unit :=
  match h.refuses op with
  | some number => .error (.refused number)
  | none => .ok ()

/-- Make one directory. -/
def makeDirectory (p : Path) : HostAct Unit := attempt fun h => do
  h.permit (.makeDirectory p)
  if isName p then
    match ← (h.files.locate h.cwd p).mapError .refused with
    | (place, none) => pure ((), { h with files := h.files.put place .directory })
    | (_, some _) => throw (.refused .nameTaken)
  else throw .nulInName

/-- Make a directory and those above it that are missing; `fuel` bounds how many there are. -/
def makeDirectoriesFrom : Nat → Path → HostAct Unit
  | 0, _ => pure ()
  | fuel + 1, p =>
    if p.text.isEmpty then pure ()
    else
      tryCatch (makeDirectory p) fun fault => do
        if fault = .refused .noEntry then
          match p.parent? with
          | none => throw fault
          | some above =>
            makeDirectoriesFrom fuel above
            tryCatch (makeDirectory p) fun fault => do
              if (← get).isDirectory p then pure () else throw fault
        else if (← get).isDirectory p then pure ()
        else throw fault

/-- Make a directory and those above it that are missing. -/
def makeDirectories (p : Path) : HostAct Unit := makeDirectoriesFrom (p.text.length + 1) p

/-- Open a file or directory for reading. -/
def openFile (p : Path) : HostAct Node := attempt fun h => do
  h.permit (.openFile p)
  match ← h.lookup p with
  | (_, some node) => pure (node, h)
  | (_, none) => throw (.refused .noEntry)

/-- The content of what has been opened. -/
def readNode (p : Path) (node : Node) : HostAct Octets := attempt fun h => do
  h.permit (.readFile p)
  match node with
  | .file f => pure (f.content, h)
  | .directory => throw (.refused .isADirectory)

/-- Give a file new content, or make it. -/
def writeFile (p : Path) (content : Octets) : HostAct Unit := attempt fun h => do
  h.permit (.writeFile p)
  match ← h.lookup p with
  | (place, some (.file f)) =>
    let written := { f with content := content, behaviour := .none }
    pure ((), { h with files := h.files.put place (.file written) })
  | (_, some .directory) => throw (.refused .isADirectory)
  | (place, none) =>
    if Files.wantsDirectory p then throw (.refused .isADirectory)
    else pure ((), { h with files := h.files.put place (.file { content := content }) })

/-- Put a file in a place, whatever was there, and make the directories above it that are missing. -/
def install (p : Path) (f : File) : HostAct Unit := do
  match p.parent? with
  | some above => makeDirectories above
  | none => pure ()
  attempt fun h => do
    let (place, _) ← h.lookup p
    pure ((), { h with files := h.files.put place (.file f) })

/-- Take a file away. -/
def removeFile (p : Path) : HostAct Unit := attempt fun h => do
  h.permit (.removeFile p)
  match ← h.lookup p with
  | (place, some (.file _)) => pure ((), { h with files := h.files.remove place })
  | (_, some .directory) => throw (.refused .isADirectory)
  | (_, none) => throw (.refused .noEntry)

/-- Take a directory away with all it holds. -/
def removeDirectory (p : Path) : HostAct Unit := attempt fun h => do
  h.permit (.removeDirectory p)
  match ← h.lookup p with
  | (place, some .directory) => pure ((), h.update (h.files.remove place))
  | (_, some (.file _)) => throw (.refused .notADirectory)
  | (_, none) => throw (.refused .noEntry)

/-- Make a directory the current one. -/
def enterDirectory (p : Path) : HostAct Unit := attempt fun h =>
  if isName p then
    ((h.files.enter h.cwd p).mapError .refused).map fun cwd => ((), { h with cwd })
  else .error .nulInName

/-- Flush a file to the disk. -/
def syncFile (p : Path) : HostAct Unit := attempt fun h => do
  h.permit (.syncFile p)
  pure ((), h)

/-- Move a file over another name in one step. -/
def renameFile (source target : Path) : HostAct Unit := attempt fun h => do
  h.permit (.renameFile source target)
  match ← h.lookup source, ← h.lookup target with
  | (_, none), _ => throw (.refused .noEntry)
  | (_, some .directory), _ => throw (.refused .notADirectory)
  | (_, some (.file _)), (_, some .directory) => throw (.refused .isADirectory)
  | (place, some (.file f)), (goal, _) =>
    if Files.wantsDirectory target then throw (.refused .notADirectory)
    else if place = goal then pure ((), h)
    else pure ((), { h with files := (h.files.remove place).put goal (.file f) })

/-! ## Temporary files -/

/-- The variable that names the directory for temporary files. -/
def temporaryVariable : Octets := Octets.ofString "TMPDIR"

/-- The directory for temporary files where the environment names none. -/
def usualTemporaryDirectory : Path := .ofString "/tmp"

/-- The directory for temporary files. -/
def temporaryDirectory (h : Host) : Path :=
  match h.valueOf temporaryVariable with
  | some text => ⟨text⟩
  | none => usualTemporaryDirectory

/-- The digits of a number, at least six of them. -/
def sixDigits (n : Nat) : Octets :=
  let digits := Octets.ofString (toString n)
  List.replicate (6 - digits.length) 48 ++ digits

/-- Whether the tree uses a name anywhere. -/
def usesName (h : Host) (name : Octets) : Bool :=
  h.files.entries.any fun e => e.1.getLast? == some name

/-- The first number from `serial` on whose name the tree does not use. -/
def freshNumber (h : Host) (lead : Octets) : Nat :=
  ((List.range (h.files.entries.length + 1)).find? fun k =>
    !h.usesName (lead ++ sixDigits (h.serial + k))).getD 0 + h.serial

/-- The absolute path of a directory for temporary files. -/
def absoluteBase (h : Host) (dir : Path) : Except Fault Path :=
  if dir.isAbsolute then .ok dir else h.currentPlace.map fun place => place.path.join dir

/-- A path with an unused name for a temporary file or directory in `dir`. -/
def drawTemporary (lead : Octets) (dir : Path) : HostAct Path := attempt fun h => do
  let base ← h.absoluteBase dir
  let number := h.freshNumber lead
  pure (base.join ⟨lead ++ sixDigits number⟩, { h with serial := number + 1 })

/-- Let a fault name the temporary file it concerns. -/
def about {α : Type} (p : Path) (act : HostAct α) : HostAct α :=
  tryCatch act fun fault => throw (.atPath fault p)

/-- Make an empty file where nothing is. -/
def createFile (p : Path) : HostAct Unit := attempt fun h => do
  h.permit (.createFile p)
  match ← h.lookup p with
  | (place, none) => pure ((), { h with files := h.files.put place (.file { content := [] }) })
  | (_, some _) => throw (.refused .nameTaken)

/-- Make an empty temporary file and give its path. -/
def createTemporaryFile (lead : Octets) (dir : Path) : HostAct Path := do
  let p ← drawTemporary lead dir
  about p (createFile p)
  pure p

/-- Make an empty temporary directory and give its path. -/
def createTemporaryDirectory (lead : Octets) (dir : Path) : HostAct Path := do
  let p ← drawTemporary lead dir
  about p (makeDirectory p)
  pure p

end Host

end TwinBuild
