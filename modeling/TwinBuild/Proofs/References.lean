import Mathlib.Data.List.Forall2
import TwinBuild.Proofs.Attaching
import TwinBuild.Proofs.ReadableText
import TwinBuild.Proofs.Storing
import TwinBuild.Rehearsal

/-!
# References can be read back

A linker puts the payloads of the objects one after the other. What was embedded is read back by
cutting that section at its line feeds. This gives the bitcode paths back as they were hashed for
the archive, if they are well-formed text and hold no line feed themselves.

Main statement: `references_read_back`.
-/

namespace TwinBuild

/-- The line feed that ends a reference. -/
def Octets.newline : UInt8 := 10

open Octets (newline)

/-- The content of the file that a path names. -/
def Host.contentAt? (h : Host) (p : Path) : Option Octets :=
  match h.lookup p with
  | .ok (_, some (.file f)) => some f.content
  | _ => none

/-- **A file that is written** holds what was written. -/
theorem Host.contentAt?_of_writeFile {p : Path} {content : Octets} {h h' : Host}
    (hwrite : (Host.writeFile p content).run.run h = (.ok (), h')) :
    h'.contentAt? p = some content := by
  obtain ⟨hkeeps, f, hcontent, hmade⟩ := Host.writeFile_makes hwrite
  obtain ⟨node, hlookup, hnode, hwants, -⟩ := Host.writeFile_ok hwrite
  have hthere : h'.nodeAt p = some (.file f) := by
    rw [Host.nodeAt, hkeeps.placeOf, hmade, if_pos rfl]
  unfold Host.contentAt?
  rw [hkeeps.lookup hlookup hnode hwants, hthere]
  exact congrArg some hcontent

namespace Embedder

/-- The payload file that an embed command names. -/
def payloadOf? (e : Embedder) (c : Command) : Option Path :=
  match e, c.arguments with
  | .elf _, [_, assignment, _] => some ⟨assignment.drop (elfSection.length + 1)⟩
  | .machO _, [_, _, _, _, _, _, payload, _, _] => some ⟨payload⟩
  | _, _ => none

/-- What an embed command puts into its object: the content of the payload file when the command is
issued. -/
def embedded (e : Embedder) (issue : Issue) : Octets :=
  ((e.payloadOf? issue.command).bind issue.before.contentAt?).getD []

/-- What a linker makes of the sections of objects. -/
def linked (e : Embedder) (issues : List Issue) : Octets := issues.flatMap e.embedded

theorem payloadOf?_command (e : Embedder) (object payload : Path) :
    e.payloadOf? (e.command object payload) = some payload := by
  cases e with
  | elf objcopy =>
      have hassignment : (elfSection ++ Octets.ofString "=" ++ payload.text).drop
          (elfSection.length + 1) = payload.text :=
        List.drop_left' (by rw [List.length_append]; rfl)
      unfold payloadOf? command
      simp only
      rw [hassignment]
  | machO ld => rfl

end Embedder

/-- The references in a section: its lines, each without the line feed at its end. -/
def references (content : Octets) : List Octets := (Separated.split newline content).dropLast

/-! ## Lines -/

/-- A line that is put before a section comes first, in pieces if it holds line feeds itself. -/
theorem references_line (line rest : Octets) :
    references (line ++ newline :: rest) = Separated.split newline line ++ references rest := by
  unfold references
  rw [Separated.split_append_sep, List.dropLast_append_of_ne_nil (Separated.split_ne_nil _ _)]

theorem references_lines (lines : List Octets) :
    references (lines.flatMap fun line => line ++ [newline])
      = lines.flatMap (Separated.split newline) := by
  induction lines with
  | nil => rfl
  | cons line lines ih =>
      rw [List.flatMap_cons, List.append_assoc, List.singleton_append, references_line, ih,
        List.flatMap_cons]

/-- Lines come back whole exactly if none of them holds a line feed. -/
theorem flatMap_split_eq_iff (lines : List Octets) :
    lines.flatMap (Separated.split newline) = lines ↔ ∀ line ∈ lines, newline ∉ line := by
  constructor
  · intro h
    induction lines with
    | nil => exact fun _ hline => absurd hline List.not_mem_nil
    | cons line lines ih =>
        rw [List.flatMap_cons] at h
        have hline : newline ∉ line := by
          -- the first piece is the whole line, and no piece holds a line feed
          cases hsplit : Separated.split newline line with
          | nil => exact absurd hsplit (Separated.split_ne_nil _ _)
          | cons first pieces =>
              have hfirst := Separated.not_mem_of_mem_split
                (hsplit ▸ List.mem_cons_self : first ∈ Separated.split newline line)
              rw [hsplit] at h
              rwa [(List.cons.inj h).1] at hfirst
        rw [Separated.split_eq_singleton newline line hline] at h
        rw [List.forall_mem_cons]
        exact ⟨hline, ih (List.cons.inj h).2⟩
  · intro h
    induction lines with
    | nil => rfl
    | cons line lines ih =>
        rw [List.forall_mem_cons] at h
        rw [List.flatMap_cons, Separated.split_eq_singleton newline line h.1, ih h.2]
        rfl

/-! ## Payloads -/

namespace Attachment

/-- The payload for a path that is well-formed text is the path itself on a line. -/
theorem payloadOf_of_isValid {p : Path} (h : Utf8.isValid p.text = true) :
    payloadOf p = p.text ++ [newline] := by
  unfold payloadOf Path.lossy
  rw [Octets.ofString_append, Utf8.ofString_lossy h]
  rfl

theorem cwd_createTemporaryFile {lead : Octets} {dir : Path} {h h' : Host}
    {result : Except Fault Path}
    (hrun : (Host.createTemporaryFile lead dir).run.run h = (result, h')) : h'.cwd = h.cwd := by
  rcases Host.run_createTemporaryFile hrun with ⟨rfl, -⟩ | ⟨base, n, -, hcases⟩
  · rfl
  · rcases hcases with ⟨_, -, rfl⟩ | ⟨-, hcreate⟩
    · rfl
    · exact (Host.createFile_makes hcreate).1.cwd

/-- How a payload file is made: a file is made and written, and taken away again if it cannot be
written. -/
theorem run_writePayload {bitcode : Path} {h h' : Host} {result : Except Fault Path}
    (hrun : (writePayload bitcode).run.run h = (result, h')) :
    (∃ fault, result = .error fault
      ∧ (Host.createTemporaryFile temporaryLead h.temporaryDirectory).run.run h
        = (.error fault, h'))
    ∨ ∃ p between, (Host.createTemporaryFile temporaryLead h.temporaryDirectory).run.run h
        = (.ok p, between)
      ∧ ((result = .ok p
          ∧ (Host.writeFile p (payloadOf bitcode)).run.run between = (.ok (), h'))
        ∨ ((∃ fault, result = .error fault)
          ∧ h' = ((Host.removeFile p).run.run between).2)) := by
  unfold writePayload at hrun
  rw [Host.run_bind, show (get : HostAct Host).run.run h = (.ok h, h) from rfl] at hrun
  simp only [Host.run_bind, Host.run_tryCatch, Host.run_about] at hrun
  generalize (Host.createTemporaryFile temporaryLead h.temporaryDirectory).run.run h = created
    at hrun ⊢
  obtain ⟨fault | p, between⟩ := created
  · cases hrun
    exact .inl ⟨fault, rfl, rfl⟩
  refine .inr ⟨p, between, rfl, ?_⟩
  simp only at hrun
  generalize hwrite : (Host.writeFile p (payloadOf bitcode)).run.run between = written at hrun ⊢
  obtain ⟨fault | _, after⟩ := written
  · -- the handler throws the fault again
    rw [Host.attempt_error hwrite] at hrun
    simp only [Except.mapError] at hrun
    generalize (Host.removeFile p).run.run between = removed at hrun ⊢
    obtain ⟨_ | _, last⟩ := removed
    · cases hrun
      exact .inr ⟨⟨_, rfl⟩, rfl⟩
    · cases hrun
      exact .inr ⟨⟨_, rfl⟩, rfl⟩
  · cases hrun
    exact .inl ⟨rfl, rfl⟩

/-- **A payload file that is written** holds the payload. -/
theorem writePayload_ok {bitcode p : Path} {h h' : Host}
    (hrun : (writePayload bitcode).run.run h = (.ok p, h')) :
    h'.cwd = h.cwd ∧ h'.contentAt? p = some (payloadOf bitcode) := by
  rcases run_writePayload hrun with ⟨fault, herror, -⟩ | ⟨payload, between, hcreate, hcases⟩
  · cases herror
  rcases hcases with ⟨hresult, hwrite⟩ | ⟨⟨fault, herror⟩, -⟩
  · cases hresult
    have hcwd := (Host.writeFile_makes hwrite).1.cwd
    exact ⟨hcwd.trans (cwd_createTemporaryFile hcreate), Host.contentAt?_of_writeFile hwrite⟩
  · cases herror

open Session

/-- **Attaching** hands the embedder a payload file that is written, and then tries the archive. -/
theorem run_attachClean (runner : Runner) (embedder : Embedder) (archive? : Option Archive)
    {object bitcode : Path} {s : Session} {embedded : Bool}
    {stored : Option Path}
    (h : ((attachClean runner embedder archive? object bitcode).run s).1
      = .attempted embedded stored) :
    ∃ payload entry, Adds (attachClean runner embedder archive? object bitcode) s [entry]
      ∧ entry.command = embedder.command object payload ∧ entry.before.cwd = s.host.cwd
      ∧ entry.before.contentAt? payload = some (payloadOf bitcode)
      ∧ ∃ s', stored = ((store archive? bitcode).run s').1 := by
  unfold attachClean at h ⊢
  rw [run_bind, run_onHost] at h
  generalize hwrite : (writePayload bitcode).run.run s.host = written at h
  obtain ⟨fault | payload, host⟩ := written
  · cases h
  obtain ⟨hcwd, hcontent⟩ := writePayload_ok hwrite
  obtain ⟨entry, hentry, hcommand, hbefore⟩ :=
    exists_adds_embed runner embedder object payload { s with host := host }
  refine ⟨payload, entry, Adds.after_quiet (quiet_onHost _) ?_, hcommand, ?_, ?_, ?_⟩
  · rw [run_onHost, hwrite]
    exact hentry.then_quiet fun _ => (quiet_store archive? bitcode).bind fun _ => quiet_pure _
  · rw [hbefore]
    exact hcwd
  · rw [hbefore]
    exact hcontent
  · simp only [run_bind] at h
    exact ⟨_, (Attachment.attempted.inj h).2.symm⟩

variable {runner : Runner} {embedder : Embedder} {archive? : Option Archive}

theorem store_eq_some {bitcode entry : Path} {s : Session}
    (h : ((store archive? bitcode).run s).1 = some entry) :
    ∃ a, archive? = some a ∧ entry = a.entry bitcode := by
  cases archive? with
  | none => cases h
  | some a =>
      refine ⟨a, rfl, ?_⟩
      unfold store at h
      simp only at h
      rw [run_bind, run_onHost] at h
      generalize hstore : (a.store bitcode).run.run s.host = answer at h
      obtain ⟨e | found, host⟩ := answer
      · cases h
      · rw [← Option.some.inj h]
        exact Archive.store_ok hstore

/-- A pairing that was attached, the one spelling of its bitcode path, the command issued for it,
and what came of it. -/
structure Row where
  pairing : Pairing
  path : Path
  issue : Issue
  result : Attachment

/-- **How a row hangs together**: the path is that of the bitcode in the current directory, the
command hands the payload of the path to the embedder, and what was stored is the entry of the
path. -/
structure Row.Fits (embedder : Embedder) (archive? : Option Archive) (row : Row) : Prop where
  path : row.pairing.bitcode.absoluteClean row.issue.before.currentPlace = .ok row.path
  embedded : ∃ payload, row.issue.command = embedder.command row.pairing.object payload
    ∧ row.issue.before.contentAt? payload = some (payloadOf row.path)
  stored : ∀ embedded entry, row.result = .attempted embedded (some entry) →
    ∃ a, archive? = some a ∧ entry = a.entry row.path

theorem exists_row_attach {p : Pairing} {s : Session} {embedded : Bool} {stored : Option Path}
    (h : ((attach runner embedder archive? p).run s).1 = .attempted embedded stored) :
    ∃ path entry, Adds (attach runner embedder archive? p) s [entry]
      ∧ Row.Fits embedder archive? ⟨p, path, entry, .attempted embedded stored⟩ := by
  unfold attach at h ⊢
  split at h
  · next hobject =>
    rw [if_pos hobject]
    rw [run_bind, run_get] at h
    simp only at h
    split at h
    · cases h
    · next path hpath =>
      obtain ⟨payload, entry, hadds, hcommand, hcwd, hcontent, s', hstored⟩ :=
        run_attachClean runner embedder archive? h
      refine ⟨path, entry, Adds.after_quiet quiet_get ?_, ?_, ⟨payload, hcommand, hcontent⟩, ?_⟩
      · rw [run_get, hpath]
        exact hadds
      · show p.bitcode.absoluteClean entry.before.currentPlace = .ok path
        unfold Host.currentPlace at hpath ⊢
        rw [hcwd]
        exact hpath
      · intro b entry' hresult
        rw [(Attachment.attempted.inj hresult).2] at hstored
        exact store_eq_some hstored.symm
  · cases h

/-- **A row of pairings** that are all attached. -/
theorem exists_rows_mapM_attach (pairings : List Pairing) (s : Session)
    (hall : ∀ result ∈ ((pairings.mapM (attach runner embedder archive?)).run s).1,
      ∃ embedded stored, result = .attempted embedded stored) :
    ∃ rows : List Row, rows.map Row.pairing = pairings
      ∧ rows.map Row.result = ((pairings.mapM (attach runner embedder archive?)).run s).1
      ∧ Adds (pairings.mapM (attach runner embedder archive?)) s (rows.map Row.issue)
      ∧ ∀ row ∈ rows, row.Fits embedder archive? := by
  induction pairings generalizing s with
  | nil => exact ⟨[], rfl, rfl, quiet_pure _ s, fun _ hrow => absurd hrow List.not_mem_nil⟩
  | cons p rest ih =>
      rw [run_mapM_cons] at hall
      simp only [List.forall_mem_cons] at hall
      obtain ⟨⟨embedded, stored, hfirst⟩, hlater⟩ := hall
      obtain ⟨path, entry, hadds, hfits⟩ := exists_row_attach hfirst
      obtain ⟨rows, hpairings, hresults, hissues, hrows⟩ := ih _ hlater
      refine ⟨⟨p, path, entry, .attempted embedded stored⟩ :: rows, ?_, ?_, ?_, ?_⟩
      · rw [List.map_cons, hpairings]
      · rw [List.map_cons, hresults, run_mapM_cons, hfirst]
      · exact adds_mapM_cons hadds hissues
      · rw [List.forall_mem_cons]
        exact ⟨hfits, hrows⟩

/-- What the embedder is handed for a row is the payload of its path. -/
theorem Row.Fits.embedded_eq {row : Row} (h : row.Fits embedder archive?) :
    embedder.embedded row.issue = payloadOf row.path := by
  obtain ⟨payload, hcommand, hcontent⟩ := h.embedded
  unfold Embedder.embedded
  rw [hcommand, Embedder.payloadOf?_command, Option.bind_some, hcontent]
  rfl

theorem linked_rows {rows : List Row} (h : ∀ row ∈ rows, row.Fits embedder archive?) :
    embedder.linked (rows.map Row.issue) = rows.flatMap fun row => payloadOf row.path := by
  unfold Embedder.linked
  rw [List.flatMap_map]
  exact List.flatMap_congr fun row hrow => (h row hrow).embedded_eq

/-- Paths that are well-formed text are read back line by line. -/
theorem references_linked {rows : List Row} (h : ∀ row ∈ rows, row.Fits embedder archive?)
    (hvalid : ∀ row ∈ rows, Utf8.isValid row.path.text = true) :
    references (embedder.linked (rows.map Row.issue))
      = (rows.map fun row => row.path.text).flatMap (Separated.split newline) := by
  have hpayloads : rows.flatMap (fun row => payloadOf row.path)
      = (rows.map fun row => row.path.text).flatMap fun line => line ++ [newline] := by
    rw [List.flatMap_map]
    exact List.flatMap_congr fun row hrow => payloadOf_of_isValid (hvalid row hrow)
  rw [linked_rows h, hpayloads, references_lines]

/-- **References can be read back.** Pairings that are all attached have one command each, which
hands the embedder the payload of the path that the bitcode has in the current directory. If these
paths are well-formed text, then cutting what a linker makes of the payloads gives the paths in
order, each in pieces where it holds line feeds; so it gives exactly the paths if and only if
none holds one. What is read back for a pairing then is what the archive has named its entry
after. -/
theorem references_read_back (runner : Runner) (embedder : Embedder) (archive? : Option Archive)
    (pairings : List Pairing) (s : Session)
    (hall : ∀ result ∈ ((pairings.mapM (attach runner embedder archive?)).run s).1,
      ∃ embedded stored, result = .attempted embedded stored) :
    ∃ rows : List Row, rows.map Row.pairing = pairings
      ∧ rows.map Row.result = ((pairings.mapM (attach runner embedder archive?)).run s).1
      ∧ ((pairings.mapM (attach runner embedder archive?)).run s).2.issued
        = s.issued ++ rows.map Row.issue
      ∧ (∀ row ∈ rows,
        row.pairing.bitcode.absoluteClean row.issue.before.currentPlace = .ok row.path
        ∧ ∃ payload, row.issue.command = embedder.command row.pairing.object payload)
      ∧ ((∀ row ∈ rows, Utf8.isValid row.path.text = true) →
        references (embedder.linked (rows.map Row.issue))
          = rows.flatMap (fun row => Separated.split newline row.path.text)
        ∧ (references (embedder.linked (rows.map Row.issue)) = rows.map (fun row => row.path.text)
          ↔ ∀ row ∈ rows, newline ∉ row.path.text)
        ∧ ((∀ row ∈ rows, newline ∉ row.path.text) → List.Forall₂
          (fun bytes result => ∀ embedded entry, result = .attempted embedded (some entry) →
            ∃ a, archive? = some a
              ∧ entry = a.root.join ⟨Octets.ofString (Sha256.hexDigest bytes)⟩)
          (references (embedder.linked (rows.map Row.issue))) (rows.map Row.result))) := by
  obtain ⟨rows, hpairings, hresults, hadds, hfits⟩ := exists_rows_mapM_attach pairings s hall
  refine ⟨rows, hpairings, hresults, hadds, ?_, ?_⟩
  · intro row hrow
    obtain ⟨payload, hcommand, -⟩ := (hfits row hrow).embedded
    exact ⟨(hfits row hrow).path, payload, hcommand⟩
  intro hvalid
  have hread := references_linked hfits hvalid
  have hiff : references (embedder.linked (rows.map Row.issue))
      = rows.map (fun row => row.path.text) ↔ ∀ row ∈ rows, newline ∉ row.path.text := by
    rw [hread, flatMap_split_eq_iff, List.forall_mem_map]
  refine ⟨?_, hiff, ?_⟩
  · rw [hread, List.flatMap_map]
  · intro hlines
    rw [hiff.2 hlines, List.forall₂_map_left_iff, List.forall₂_map_right_iff, List.forall₂_same]
    intro row hrow
    exact (hfits row hrow).stored

/-- A session in the root, with a directory for temporary files and two bitcode files. -/
def twoSources : Session where
  host :=
    { files := ⟨[([Octets.ofString "tmp"], .directory),
        ([Octets.ofString "a.bc"], .file { content := [66] }),
        ([Octets.ofString "b.bc"], .file { content := [67] })]⟩
      cwd := { place := [] } }

/-- Whether a bitcode file was embedded and stored. -/
def isComplete : Attachment → Bool
  | attempted embedded stored => embedded && stored.isSome
  | _ => false

/-- The pairings of the two bitcode files. -/
def twoPairings : List Pairing :=
  [⟨.ofString "a.bc", .ofString "a.o"⟩, ⟨.ofString "./b.bc", .ofString "b.o"⟩]

/-- Attaching two bitcode files where there is an archive. -/
def attachTwo : List Attachment × Session :=
  (twoPairings.mapM (attach ({} : Rehearsal).runner (.elf (.ofString "objcopy"))
    (some ⟨.ofString "/store"⟩))).run twoSources

/-- Two bitcode files that are attached and stored. -/
theorem two_references_read_back :
    (∀ result ∈ attachTwo.1, ∃ entry, result = .attempted true (some entry))
      ∧ ∃ rows : List Row, rows.map Row.pairing = twoPairings
        ∧ rows.map Row.issue = attachTwo.2.issued
        ∧ references (Embedder.linked (.elf (.ofString "objcopy")) attachTwo.2.issued)
          = rows.map (fun row => row.path.text) := by
  have hstored : ∀ result ∈ attachTwo.1, result.isComplete = true := by decide +kernel
  have hlines : ∀ p ∈ twoPairings, ∀ issue ∈ attachTwo.2.issued,
      ((p.bitcode.absoluteClean issue.before.currentPlace).toOption.all fun path =>
        Utf8.isValid path.text && !path.text.contains newline) = true := by decide +kernel
  have hattempted : ∀ result ∈ attachTwo.1, ∃ entry, result = .attempted true (some entry) := by
    intro result hresult
    have hshape := hstored result hresult
    cases result with
    | attempted embedded stored =>
        rw [isComplete, Bool.and_eq_true, Option.isSome_iff_exists] at hshape
        obtain ⟨rfl, entry, rfl⟩ := hshape
        exact ⟨entry, rfl⟩
    | _ => cases hshape
  unfold attachTwo at hattempted hlines ⊢
  obtain ⟨rows, hpairings, -, hissues, hpaths, hread⟩ :=
    references_read_back ({} : Rehearsal).runner (.elf (.ofString "objcopy"))
      (some ⟨.ofString "/store"⟩) twoPairings twoSources fun result hresult =>
        ⟨true, (hattempted result hresult).elim fun entry h => ⟨some entry, h⟩⟩
  have hstart : twoSources.issued = [] := rfl
  rw [hstart, List.nil_append] at hissues
  have hall : ∀ row ∈ rows, Utf8.isValid row.path.text = true ∧ newline ∉ row.path.text := by
    intro row hrow
    have hpairing : row.pairing ∈ twoPairings := by
      rw [← hpairings]
      exact List.mem_map_of_mem hrow
    have hissue := List.mem_map_of_mem (f := Row.issue) hrow
    rw [← hissues] at hissue
    have hline := hlines row.pairing hpairing row.issue hissue
    rw [(hpaths row hrow).1] at hline
    simpa [Except.toOption] using hline
  have hback := ((hread fun row hrow => (hall row hrow).1).2.1).2 fun row hrow => (hall row hrow).2
  rw [← hissues] at hback
  exact ⟨hattempted, rows, hpairings, hissues.symm, hback⟩

/-- A path with a line feed, and one that is no well-formed text, are attached, and neither is what
is read back. -/
theorem references_cut_and_replaced :
    let embedder : Embedder := .elf (.ofString "objcopy")
    let attached := fun bitcode : Octets =>
      (attach ({} : Rehearsal).runner embedder none ⟨⟨bitcode⟩, .ofString "a.o"⟩).run twoSources
    let back := fun bitcode : Octets => references (embedder.linked (attached bitcode).2.issued)
    let path := fun bitcode : Octets =>
      (Path.absoluteClean twoSources.host.currentPlace ⟨bitcode⟩).toOption.map Path.text
    let cut : Octets := Octets.ofString "n\nl.bc"
    let broken : Octets := [110, 255, 46, 98, 99]
    ((attached cut).1 = .attempted true none ∧ path cut = some (47 :: cut)
      ∧ back cut ≠ [47 :: cut])
      ∧ (attached broken).1 = .attempted true none ∧ path broken = some (47 :: broken)
        ∧ back broken ≠ [47 :: broken] := by
  decide +kernel

end Attachment

end TwinBuild
