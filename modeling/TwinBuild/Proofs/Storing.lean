import Mathlib.Logic.Relation
import TwinBuild.Proofs.HostOperations
import TwinBuild.Archive.Steps

/-!
# Storing in one go

`Archive.store` is one of the calls that `TwinBuild.Archive.Steps` describes: one that nothing comes
in between. It ends in the phase that its answer tells.

Main statement: `exists_run_store`.
-/

namespace TwinBuild

namespace Archive

open Phase Calls

/-! ## What the parts answer -/

theorem run_atStep {α : Type} (error : Fault → ArchiveError) (act : HostAct α) (h : Host) :
    (atStep error act).run.run h = ((act.run.run h).1.mapError error, (act.run.run h).2) := by
  have hrun : (atStep error act).run.run h = atStep error act h := rfl
  have hact : act.run.run h = act h := rfl
  rw [hrun, hact]
  unfold atStep
  generalize act h = answer
  obtain ⟨_ | _, after⟩ := answer <;> rfl

/-! ## One call by itself -/

variable {a : Archive} {bitcode : Path} {h h' : Host} {φ φ' : Phase}

/-- How one call by itself can go on. -/
abbrev Alone (a : Archive) (bitcode : Path) : Calls Unit → Calls Unit → Prop :=
  Relation.ReflTransGen (Step a fun _ => bitcode)

/-- The call itself takes a step. -/
def OwnStep (a : Archive) (bitcode : Path) (σ σ' : Calls Unit) : Prop :=
  ∃ n, (σ.phase ()).step a bitcode n σ.host = (σ'.phase (), σ'.host)

/-- How one call goes on where nothing comes in between, nor the host changes its mind. -/
abbrev InOneGo (a : Archive) (bitcode : Path) : Calls Unit → Calls Unit → Prop :=
  Relation.ReflTransGen (OwnStep a bitcode)

theorem ownStep_le : OwnStep a bitcode ≤ Step a fun _ => bitcode := by
  rintro σ σ' ⟨n, own⟩
  exact .call () n own fun _ hj => absurd rfl hj

theorem InOneGo.alone {σ σ' : Calls Unit} (hrun : InOneGo a bitcode σ σ') :
    Alone a bitcode σ σ' :=
  Relation.ReflTransGen.mono ownStep_le _ _ hrun

theorem inOneGo_step {n : Nat} (own : φ.step a bitcode n h = (φ', h')) :
    InOneGo a bitcode ⟨h, fun _ => φ⟩ ⟨h', fun _ => φ'⟩ :=
  .single ⟨n, own⟩

theorem proceed_ok {α : Type} {act : HostAct α} {success : α → Phase} {failure : Fault → Phase}
    {x : α} (hrun : act.run.run h = (.ok x, h')) :
    proceed act success failure h = (success x, h') := by
  unfold proceed
  rw [hrun]

theorem proceed_error {α : Type} {act : HostAct α} {success : α → Phase}
    {failure : Fault → Phase} {fault : Fault} (hrun : act.run.run h = (.error fault, h')) :
    proceed act success failure h = (failure fault, h') := by
  unfold proceed
  rw [hrun]

/-- A copy is dropped, and the call ends with the error. -/
theorem exists_inOneGo_dropping (a : Archive) (bitcode copy : Path) (error : ArchiveError)
    (h : Host) : ∃ left, InOneGo a bitcode ⟨h, fun _ => .dropping copy error⟩
      ⟨((discard copy).run.run h).2, fun _ => .failed error left⟩ := by
  have hdiscard : ((discard copy).run.run h).2 = ((Host.removeFile copy).run.run h).2 := rfl
  rw [hdiscard]
  generalize hrun : (Host.removeFile copy).run.run h = answer
  obtain ⟨fault | _, after⟩ := answer
  · exact ⟨some copy, inOneGo_step (n := 0) (proceed_error hrun)⟩
  · exact ⟨none, inOneGo_step (n := 0) (proceed_ok hrun)⟩

/-- What was opened can be read again as long as the host does not change its mind. -/
theorem readNode_again {node : Node} {content : Octets}
    (hrun : (Host.readNode bitcode node).run.run h = (.ok content, h))
    (hrefuses : h'.refuses = h.refuses) :
    (Host.readNode bitcode node).run.run h' = (.ok content, h') := by
  have hstep := Host.attempt_ok hrun
  simp only [except_bind_eq_ok] at hstep
  obtain ⟨_, hpermit, hstep⟩ := hstep
  have hpermit' : h'.permit (.readFile bitcode) = .ok () := by
    unfold Host.permit at hpermit ⊢
    rw [hrefuses]
    exact hpermit
  unfold Host.readNode
  rw [Host.run_attempt, hpermit']
  cases node with
  | directory => cases hstep
  | file f =>
      cases hstep
      rfl

/-- All of the content in one piece. One octet more is asked for than there is, so that this is not
taken for the step that finds nothing left. -/
theorem run_pass_whole {source : Node} {copy : Path} {content : Octets}
    (hread : (Host.readNode bitcode source).run.run h = (.ok content, h)) :
    (Phase.pass bitcode source copy [] (content.length + 1)).run.run h
      = match (Host.writeFile copy content).run.run h with
        | (.ok (), after) => (.ok (.copying source copy content), after)
        | (.error fault, after) => (.error fault, after) := by
  have hpiece : [] ++ (content.drop ([] : Octets).length).take (content.length + 1) = content := by
    simp [List.take_of_length_le]
  unfold Phase.pass
  rw [Host.run_bind, hread]
  simp only
  rw [if_neg (by simp), hpiece, Host.run_bind]
  generalize (Host.writeFile copy content).run.run h = answer
  obtain ⟨_ | _, after⟩ := answer <;> rfl

/-- Nothing is left. -/
theorem run_pass_end {source : Node} {copy : Path} {content : Octets}
    (hread : (Host.readNode bitcode source).run.run h = (.ok content, h)) :
    (Phase.pass bitcode source copy content 0).run.run h = (.ok (.copied source copy), h) := by
  unfold Phase.pass
  rw [Host.run_bind, hread]
  simp only
  rw [if_pos ⟨trivial, trivial⟩]
  rfl

theorem inOneGo_copying {source : Node} {copy : Path} {written : Octets} {n : Nat}
    (hrun : (Phase.pass bitcode source copy written n).run.run h = (.ok φ', h')) :
    InOneGo a bitcode ⟨h, fun _ => .copying source copy written⟩ ⟨h', fun _ => φ'⟩ :=
  inOneGo_step (n := n) (proceed_ok hrun)

theorem inOneGo_copying_error {source : Node} {copy : Path} {written : Octets} {n : Nat}
    {fault : Fault}
    (hrun : (Phase.pass bitcode source copy written n).run.run h = (.error fault, h')) :
    InOneGo a bitcode ⟨h, fun _ => .copying source copy written⟩
      ⟨h', fun _ => .dropping copy (.copy (a.entry bitcode) fault)⟩ :=
  inOneGo_step (n := n) (proceed_error hrun)

/-- Passing the content on in one piece. -/
theorem inOneGo_copied {source : Node} {copy : Path} {content : Octets}
    (hread : (Host.readNode bitcode source).run.run h = (.ok content, h))
    (hwrite : (Host.writeFile copy content).run.run h = (.ok (), h')) :
    InOneGo a bitcode ⟨h, fun _ => .copying source copy []⟩
      ⟨h', fun _ => .copied source copy⟩ := by
  have hwhole : (Phase.pass bitcode source copy [] (content.length + 1)).run.run h = _ :=
    run_pass_whole hread
  rw [hwrite] at hwhole
  have hrefuses : h'.refuses = h.refuses := by
    obtain ⟨_, _, _, _, f, _, hwritten⟩ := Host.writeFile_ok hwrite
    rw [hwritten]
  have hagain := readNode_again hread hrefuses
  exact (inOneGo_copying hwhole).trans (inOneGo_copying (run_pass_end hagain))

/-- **A staged copy is filled and placed**, or a step has failed and the copy is to be dropped. -/
theorem exists_inOneGo_fill (a : Archive) (bitcode : Path) (source : Node) (copy : Path)
    (h : Host) :
    (∃ error, ((a.fill bitcode source copy).run.run h).1 = .error error
      ∧ InOneGo a bitcode ⟨h, fun _ => .copying source copy []⟩
        ⟨((a.fill bitcode source copy).run.run h).2, fun _ => .dropping copy error⟩)
    ∨ (((a.fill bitcode source copy).run.run h).1 = .ok ()
      ∧ InOneGo a bitcode ⟨h, fun _ => .copying source copy []⟩
        ⟨((a.fill bitcode source copy).run.run h).2, fun _ => .succeeded source⟩) := by
  unfold fill
  simp only [Host.run_bind, run_atStep]
  generalize hread : (Host.readNode bitcode source).run.run h = answer
  obtain ⟨fault | content, after⟩ := answer
  · have hpass : (Phase.pass bitcode source copy [] 0).run.run h = (.error fault, after) := by
      unfold Phase.pass
      rw [Host.run_bind, hread]
    exact .inl ⟨_, rfl, inOneGo_copying_error hpass⟩
  obtain ⟨rfl, -⟩ := Host.readNode_ok hread
  simp only [Except.mapError]
  generalize hwrite : (Host.writeFile copy content).run.run after = answer
  obtain ⟨fault | _, written⟩ := answer
  · refine .inl ⟨_, rfl, inOneGo_copying_error (n := content.length + 1) ?_⟩
    rw [run_pass_whole hread, hwrite]
  have hcopied := inOneGo_copied (a := a) hread hwrite
  simp only
  generalize hsync : (Host.syncFile copy).run.run written = answer
  obtain ⟨fault | _, synced⟩ := answer
  · exact .inl ⟨_, rfl, hcopied.trans (inOneGo_step (n := 0) (proceed_error hsync))⟩
  have hflushed : InOneGo a bitcode ⟨after, fun _ => .copying source copy []⟩
      ⟨synced, fun _ => .flushed source copy⟩ :=
    hcopied.trans (inOneGo_step (n := 0) (proceed_ok hsync))
  simp only
  generalize hrename : (Host.renameFile copy (a.entry bitcode)).run.run synced = answer
  obtain ⟨fault | _, placed⟩ := answer
  · exact .inl ⟨_, rfl, hflushed.trans (inOneGo_step (n := 0) (proceed_error hrename))⟩
  · exact .inr ⟨rfl, hflushed.trans (inOneGo_step (n := 0) (proceed_ok hrename))⟩

/-- **Storing in one go is one of the calls**: it leaves the host as a call does that nothing comes
in between and that ends with the same answer. -/
theorem exists_run_store (a : Archive) (bitcode : Path) (h : Host) :
    ∃ σ : Calls Unit, InOneGo a bitcode (.initial h) σ
      ∧ σ.host = ((a.store bitcode).run.run h).2
      ∧ (σ.phase ()).answer? a bitcode = some ((a.store bitcode).run.run h).1 := by
  unfold store
  simp only [Host.run_bind, run_atStep, Host.run_tryCatch]
  generalize hroot : (Host.makeDirectories a.root).run.run h = answer
  obtain ⟨fault | _, rooted⟩ := answer
  · exact ⟨_, inOneGo_step (n := 0) (proceed_error hroot), rfl, rfl⟩
  have hrooted : InOneGo a bitcode (.initial h) ⟨rooted, fun _ => .rooted⟩ :=
    inOneGo_step (n := 0) (proceed_ok hroot)
  simp only [Except.mapError]
  generalize hopen : (Host.openFile bitcode).run.run rooted = answer
  obtain ⟨fault | source, opened⟩ := answer
  · exact ⟨_, hrooted.trans (inOneGo_step (n := 0) (proceed_error hopen)), rfl, rfl⟩
  have hopened : InOneGo a bitcode (.initial h) ⟨opened, fun _ => .opened source⟩ :=
    hrooted.trans (inOneGo_step (n := 0) (proceed_ok hopen))
  simp only
  generalize hstage : (Host.createTemporaryFile stagedLead a.root).run.run opened = answer
  obtain ⟨fault | copy, staged⟩ := answer
  · exact ⟨_, hopened.trans (inOneGo_step (n := 0) (proceed_error hstage)), rfl, rfl⟩
  have hstaged : InOneGo a bitcode (.initial h) ⟨staged, fun _ => .copying source copy []⟩ :=
    hopened.trans (inOneGo_step (n := 0) (proceed_ok hstage))
  simp only
  have hfill := exists_inOneGo_fill a bitcode source copy staged
  generalize (a.fill bitcode source copy).run.run staged = answer at hfill
  obtain ⟨error | _, filled⟩ := answer
  · -- the copy is dropped, and the error is thrown again
    obtain ⟨error', herror, hdropping⟩ | ⟨hok, -⟩ := hfill
    · cases herror
      obtain ⟨left, hdropped⟩ := exists_inOneGo_dropping a bitcode copy error filled
      refine ⟨_, hstaged.trans (hdropping.trans hdropped), ?_, ?_⟩
      · rfl
      · rfl
    · cases hok
  · obtain ⟨error', herror, -⟩ | ⟨-, hsucceeded⟩ := hfill
    · cases herror
    · exact ⟨_, hstaged.trans hsucceeded, rfl, rfl⟩

/-- A call that answers a path has succeeded, and the path is that of its entry. -/
theorem Phase.answer?_ok {entry : Path} (h : φ.answer? a bitcode = some (.ok entry)) :
    (∃ source, φ = .succeeded source) ∧ entry = a.entry bitcode := by
  cases φ with
  | succeeded source => exact ⟨⟨source, rfl⟩, (Except.ok.inj (Option.some.inj h)).symm⟩
  | failed => cases h
  | _ => cases h

/-- A call that answers an error has failed with it. -/
theorem Phase.answer?_error {error : ArchiveError}
    (h : φ.answer? a bitcode = some (.error error)) : ∃ left, φ = .failed error left := by
  cases φ with
  | failed e left =>
      cases h
      exact ⟨left, rfl⟩
  | succeeded => cases h
  | _ => cases h

/-- An entry that is stored is that of the path. -/
theorem store_ok {entry : Path} (hrun : (a.store bitcode).run.run h = (.ok entry, h')) :
    entry = a.entry bitcode := by
  obtain ⟨σ, -, -, hanswer⟩ := exists_run_store a bitcode h
  rw [hrun] at hanswer
  exact (Phase.answer?_ok hanswer).2

end Archive

end TwinBuild
