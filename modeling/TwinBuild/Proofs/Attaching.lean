import TwinBuild.Proofs.Journal

/-!
# The commands of attaching

Attaching issues one command at most: the one that hands the payload to the embedder, and that only
if there is a payload. Whether there is one depends on the pairing and on the host just before. A
row of pairings is attached one by one, each on the host that the one before has left.

Main statement: `exists_adds_mapM_attach`, the commands of a row of pairings.
-/

namespace TwinBuild

/-- **The payload file of a pairing** on a host, if one can be made. There is none for what is no
object file, for bitcode whose path cannot be made absolute, and where the file cannot be
written. -/
def Pairing.payload? (p : Pairing) (h : Host) : Option Path :=
  if p.object.isObject then
    match p.bitcode.absoluteClean h.currentPlace with
    | .error _ => none
    | .ok bitcode => ((Attachment.writePayload bitcode).run.run h).1.toOption
  else none

namespace Attachment

open Session

variable (runner : Runner) (embedder : Embedder) (archive? : Option Archive)

/-- The command that writes a payload into the object of a pairing, if there is a payload. -/
def embedCommand? (p : Pairing) (h : Host) : Option Command :=
  (p.payload? h).map (embedder.command p.object)

/-- The commands that embed a row of pairings from a session on. Each pairing finds the session as
attaching those before has left it. -/
def embedCommands : List Pairing → Session → List Command
  | [], _ => []
  | p :: rest, s =>
    (embedCommand? embedder p s.host).toList
      ++ embedCommands rest ((attach runner embedder archive? p).run s).2

theorem quiet_store (bitcode : Path) : Quiet (store archive? bitcode) := by
  cases archive? with
  | none => exact quiet_pure _
  | some archive =>
      refine (quiet_onHost _).bind fun stored => ?_
      cases stored with
      | ok entry => exact quiet_pure _
      | error e => exact (quiet_say _ _ _).bind fun _ => quiet_pure _

theorem exists_adds_embed (object payload : Path) (s : Session) :
    ∃ entry, Adds (embed runner embedder object payload) s [entry]
      ∧ entry.command = embedder.command object payload ∧ entry.before = s.host := by
  refine ⟨_, (Session.adds_run runner (embedder.command object payload) s).then_quiet ?_, rfl, rfl⟩
  intro verdict
  -- what is logged of the verdict and of the removal is no command
  cases verdict with
  | ok =>
      refine (quiet_onHost _).bind fun removed => ?_
      cases removed with
      | ok => exact quiet_pure _
      | error fault => exact (quiet_say _ _ _).bind fun _ => quiet_pure _
  | error e =>
      refine (quiet_say _ _ _).bind fun _ => (quiet_onHost _).bind fun removed => ?_
      cases removed with
      | ok => exact quiet_pure _
      | error fault => exact (quiet_say _ _ _).bind fun _ => quiet_pure _

theorem exists_adds_attachClean (object bitcode : Path) (s : Session) :
    ∃ new, Adds (attachClean runner embedder archive? object bitcode) s new
      ∧ new.map Issue.command
        = (((writePayload bitcode).run.run s.host).1.toOption.map
            (embedder.command object)).toList := by
  cases hpayload : ((writePayload bitcode).run.run s.host).1 with
  | error fault =>
      refine ⟨[], Adds.after_quiet (quiet_onHost _) ?_, rfl⟩
      rw [run_onHost, hpayload]
      exact ((quiet_say _ _ _).bind fun _ => quiet_pure _) _
  | ok payload =>
      obtain ⟨entry, hentry, hcommand, -⟩ := exists_adds_embed runner embedder object payload
        { s with host := ((writePayload bitcode).run.run s.host).2 }
      refine ⟨[entry], Adds.after_quiet (quiet_onHost _) ?_, ?_⟩
      · rw [run_onHost, hpayload]
        exact hentry.then_quiet fun _ => (quiet_store archive? bitcode).bind fun _ => quiet_pure _
      · rw [List.map_singleton, hcommand]
        rfl

/-- **Attaching issues the embed command of its payload, and nothing without one.** -/
theorem exists_adds_attach (p : Pairing) (s : Session) :
    ∃ new, Adds (attach runner embedder archive? p) s new
      ∧ new.map Issue.command = (embedCommand? embedder p s.host).toList := by
  unfold attach embedCommand? Pairing.payload?
  by_cases hobject : p.object.isObject = true
  · rw [if_pos hobject, if_pos hobject]
    cases hclean : p.bitcode.absoluteClean s.host.currentPlace with
    | error fault =>
        refine ⟨[], Adds.after_quiet quiet_get ?_, rfl⟩
        rw [run_get, hclean]
        exact ((quiet_say _ _ _).bind fun _ => quiet_pure _) _
    | ok bitcode =>
        obtain ⟨new, hnew, hcommands⟩ :=
          exists_adds_attachClean runner embedder archive? p.object bitcode s
        refine ⟨new, Adds.after_quiet quiet_get ?_, hcommands⟩
        rw [run_get, hclean]
        exact hnew
  · rw [if_neg hobject, if_neg hobject]
    exact ⟨[], (quiet_say _ _ _).bind (fun _ => quiet_pure _) s, rfl⟩

/-- **A row of pairings.** Attaching it issues the embed commands of the pairings that have a
payload, in order. -/
theorem exists_adds_mapM_attach (pairings : List Pairing) (s : Session) :
    ∃ new, Adds (pairings.mapM (attach runner embedder archive?)) s new
      ∧ new.map Issue.command = embedCommands runner embedder archive? pairings s := by
  induction pairings generalizing s with
  | nil => exact ⟨[], quiet_pure _ s, rfl⟩
  | cons p rest ih =>
      obtain ⟨first, hfirst, hcommand⟩ := exists_adds_attach runner embedder archive? p s
      obtain ⟨later, hlater, hcommands⟩ := ih ((attach runner embedder archive? p).run s).2
      refine ⟨first ++ later, adds_mapM_cons hfirst hlater, ?_⟩
      rw [List.map_append, hcommand, hcommands]
      rfl

end Attachment

end TwinBuild
