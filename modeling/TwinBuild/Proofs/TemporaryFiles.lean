import TwinBuild.Proofs.BitcodeFiles
import TwinBuild.Proofs.CommandEffects
import TwinBuild.Proofs.Outcome
import TwinBuild.Proofs.TemporaryAccount

/-!
# Temporary files are accounted for

A run has builds, embed commands and links. The builds find a scratch directory, each embed command
finds a payload file besides, which is taken away before anything else happens, and a link finds the
scratch directory alone. However the run ends, nothing of the program's own is left in the directory
for temporary files but the scratch directory of a build that has failed.

Main statement: `temporaries_accounted`.
-/

namespace TwinBuild

open Session

namespace Attachment

variable (runner : Runner) (embedder : Embedder) {archive? : Option Archive} {h₀ : Host}
  (scratch : Option Path)

/-- **Embedding** answers whether the command succeeded, whatever becomes of the payload file, and leaves
what the command has left, less that file. -/
theorem run_embed (runner : Runner) (embedder : Embedder) (object payload : Path) (s : Session) :
    let command := embedder.command object payload
    let verdict := (runner.run s.commands command s.host).1
    ((embed runner embedder object payload).run s).1 = verdict.isOk
    ∧ ((embed runner embedder object payload).run s).2.issued
      = s.issued ++ [⟨command, s.host, verdict⟩]
    ∧ ((embed runner embedder object payload).run s).2.host
      = ((Host.removeFile payload).run.run (runner.run s.commands command s.host).2).2 := by
  intro command verdict
  have hissued : ((Session.run runner command).run s).2.issued
      = s.issued ++ [⟨command, s.host, verdict⟩] := issued_run runner command s
  have hverdict : ((Session.run runner command).run s).1 = verdict := verdict_run runner command s
  have hhost : ((Session.run runner command).run s).2.host = (runner.run s.commands command s.host).2 :=
    host_run runner command s
  clear_value verdict
  unfold embed
  rw [run_bind, ← hhost]
  generalize (Session.run runner command).run s = answer at hissued hverdict ⊢
  obtain ⟨given, between⟩ := answer
  subst hverdict
  -- what is logged of the verdict and of the removal neither issues a command nor changes the host
  cases given with
  | ok =>
      rw [run_bind, run_onHost, Host.run_about]
      generalize (Host.removeFile payload).run.run between.host = removed
      obtain ⟨_ | _, last⟩ := removed <;> exact ⟨rfl, hissued, rfl⟩
  | error e =>
      rw [run_bind, run_say, run_bind, run_onHost, Host.run_about]
      generalize (Host.removeFile payload).run.run between.host = removed
      obtain ⟨_ | _, last⟩ := removed <;> exact ⟨rfl, hissued, rfl⟩

/-- What storing comes to where there may be an archive, and the host it leaves. -/
def storing (archive? : Option Archive) (bitcode : Path) (h : Host) : Option Path × Host :=
  match archive? with
  | none => (none, h)
  | some a => (((a.store bitcode).run.run h).1.toOption, ((a.store bitcode).run.run h).2)

theorem run_store (archive? : Option Archive) (bitcode : Path) (s : Session) :
    ((store archive? bitcode).run s).1 = (storing archive? bitcode s.host).1
    ∧ ((store archive? bitcode).run s).2.host = (storing archive? bitcode s.host).2 := by
  cases archive? with
  | none => exact ⟨rfl, rfl⟩
  | some a =>
      unfold store storing
      simp only
      rw [run_bind, run_onHost]
      generalize (a.store bitcode).run.run s.host = stored
      obtain ⟨_ | _, after⟩ := stored
      · exact ⟨rfl, rfl⟩
      · exact ⟨rfl, rfl⟩

/-- **The command that hands a payload over** for a pairing: the payload file has a path of the
program's own and holds the payload, and nothing else is there that was not accounted for. -/
def HandsOver (embedder : Embedder) (h₀ : Host) (scratch : Option Path) (p : Pairing)
    (e : Issue) : Prop :=
  ∃ bitcode payload, p.bitcode.absoluteClean e.before.currentPlace = .ok bitcode
    ∧ e.command = embedder.command p.object payload
    ∧ e.before.contentAt? payload = some (payloadOf bitcode)
    ∧ h₀.Accounted scratch (some payload) e.before

variable (hstart : h₀.Sound) (hapart : ∀ a ∈ archive?, h₀.IsApart a.root)
include hstart hapart

theorem accounted_attachClean (p : Pairing) {bitcode : Path} (s : Session)
    (hbitcode : p.bitcode.absoluteClean s.host.currentPlace = .ok bitcode) :
    ∃ new, Adds (attachClean runner embedder archive? p.object bitcode) s new
      ∧ (h₀.Accounted scratch none s.host →
        runner.Obeys (Host.KeepsToScratch scratch) s.commands new →
        h₀.Accounted scratch none
            ((attachClean runner embedder archive? p.object bitcode).run s).2.host
          ∧ ∀ e ∈ new, HandsOver embedder h₀ scratch p e) := by
  generalize hwrite : (writePayload bitcode).run.run s.host = written
  obtain ⟨fault | payload, host⟩ := written
  · refine ⟨[], Adds.after_quiet (quiet_onHost _) ?_, fun ha _ => ⟨?_, ?_⟩⟩
    · rw [run_onHost, hwrite]
      exact ((quiet_say _ _ _).bind fun _ => quiet_pure _) _
    · unfold attachClean
      rw [run_bind, run_onHost, hwrite]
      exact ha.writePayload_error hstart hwrite
    · exact List.forall_mem_nil _
  obtain ⟨entry, hentry, hcommand, hbefore⟩ :=
    exists_adds_embed runner embedder p.object payload { s with host }
  refine ⟨[entry], Adds.after_quiet (quiet_onHost _) ?_, fun ha hobeys => ?_⟩
  · rw [run_onHost, hwrite]
    exact hentry.then_quiet fun _ => (quiet_store archive? bitcode).bind fun _ => quiet_pure _
  obtain ⟨hpayload, hcontent⟩ := ha.writePayload_ok hstart hwrite
  have hkeeps := hobeys.1
  rw [Runner.after, hcommand, hbefore] at hkeeps
  obtain ⟨after, hremove, hafter⟩ := (hpayload.command hstart hkeeps).removePayload
  constructor
  · have hhost : ((attachClean runner embedder archive? p.object bitcode).run s).2.host
        = ((store archive? bitcode).run
            ((embed runner embedder p.object payload).run { s with host }).2).2.host := by
      unfold attachClean
      rw [run_bind, run_onHost, hwrite]
      rfl
    have hembed : ((embed runner embedder p.object payload).run { s with host }).2.host = after := by
      rw [(run_embed runner embedder p.object payload { s with host }).2.2,
        show ({ s with host } : Session).commands = s.commands from rfl, hremove]
    rw [hhost, (run_store archive? bitcode _).2, hembed]
    cases archive? with
    | none => exact hafter
    | some a =>
        exact hafter.store (hpayload.directory_of_payload hstart) (hapart a rfl) bitcode
  · intro e he
    rw [List.mem_singleton.1 he]
    refine ⟨bitcode, payload, ?_, hcommand, ?_, ?_⟩
    · have hcwd := (Attachment.writePayload_ok hwrite).1
      rw [hbefore]
      unfold Host.currentPlace at hbitcode ⊢
      rw [hcwd]
      exact hbitcode
    · rw [hbefore]
      exact hcontent
    · rw [hbefore]
      exact hpayload

theorem accounted_attach (p : Pairing) (s : Session) :
    ∃ new, Adds (attach runner embedder archive? p) s new
      ∧ (h₀.Accounted scratch none s.host →
        runner.Obeys (Host.KeepsToScratch scratch) s.commands new →
        h₀.Accounted scratch none ((attach runner embedder archive? p).run s).2.host
          ∧ ∀ e ∈ new, HandsOver embedder h₀ scratch p e) := by
  unfold attach
  by_cases hobject : p.object.isObject = true
  · rw [if_pos hobject]
    cases hclean : p.bitcode.absoluteClean s.host.currentPlace with
    | error fault =>
        refine ⟨[], Adds.after_quiet quiet_get ?_, fun ha _ => ⟨?_, List.forall_mem_nil _⟩⟩
        · rw [run_get, hclean]
          exact ((quiet_say _ _ _).bind fun _ => quiet_pure _) _
        · rw [run_bind, run_get, hclean]
          exact ha
    | ok bitcode =>
        obtain ⟨new, hnew, haccount⟩ := accounted_attachClean runner embedder scratch hstart
          hapart p s hclean
        refine ⟨new, Adds.after_quiet quiet_get ?_, fun ha hobeys => ?_⟩
        · rw [run_get, hclean]
          exact hnew
        · rw [run_bind, run_get, hclean]
          exact haccount ha hobeys
  · rw [if_neg hobject]
    exact ⟨[], (quiet_say _ _ _).bind (fun _ => quiet_pure _) s, fun ha _ => ⟨ha, List.forall_mem_nil _⟩⟩

/-- **A row of pairings.** -/
theorem accounted_mapM_attach (pairings : List Pairing) (s : Session) :
    ∃ new, Adds (pairings.mapM (attach runner embedder archive?)) s new
      ∧ (h₀.Accounted scratch none s.host →
        runner.Obeys (Host.KeepsToScratch scratch) s.commands new →
        h₀.Accounted scratch none
            ((pairings.mapM (attach runner embedder archive?)).run s).2.host
          ∧ ∀ e ∈ new, ∃ p ∈ pairings, HandsOver embedder h₀ scratch p e) := by
  induction pairings generalizing s with
  | nil =>
      exact ⟨[], quiet_pure _ s, fun ha _ => ⟨ha, List.forall_mem_nil _⟩⟩
  | cons p rest ih =>
      obtain ⟨first, hfirst, hone⟩ := accounted_attach runner embedder scratch hstart hapart p
        s
      obtain ⟨later, hlater, hrest⟩ := ih ((attach runner embedder archive? p).run s).2
      refine ⟨first ++ later, adds_mapM_cons hfirst hlater, fun ha hobeys => ?_⟩
      obtain ⟨hfirstObeys, hlaterObeys⟩ := Runner.obeys_append.1 hobeys
      obtain ⟨hbetween, hfirstHands⟩ := hone ha hfirstObeys
      rw [← hfirst.commands_eq] at hlaterObeys
      obtain ⟨hend, hlaterHands⟩ := hrest hbetween hlaterObeys
      rw [run_mapM_cons]
      refine ⟨hend, fun e he => ?_⟩
      rcases List.mem_append.1 he with he | he
      · exact ⟨p, List.mem_cons_self, hfirstHands e he⟩
      · obtain ⟨q, hq, hhands⟩ := hlaterHands e he
        exact ⟨q, List.mem_cons_of_mem p hq, hhands⟩

end Attachment

namespace Compilation

open Replay Attachment

variable (c : Compilation) (compiler : Path) (i : Invocation) {h₀ : Host}

/-! ## The phases of a compilation -/

/-- Commands in a row that keep to the scratch directory. -/
theorem accounted_bare {runner : Runner} {α : Type} {x : SessionM α} {s : Session}
    {new : List Issue} {scratch payload : Option Path} (hbare : Bare runner x) (hnew : Adds x s new)
    (hstart : h₀.Sound) (ha : h₀.Accounted scratch payload s.host)
    (hobeys : runner.Obeys (Host.KeepsToScratch scratch) s.commands new) :
    h₀.Accounted scratch payload (x.run s).2.host
      ∧ ∀ e ∈ new, h₀.Accounted scratch payload e.before :=
  (hbare.chained hnew).keeps (fun _ _ hbefore hkeeps => hbefore.command hstart hkeeps) hobeys ha

theorem accounted_makeScratch {s : Session} (hstart : s.host.Sound)
    (hremovable : s.host.AllowsRemoval) :
    s.host.Accounted ((makeScratch i).run s).1.toOption.join none ((makeScratch i).run s).2.host := by
  have ha := Host.accounted_start hstart hremovable
  unfold makeScratch
  split
  · exact ha
  rw [run_bind, run_get, run_bind, run_onHost]
  generalize hmake : (Host.createTemporaryDirectory temporaryLead s.host.temporaryDirectory).run.run
    s.host = made
  obtain ⟨fault | dir, after⟩ := made
  · rcases Host.run_makeDrawn Host.makeDirectory Host.attempt_error hmake with ⟨rfl, -⟩
        | ⟨base, n, -, ⟨_, -, rfl⟩ | ⟨hok, -⟩⟩
    · exact ha
    · exact ha.with_serial _
    · cases hok
  · exact ha.createScratch hstart hmake

theorem accounted_removeScratch {scratch : Option Path} {s : Session} (hstart : h₀.Sound)
    (ha : h₀.Accounted scratch none s.host) :
    h₀.Accounted none none ((removeScratch scratch).run s).2.host := by
  cases scratch with
  | none => exact ha
  | some dir =>
      obtain ⟨after, hremove, hafter⟩ := ha.removeScratch hstart
      unfold removeScratch
      simp only
      rw [run_bind, run_onHost, Host.run_about, hremove]
      exact hafter

/-- **Finishing**: the embed commands find their payloads, and the link finds none. -/
theorem exists_account_finish {naming : Naming} (scratch : Option Path) {reports : List SourceReport}
    (hstart : h₀.Sound) (hapart : ∀ root ∈ c.settings.archive, h₀.IsApart root)
    (hpairings : pairings reports = i.pairings naming)
    (hobjects : i.compilesOnly = false → newObjects reports = i.objects naming) (s : Session) :
    ∃ embeds links, Adds (c.finish compiler i reports) s (embeds ++ links)
      ∧ (∀ e ∈ links, e.command = linkCommand compiler i (i.objects naming))
      ∧ (h₀.Accounted scratch none s.host →
        c.runner.Obeys (Host.KeepsToScratch scratch) s.commands (embeds ++ links) →
        h₀.Accounted scratch none ((c.finish compiler i reports).run s).2.host
          ∧ (∀ e ∈ embeds, ∃ p ∈ i.pairings naming,
            HandsOver (.ofSettings c.settings) h₀ scratch p e)
          ∧ ∀ e ∈ links, h₀.Accounted scratch none e.before) := by
  have harchive : ∀ a ∈ c.settings.archive.map Archive.mk, h₀.IsApart a.root := by
    intro a ha
    obtain ⟨root, hroot, rfl⟩ := Option.map_eq_some_iff.1 ha
    exact hapart root hroot
  obtain ⟨embeds, hembeds, haccount⟩ := accounted_mapM_attach c.runner
    (.ofSettings c.settings) scratch hstart harchive (pairings reports) s
  rw [hpairings] at haccount
  unfold finish
  cases hcompiles : i.compilesOnly with
  | true =>
      refine ⟨embeds, [], ?_, List.forall_mem_nil _, fun ha hobeys => ?_⟩
      · rw [List.append_nil]
        exact hembeds.then_quiet fun _ => quiet_pure _
      · rw [List.append_nil] at hobeys
        obtain ⟨hafter, hhands⟩ := haccount ha hobeys
        rw [← hpairings] at hafter
        exact ⟨hafter, hhands, List.forall_mem_nil _⟩
  | false =>
      obtain ⟨entry, hentry, hlink⟩ := c.exists_adds_relink compiler i (newObjects reports)
        ((c.attachAll reports).run s).2
      refine ⟨embeds, [entry], hembeds.bind hentry, ?_, fun ha hobeys => ?_⟩
      · intro e he
        rw [List.mem_singleton.1 he, hlink, hobjects hcompiles]
      · obtain ⟨hfirst, hsecond⟩ := Runner.obeys_append.1 hobeys
        obtain ⟨hbetween, hhands⟩ := haccount ha hfirst
        rw [← hpairings] at hbetween
        rw [← hembeds.commands_eq] at hsecond
        obtain ⟨hafter, hbefore⟩ := accounted_bare (c.bare_relink compiler i _) hentry hstart
          hbetween hsecond
        exact ⟨hafter, hhands, hbefore⟩

/-! ## The account of a run -/

/-- **How a run accounts for its temporary files**, against the host `h₀` on which it began: the
entries of its builds, embed commands and links, which follow some earlier commands, and the host on
which it ended. -/
structure Account (h₀ : Host) (scratch kept : Option Path) (earlier : List Command)
    (builds embeds links : List Issue) (last : Host) : Prop where
  /-- In the end there is nothing new but what is kept. -/
  ending : h₀.Accounted kept none last
  /-- No build and no link finds anything new but the scratch directory. -/
  building : ∀ e ∈ builds ++ links, h₀.Accounted scratch none e.before
  /-- Every embed command finds its payload file, and otherwise only the scratch directory. -/
  embedding : ∀ e ∈ embeds, ∃ p ∈ i.pairings (namingOf scratch),
    HandsOver (.ofSettings c.settings) h₀ scratch p e
  linking : ∀ e ∈ links, e.command = linkCommand compiler i (i.objects (namingOf scratch))
  /-- What is kept is the scratch directory, as the builds have left it: what a build has left at a
  place and no later build has changed is there. -/
  keeping : ∀ dir ∈ kept, scratch = some dir ∧ embeds = [] ∧ links = []
    ∧ ∀ before e later q, builds = before ++ e :: later →
      c.runner.Obeys (Host.SameAt q) (earlier ++ (before ++ [e]).map Issue.command) later →
      last.files.get? q
        = (c.runner.after (earlier ++ before.map Issue.command) e).files.get? q

variable {c i}

/-- Commands in a row leave the scratch directory, if there is one, as they make it. -/
theorem account_bare {α : Type} {x : SessionM α} {s : Session} {new : List Issue}
    {scratch : Option Path} (hbare : Bare c.runner x) (hnew : Adds x s new) (hstart : h₀.Sound)
    (ha : h₀.Accounted scratch none s.host)
    (hobeys : c.runner.Obeys (Host.KeepsToScratch scratch) s.commands new) :
    c.Account compiler i h₀ scratch scratch s.commands new [] [] (x.run s).2.host := by
  obtain ⟨hlast, hbefore⟩ := accounted_bare hbare hnew hstart ha hobeys
  refine ⟨hlast, ?_, ?_, ?_, ?_⟩
  · rwa [List.append_nil]
  · exact List.forall_mem_nil _
  · exact List.forall_mem_nil _
  · intro dir hdir
    refine ⟨hdir, rfl, rfl, ?_⟩
    rintro before e later q rfl hlater
    exact (hbare.chained hnew).unchanged hlater

/-- **Building twice**: the scratch directory is kept if a build has failed, and nothing else ever
is. -/
theorem exists_account_buildTwice {scratch : Option Path} (hstart : h₀.Sound)
    (hapart : ∀ root ∈ c.settings.archive, h₀.IsApart root)
    (hmakes : makesObjects (namingOf scratch) = !i.compilesOnly) (s : Session) :
    ∃ (b : Builds) (embeds links : List Issue),
      Adds (c.buildTwice compiler i scratch) s (b.entries ++ (embeds ++ links))
      ∧ c.IsBuilds compiler i (namingOf scratch) b
      ∧ (h₀.Accounted scratch none s.host →
        c.runner.Obeys (Host.KeepsToScratch scratch) s.commands (b.entries ++ (embeds ++ links)) →
        c.Account compiler i h₀ scratch (if b.succeeded then none else scratch) s.commands b.entries
          embeds links ((c.buildTwice compiler i scratch).run s).2.host) := by
  obtain ⟨b, hb, hbuilds, hfailed, hreports⟩ :=
    c.exists_builds_build compiler i (namingOf scratch) hmakes s
  have hbare := c.bare_build compiler i (namingOf scratch)
  rw [buildTwice_eq]
  by_cases hsucceeded : b.succeeded = true
  · rw [hsucceeded, Bool.not_true] at hfailed
    obtain ⟨hpairings, hobjects⟩ := hreports hsucceeded
    obtain ⟨embeds, links, hlater, hlinks, hfinish⟩ := c.exists_account_finish compiler i
      scratch hstart hapart hpairings hobjects
      ((c.build compiler i (namingOf scratch)).run s).2
    refine ⟨b, embeds, links, hb.bind ?_, hbuilds, fun ha hobeys => ?_⟩
    · rw [hfailed]
      exact hlater.then_quiet fun _ => (quiet_removeScratch scratch).bind fun _ => quiet_pure _
    obtain ⟨hfirst, hsecond⟩ := Runner.obeys_append.1 hobeys
    obtain ⟨hbuilt, hbefore⟩ := accounted_bare hbare hb hstart ha hfirst
    rw [← hb.commands_eq] at hsecond
    obtain ⟨hfinished, hembeds, hlinked⟩ := hfinish hbuilt hsecond
    rw [if_pos hsucceeded]
    refine ⟨?_, ?_, hembeds, hlinks, Host.forall_mem_none⟩
    · rw [run_bind, hfailed]
      exact accounted_removeScratch hstart hfinished
    · rw [List.forall_mem_append]
      exact ⟨hbefore, hlinked⟩
  · rw [Bool.eq_false_iff.2 hsucceeded, Bool.not_false] at hfailed
    refine ⟨b, [], [], hb.bind ?_, hbuilds, fun ha hobeys => ?_⟩
    · rw [hfailed]
      exact (quiet_keepScratch scratch).bind (fun _ => quiet_pure _) _
    rw [List.append_nil, List.append_nil] at hobeys
    have hhost : ((c.build compiler i (namingOf scratch) >>= fun answer =>
          if decide (answer.1 = .failure) || hasFailures answer.2 then
            keepScratch scratch >>= fun _ => pure Outcome.failure
          else c.finish compiler i answer.2 >>= fun _ => removeScratch scratch >>= fun _ =>
            pure Outcome.success).run s).2.host
        = ((c.build compiler i (namingOf scratch)).run s).2.host := by
      rw [run_bind, hfailed]
      cases scratch <;> rfl
    rw [if_neg hsucceeded, hhost]
    exact account_bare compiler hbare hb hstart ha hobeys

/-- The scratch directory of a run, if there is one. -/
def scratchOf (c : Compilation) (i : Invocation) (s : Session) : Option Path :=
  match i.bypass? c.settings.configuring with
  | some _ => none
  | none => ((makeScratch i).run s).1.toOption.join

/-- Hidden objects are directly in the scratch directory, for sources that have a file name. -/
theorem placeOf_hidden_object {i : Invocation} (hcompiles : i.compilesOnly = false) {source : Path}
    {name : Octets} (hname : source.fileName = some name) (h : Host) (dir : Path) (index : Nat) :
    h.placeOf (i.artifactOf (.hidden dir) index source).object
      = h.placeOf dir ++ [Artifact.dotted [Artifact.stem source, Octets.ofString ".",
          Octets.ofString (toString index), Octets.ofString ".o"]] := by
  have hobject : (i.artifactOf (.hidden dir) index source).object
      = dir.join ⟨Artifact.dotted [Artifact.stem source, Octets.ofString ".",
          Octets.ofString (toString index), Octets.ofString ".o"]⟩ := by
    rw [i.artifactOf_of_links hcompiles]
    rfl
  have hproper : Place.IsName (Artifact.dotted [Artifact.stem source, Octets.ofString ".",
      Octets.ofString (toString index), Octets.ofString ".o"]) := by
    apply Artifact.isName_dotted
    · simp only [List.flatten_cons, List.flatten_nil, List.append_nil, List.mem_append]
      rintro (hmem | hmem | hmem | hmem)
      · exact Path.slash_not_mem_stem hname hmem
      · exact absurd hmem (by decide)
      · exact absurd (isDigit_of_mem_toString hmem).1 (by decide)
      · exact absurd hmem (by decide)
    · simp only [List.flatten_cons, List.flatten_nil, List.append_nil, List.length_append]
      have hlength : (Octets.ofString ".o").length = 2 := by decide
      omega
  rw [hobject]
  unfold Host.placeOf
  rw [Place.resolve_join _ _ _ (Place.isAbsolute_of_isName hproper), Place.resolve_name hproper]

/-- Making the scratch directory issues no command. -/
theorem commands_makeScratch (i : Invocation) (s : Session) :
    ((makeScratch i).run s).2.commands = s.commands := by
  unfold commands
  rw [issued_makeScratch]

section Runs

variable {s : Session} (hstart : s.host.Sound) (hremovable : s.host.AllowsRemoval)
  (hobeys : c.runner.Obeys (Host.KeepsToScratch (c.scratchOf i s)) s.commands
    (c.journal compiler i s))
include hstart hremovable hobeys

/-- A bypassed run has the native compile for its only build, and no scratch directory. -/
theorem account_of_bypass {why : Bypass} (hbypass : i.bypass? c.settings.configuring = some why) :
    ∃ entry, c.journal compiler i s = [entry] ∧ entry.command = (nativeJob compiler i).command
      ∧ c.scratchOf i s = none
      ∧ c.Account compiler i s.host none none s.commands [entry] [] []
        ((c.compile compiler i).run s).2.host := by
  have hnone : c.scratchOf i s = none := by
    unfold scratchOf
    rw [hbypass]
  obtain ⟨entry, hentry, hcommand, -⟩ := c.exists_adds_passThrough compiler i why s
  have hcompile := compile_of_bypass c compiler i hbypass
  have hjournal : c.journal compiler i s = [entry] := by
    apply journal_of_adds
    rw [hcompile]
    exact hentry
  rw [hnone, hjournal] at hobeys
  refine ⟨entry, hjournal, hcommand, hnone, ?_⟩
  rw [hcompile]
  exact account_bare compiler (c.bare_passThrough compiler i why) hentry hstart
    (Host.accounted_start hstart hremovable) hobeys

omit hobeys in
/-- A run whose scratch directory cannot be made has no builds. -/
theorem account_of_error {e : CompilationError} (hbypass : i.bypass? c.settings.configuring = none)
    (hscratch : ((makeScratch i).run s).1 = .error e) :
    c.journal compiler i s = [] ∧ c.scratchOf i s = none
      ∧ c.Account compiler i s.host none none s.commands [] [] []
        ((c.compile compiler i).run s).2.host := by
  have hrun := run_compile_of_error c compiler i hbypass hscratch
  have hmade := accounted_makeScratch i hstart hremovable
  rw [hscratch] at hmade
  refine ⟨?_, ?_, ?_⟩
  · rw [journal, hrun, issued_makeScratch, List.drop_length]
  · unfold scratchOf
    rw [hbypass, hscratch]
    rfl
  · rw [hrun, ← commands_makeScratch i s]
    exact account_bare compiler (bare_pure ()) (quiet_pure () _) hstart hmade trivial

/-- Any other run has the builds of the invocation, and keeps its scratch directory if one of them
fails. -/
theorem account_of_scratch (hapart : ∀ root ∈ c.settings.archive, s.host.IsApart root)
    {scratch : Option Path} (hbypass : i.bypass? c.settings.configuring = none)
    (hscratch : ((makeScratch i).run s).1 = .ok scratch) :
    ∃ (b : Builds) (embeds links : List Issue),
      c.journal compiler i s = b.entries ++ (embeds ++ links)
      ∧ c.IsBuilds compiler i (namingOf scratch) b ∧ c.scratchOf i s = scratch
      ∧ c.Account compiler i s.host scratch (if b.succeeded then none else scratch) s.commands
        b.entries embeds links ((c.compile compiler i).run s).2.host := by
  have hsome : c.scratchOf i s = scratch := by
    unfold scratchOf
    rw [hbypass, hscratch]
    rfl
  have hrun := run_compile_of_scratch c compiler i hbypass hscratch
  have hmade := accounted_makeScratch i hstart hremovable
  rw [hscratch] at hmade
  obtain ⟨b, embeds, links, hadds, hbuilds, haccount⟩ := exists_account_buildTwice
    compiler hstart hapart (makesObjects_of_makeScratch i hscratch)
    ((makeScratch i).run s).2
  have hjournal : c.journal compiler i s = b.entries ++ (embeds ++ links) := by
    exact journal_of_adds (adds_compile_of_scratch hbypass hscratch hadds)
  rw [hsome, hjournal] at hobeys
  rw [commands_makeScratch] at haccount
  refine ⟨b, embeds, links, hjournal, hbuilds, hsome, ?_⟩
  rw [hrun]
  exact haccount hmade hobeys

end Runs

/-- **Temporary files are accounted for.** Let the archive be apart from the directory for temporary
files, let the host take the program's own files away, and let each command change nothing in that
directory but what is in the scratch directory. Then the journal of a run falls into builds, embed
commands and links. No build and no link finds anything new in the directory but the scratch
directory, and each embed command finds its payload file besides. In the end nothing is left but the
scratch directory, and that exactly if the run is not bypassed, does not stop before the link and a
build has failed; then nothing has followed the builds, and the directory is as they have left it.
The objects of sources with file names are directly in it. -/
theorem temporaries_accounted (c : Compilation) (compiler : Path) (i : Invocation) (s : Session)
    (hstart : s.host.Sound) (hremovable : s.host.AllowsRemoval)
    (hapart : ∀ root ∈ c.settings.archive, s.host.IsApart root)
    (hobeys : c.runner.Obeys (Host.KeepsToScratch (c.scratchOf i s)) s.commands
      (c.journal compiler i s)) :
    ∃ (builds embeds links : List Issue) (kept : Option Path),
      c.journal compiler i s = builds ++ (embeds ++ links)
      ∧ c.Account compiler i s.host (c.scratchOf i s) kept s.commands builds embeds links
        ((c.compile compiler i).run s).2.host
      ∧ (kept.isSome ↔ i.bypass? c.settings.configuring = none ∧ i.compilesOnly = false
        ∧ ∃ e ∈ builds, e.verdict.isOk = false)
      ∧ (∀ why, i.bypass? c.settings.configuring = some why →
        builds.map Issue.command = [(nativeJob compiler i).command])
      ∧ (i.bypass? c.settings.configuring = none →
        (builds = [] ∧ ∃ e, ((makeScratch i).run s).1 = .error e)
        ∨ Interleaving [(nativeJob compiler i).command]
          (c.replayCommands compiler i (namingOf (c.scratchOf i s))) (builds.map Issue.command))
      ∧ ∀ dir ∈ c.scratchOf i s, ∀ (index : Nat) (source : Path), source.fileName.isSome →
        ∃ file, s.host.placeOf (i.artifactOf (.hidden dir) index source).object
          = s.host.placeOf dir ++ [file] := by
  cases hbypass : i.bypass? c.settings.configuring with
  | some why =>
      obtain ⟨entry, hjournal, hcommand, hnone, haccount⟩ :=
        account_of_bypass compiler hstart hremovable hobeys hbypass
      rw [hnone]
      refine ⟨[entry], [], [], none, hjournal, haccount, by simp, fun _ _ => ?_, ?_, ?_⟩
      · rw [List.map_singleton, hcommand]
      · intro h
        cases h
      · exact Host.forall_mem_none
  | none =>
      cases hscratch : ((makeScratch i).run s).1 with
      | error e =>
          obtain ⟨hjournal, hnone, haccount⟩ :=
            account_of_error compiler hstart hremovable hbypass hscratch
          rw [hnone]
          refine ⟨[], [], [], none, hjournal, haccount, by simp, ?_, fun _ => .inl ⟨rfl, e, rfl⟩, ?_⟩
          · intro why h
            cases h
          · exact Host.forall_mem_none
      | ok scratch =>
          obtain ⟨b, embeds, links, hjournal, hbuilds, hsome, haccount⟩ :=
            account_of_scratch compiler hstart hremovable hobeys hapart hbypass hscratch
          have hisSome := isSome_of_makeScratch i hscratch
          rw [hsome]
          refine ⟨b.entries, embeds, links, _, hjournal, haccount, ?_, ?_,
            fun _ => .inr hbuilds.interleaving, ?_⟩
          · have hfailed : b.succeeded = false ↔ ∃ e ∈ b.entries, e.verdict.isOk = false := by
              unfold Builds.succeeded
              simp
            rw [← hfailed]
            cases b.succeeded with
            | true => simp
            | false => simp [hisSome]
          · intro why h
            cases h
          · rintro dir ⟨⟩ index source hname
            obtain ⟨name, hname⟩ := Option.isSome_iff_exists.1 hname
            have hcompiles : i.compilesOnly = false := by simpa using hisSome
            exact ⟨_, placeOf_hidden_object hcompiles hname s.host dir index⟩

/-- A runner that writes the output which a command names, and fails the commands that have one of
some arguments. -/
def scribe (failing : List Octets) : Runner where
  run _ command h :=
    if failing.any command.arguments.contains then
      (.error (.failed command.rendered (some 1)), h)
    else
      match Rehearsal.outputOf command with
      | none => (.ok (), h)
      | some output =>
        (.ok (), ((Host.writeFile output (Rehearsal.traceOf command)).run.run h).2)

/-- Whether the output that a command names is outside the directory for temporary files or in the
scratch directory. -/
def writesApart (scratch : Option Path) (e : Issue) : Bool :=
  (Rehearsal.outputOf e.command).all fun output =>
    !e.before.temporaryPlace.isPrefixOf (e.before.placeOf output)
      || scratch.any fun dir => (e.before.placeOf dir).isPrefixOf (e.before.placeOf output)
        && e.before.placeOf output != e.before.placeOf dir

theorem keepsToScratch_scribe (failing : List Octets) {scratch : Option Path} {e : Issue}
    (hwrites : writesApart scratch e = true) (earlier : List Command) :
    Host.KeepsToScratch scratch e.before ((scribe failing).after earlier e) := by
  unfold Runner.after scribe
  simp only
  split
  · exact .refl scratch e.before
  cases houtput : Rehearsal.outputOf e.command with
  | none => exact .refl scratch e.before
  | some output =>
      simp only
      generalize hrun : (Host.writeFile output (Rehearsal.traceOf e.command)).run.run e.before
        = written
      obtain ⟨fault | _, after⟩ := written
      · rw [Host.attempt_error hrun]
        exact .refl scratch e.before
      obtain ⟨hkeeps, f, -, hmade⟩ := Host.writeFile_makes hrun
      have hrules : Host.SameRules e.before after := by
        have hsteady := Host.steady_writeFile output (Rehearsal.traceOf e.command) e.before
        rwa [hrun] at hsteady
      refine hkeeps.keepsToScratch hrules fun q hq hinside => ?_
      rw [hmade, if_neg]
      rintro rfl
      unfold writesApart at hwrites
      rw [houtput, Option.all_some, Bool.or_eq_true, Bool.not_eq_true', Option.any_eq_true]
        at hwrites
      rcases hwrites with houtside | ⟨dir, hdir, hbelow⟩
      · rw [List.isPrefixOf_iff_prefix.2 hq] at houtside
        cases houtside
      · rw [Bool.and_eq_true, List.isPrefixOf_iff_prefix, bne_iff_ne] at hbelow
        exact hbelow.2 (hinside dir hdir hbelow.1)

theorem obeys_scribe (failing : List Octets) {scratch : Option Path} {issues : List Issue}
    (hwrites : ∀ e ∈ issues, writesApart scratch e = true) (earlier : List Command) :
    (scribe failing).Obeys (Host.KeepsToScratch scratch) earlier issues := by
  induction issues generalizing earlier with
  | nil => trivial
  | cons e issues ih =>
      rw [List.forall_mem_cons] at hwrites
      exact ⟨keepsToScratch_scribe failing hwrites.1 earlier, ih hwrites.2 _⟩

theorem sound_bareSession (refuses : Operation → Option Errno) :
    (bareSession refuses).host.Sound :=
  ⟨Files.grounded_of_entries (by
      simp only [bareSession, List.forall_mem_singleton]
      rfl), rfl, fun _ hname => by cases hname⟩

theorem allowsRemoval_bareSession : (bareSession fun _ => none).host.AllowsRemoval :=
  fun _ => ⟨rfl, rfl⟩

/-- A run that fails to build bitcode, where there is an archive, and keeps its scratch directory with
the object in it. -/
theorem temporaries_accounted_failed_bitcode :
    let s := bareSession fun _ => none
    let i : Invocation := .ofArguments [Octets.ofString "a.c", Flags.output, Octets.ofString "app"]
    let c : Compilation :=
      { settings := { archive := some (.ofString "/store") }
        runner := scribe [Flags.emitBitcode] }
    let last := ((c.compile (.ofString "/cc") i).run s).2.host
    ∃ (builds : List Issue) (dir : Path),
      c.journal (.ofString "/cc") i s = builds ∧ c.scratchOf i s = some dir
      ∧ (∃ e ∈ builds, e.verdict.isOk = false)
      ∧ c.Account (.ofString "/cc") i s.host (some dir) (some dir) s.commands builds [] [] last
      ∧ last.nodeAt (i.artifactOf (.hidden dir) 0 (.ofString "a.c")).object ≠ none := by
  intro s i c last
  have hobeys : c.runner.Obeys (Host.KeepsToScratch (c.scratchOf i s)) s.commands
      (c.journal (.ofString "/cc") i s) := obeys_scribe _ (by decide +kernel) _
  have hapart : ∀ root ∈ c.settings.archive, s.host.IsApart root := by
    rintro root ⟨⟩
    exact Host.isApart_of_down (by decide +kernel) (by decide +kernel)
  obtain ⟨builds, embeds, links, kept, hjournal, haccount, hkept, -⟩ :=
    temporaries_accounted c (.ofString "/cc") i s (sound_bareSession _) allowsRemoval_bareSession
      hapart hobeys
  have hscratch : c.scratchOf i s = some (.ofString "/tmp/dualcc000000") := by decide +kernel
  cases kept with
  | none =>
      -- were nothing kept, the scratch directory would be gone
      have hsame := haccount.ending.same
        [Octets.ofString "tmp", Octets.ofString "dualcc000000"] (by decide +kernel)
        Host.forall_mem_none Host.forall_mem_none
      exact absurd hsame (by decide +kernel)
  | some dir =>
      obtain ⟨hdir, rfl, rfl, -⟩ := haccount.keeping dir rfl
      rw [hdir] at haccount
      refine ⟨builds, dir, ?_, hdir, (hkept.1 rfl).2.2, haccount, ?_⟩
      · simpa using hjournal
      · cases hscratch.symm.trans hdir
        decide +kernel

/-- An archive whose path leads through a directory that is yet to be made leaves that directory, and
the object of a source without a file name is not in the directory that is kept. -/
theorem temporaries_not_accounted :
    let s := bareSession fun _ => none
    let compiler : Path := .ofString "/cc"
    let through : Path := .ofString "/tmp/x/../../store"
    let archiving : Compilation :=
      { settings := { archive := some through }, runner := scribe [] }
    let early : Invocation :=
      .ofArguments [Flags.compileOnly, Octets.ofString "a.c", Flags.output, Octets.ofString "a.o"]
    let upward : Path := .ofString "/../../.."
    let failing : Compilation := { runner := scribe [Flags.emitBitcode] }
    let linked : Invocation := .ofArguments
      [Flags.language, Octets.ofString "c", upward.text, Flags.output, Octets.ofString "app"]
    (s.host.Sound ∧ s.host.AllowsRemoval)
    ∧ (¬ s.host.temporaryPlace <+: s.host.placeOf through
      ∧ archiving.runner.Obeys (Host.KeepsToScratch (archiving.scratchOf early s)) s.commands
        (archiving.journal compiler early s)
      ∧ early.compilesOnly = true
      ∧ ∃ q, s.host.temporaryPlace <+: q ∧ s.host.files.get? q = none
        ∧ ((archiving.compile compiler early).run s).2.host.files.get? q = some .directory)
    ∧ ∃ dir, failing.scratchOf linked s = some dir
      ∧ failing.runner.Obeys (Host.KeepsToScratch (some dir)) s.commands
        (failing.journal compiler linked s)
      ∧ (∃ e ∈ failing.journal compiler linked s, e.verdict.isOk = true
        ∧ e.command = (Recipe.mk compiler []).objectCommand linked upward
          (linked.artifactOf (.hidden dir) 0 upward).object)
      ∧ (((failing.compile compiler linked).run s).2.host.nodeAt
          (linked.artifactOf (.hidden dir) 0 upward).object).isSome
      ∧ ((failing.compile compiler linked).run s).2.host.files.get? (s.host.placeOf dir)
        = some .directory
      ∧ ((failing.compile compiler linked).run s).2.host.files.listing (s.host.placeOf dir)
        = [] := by
  intro s compiler through archiving early upward failing linked
  have hearly : ∀ e ∈ archiving.journal compiler early s,
      writesApart (archiving.scratchOf early s) e = true := by decide +kernel
  have hlinked : ∀ e ∈ failing.journal compiler linked s,
      writesApart (some (.ofString "/tmp/dualcc000000")) e = true := by decide +kernel
  refine ⟨⟨sound_bareSession _, allowsRemoval_bareSession⟩, ⟨?_, ?_, ?_, ?_⟩, ?_⟩
  · decide +kernel
  · generalize archiving.journal compiler early s = issues at hearly ⊢
    exact obeys_scribe [] hearly s.commands
  · decide +kernel
  · refine ⟨[Octets.ofString "tmp", Octets.ofString "x"], ?_⟩
    decide +kernel
  · refine ⟨.ofString "/tmp/dualcc000000", ?_, ?_, ?_, ?_, ?_, ?_⟩
    · decide +kernel
    · generalize failing.journal compiler linked s = issues at hlinked ⊢
      exact obeys_scribe [Flags.emitBitcode] hlinked s.commands
    · decide +kernel
    · decide +kernel
    · decide +kernel
    · decide +kernel

end Compilation

end TwinBuild
