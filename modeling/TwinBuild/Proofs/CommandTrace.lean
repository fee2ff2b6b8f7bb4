import TwinBuild.Proofs.Attaching
import TwinBuild.Proofs.Builds

/-!
# The command trace of a compilation

Which commands a compilation issues, in which order, for every invocation, every runner and every
order in which the native compile and the replay take turns. A bypassed invocation issues the native
command and no other. Any other has three phases: the builds, then the embed commands, then the
link. The later phases are reached only if every build succeeded.

Main statement: `commands_compile`.
-/

namespace TwinBuild.Compilation

open Session Replay Attachment

variable (c : Compilation) (compiler : Path) (i : Invocation)

/-! ## The scratch directory -/

theorem quiet_makeScratch : Quiet (makeScratch i) := by
  unfold makeScratch
  split
  · exact quiet_pure _
  · exact quiet_get.bind fun _ => (quiet_onHost _).bind fun _ => quiet_pure _

theorem quiet_keepScratch (scratch : Option Path) : Quiet (keepScratch scratch) := by
  cases scratch with
  | none => exact quiet_pure _
  | some dir => exact quiet_say _ _ _

theorem quiet_removeScratch (scratch : Option Path) : Quiet (removeScratch scratch) := by
  cases scratch with
  | none => exact quiet_pure _
  | some dir =>
      refine (quiet_onHost _).bind fun removed => ?_
      cases removed with
      | ok => exact quiet_pure _
      | error fault => exact quiet_say _ _ _

/-- There is a scratch directory exactly where something is to be linked. -/
theorem isSome_of_makeScratch {s : Session} {scratch : Option Path}
    (h : ((makeScratch i).run s).1 = .ok scratch) : scratch.isSome = !i.compilesOnly := by
  unfold makeScratch at h
  cases hcompiles : i.compilesOnly with
  | true =>
      rw [hcompiles] at h
      cases h
      rfl
  | false =>
      rw [hcompiles, if_neg Bool.false_ne_true, run_bind, run_get, run_bind, run_onHost] at h
      revert h
      -- only whether the directory was made matters, not which one it is
      cases ((Host.createTemporaryDirectory temporaryLead s.host.temporaryDirectory).run.run
        s.host).1 with
      | error fault =>
          intro h
          cases h
      | ok dir =>
          intro h
          cases h
          rfl

theorem makesObjects_of_makeScratch {s : Session} {scratch : Option Path}
    (h : ((makeScratch i).run s).1 = .ok scratch) :
    makesObjects (namingOf scratch) = !i.compilesOnly := by
  rw [← isSome_of_makeScratch i h]
  cases scratch <;> rfl

/-! ## After the builds -/

/-- The commands that finish a compilation whose builds succeeded, from a session on: the embed
commands in the order of the sources, and then the link, if there is one. -/
def finishCommands (naming : Naming) (s : Session) : List Command :=
  embedCommands c.runner (.ofSettings c.settings) (c.settings.archive.map Archive.mk)
      (i.pairings naming) s
    ++ if i.compilesOnly then [] else [linkCommand compiler i (i.objects naming)]

theorem exists_adds_relink (objects : List Path) (s : Session) :
    ∃ entry, Adds (c.relink compiler i objects) s [entry]
      ∧ entry.command = linkCommand compiler i objects := by
  refine ⟨_, Adds.after_quiet (quiet_say _ _ _)
    ((Session.adds_run c.runner (linkCommand compiler i objects) _).then_quiet ?_), rfl⟩
  intro verdict
  cases verdict with
  | ok => exact quiet_pure _
  | error e => exact quiet_say _ _ _

/-- Finishing attaches the pairs and then links the new objects, if there is a link. -/
theorem exists_adds_finish {naming : Naming} {reports : List SourceReport}
    (hobjects : i.compilesOnly = false → newObjects reports = i.objects naming) (s : Session) :
    ∃ embeds links, Adds (c.attachAll reports) s embeds
      ∧ Adds (c.finish compiler i reports) s (embeds ++ links)
      ∧ links.map Issue.command
        = if i.compilesOnly then [] else [linkCommand compiler i (i.objects naming)] := by
  obtain ⟨embeds, hembeds, -⟩ := exists_adds_mapM_attach c.runner
    (.ofSettings c.settings) (c.settings.archive.map Archive.mk) (pairings reports) s
  unfold finish
  cases hcompiles : i.compilesOnly with
  | true =>
      refine ⟨embeds, [], hembeds, ?_, rfl⟩
      rw [List.append_nil]
      exact hembeds.then_quiet fun _ => quiet_pure _
  | false =>
      obtain ⟨entry, hentry, hlink⟩ := c.exists_adds_relink compiler i (newObjects reports)
        ((c.attachAll reports).run s).2
      refine ⟨embeds, [entry], hembeds, hembeds.bind hentry, ?_⟩
      rw [List.map_singleton, hlink, hobjects hcompiles, if_neg Bool.false_ne_true]

/-- What comes after the builds depends on whether one of them failed. -/
theorem buildTwice_eq (scratch : Option Path) :
    c.buildTwice compiler i scratch
      = c.build compiler i (namingOf scratch) >>= fun answer =>
          if decide (answer.1 = .failure) || hasFailures answer.2 then
            keepScratch scratch >>= fun _ => pure .failure
          else c.finish compiler i answer.2 >>= fun _ => removeScratch scratch >>= fun _ =>
            pure .success := rfl

/-- **Building twice, by its parts.** The journal gets the entries of the builds and, if all of them
succeeded, those of attaching the pairs of all sources and of the link. The outcome says whether they
did. -/
theorem exists_parts_buildTwice {scratch : Option Path}
    (h : makesObjects (namingOf scratch) = !i.compilesOnly) (s : Session) :
    let built := (c.build compiler i (namingOf scratch)).run s
    ∃ (b : Builds) (embeds links : List Issue),
      Adds (c.build compiler i (namingOf scratch)) s b.entries
      ∧ Adds (c.buildTwice compiler i scratch) s (b.entries ++ (embeds ++ links))
      ∧ c.IsBuilds compiler i (namingOf scratch) b
      ∧ ((c.buildTwice compiler i scratch).run s).1 = (if b.succeeded then .success else .failure)
      ∧ (b.succeeded = false → embeds = [] ∧ links = [])
      ∧ (b.succeeded = true → pairings built.1.2 = i.pairings (namingOf scratch)
        ∧ Adds (c.attachAll built.1.2) built.2 embeds
        ∧ links.map Issue.command
          = if i.compilesOnly then []
            else [linkCommand compiler i (i.objects (namingOf scratch))]) := by
  intro built
  obtain ⟨b, hb, hbuilds, hfailed, hreports⟩ :=
    c.exists_builds_build compiler i (namingOf scratch) h s
  rw [buildTwice_eq]
  -- the two branches after the builds, told apart by what their entries say and not by the answer
  by_cases hsucceeded : b.succeeded = true
  · rw [hsucceeded, Bool.not_true] at hfailed
    obtain ⟨hpairings, hobjects⟩ := hreports hsucceeded
    obtain ⟨embeds, links, hembeds, hfinish, hlinks⟩ :=
      c.exists_adds_finish compiler i hobjects built.2
    refine ⟨b, embeds, links, hb, hb.bind ?_, hbuilds, ?_, ?_, fun _ => ⟨hpairings, hembeds, hlinks⟩⟩
    · rw [hfailed]
      exact hfinish.then_quiet fun _ => (quiet_removeScratch scratch).bind fun _ => quiet_pure _
    · rw [run_bind, hfailed, if_pos hsucceeded]
      rfl
    · intro hfalse
      rw [hsucceeded] at hfalse
      cases hfalse
  · have hfalse := Bool.eq_false_iff.2 hsucceeded
    rw [hfalse, Bool.not_false] at hfailed
    refine ⟨b, [], [], hb, hb.bind ?_, hbuilds, ?_, fun _ => ⟨rfl, rfl⟩, fun htrue => ?_⟩
    · rw [hfailed]
      exact (quiet_keepScratch scratch).bind (fun _ => quiet_pure _) _
    · rw [run_bind, hfailed, if_neg hsucceeded]
      rfl
    · exact absurd htrue hsucceeded

/-- **Building twice**, by the commands: after the builds there are those that finish the compilation,
if every build succeeded. -/
theorem exists_builds_buildTwice {scratch : Option Path}
    (h : makesObjects (namingOf scratch) = !i.compilesOnly) (s : Session) :
    ∃ (b : Builds) (later : List Issue),
      Adds (c.build compiler i (namingOf scratch)) s b.entries
      ∧ Adds (c.buildTwice compiler i scratch) s (b.entries ++ later)
      ∧ c.IsBuilds compiler i (namingOf scratch) b
      ∧ later.map Issue.command
        = (if b.succeeded then
            c.finishCommands compiler i (namingOf scratch)
              ((c.build compiler i (namingOf scratch)).run s).2
          else [])
      ∧ ((c.buildTwice compiler i scratch).run s).1
        = if b.succeeded then .success else .failure := by
  obtain ⟨b, embeds, links, hb, hadds, hbuilds, houtcome, hfailed, hfinished⟩ :=
    c.exists_parts_buildTwice compiler i h s
  refine ⟨b, embeds ++ links, hb, hadds, hbuilds, ?_, houtcome⟩
  by_cases hsucceeded : b.succeeded = true
  · obtain ⟨hpairings, hembeds, hlinks⟩ := hfinished hsucceeded
    obtain ⟨new, hnew, hcommands⟩ := exists_adds_mapM_attach c.runner (.ofSettings c.settings)
      (c.settings.archive.map Archive.mk)
      (pairings ((c.build compiler i (namingOf scratch)).run s).1.2)
      ((c.build compiler i (namingOf scratch)).run s).2
    cases List.append_cancel_left (hembeds.symm.trans hnew)
    rw [if_pos hsucceeded, List.map_append, hcommands, hpairings, hlinks]
    rfl
  · obtain ⟨rfl, rfl⟩ := hfailed (Bool.eq_false_iff.2 hsucceeded)
    rw [if_neg hsucceeded]
    rfl

/-! ## A whole compilation -/

/-- A native compile that stands alone decides the outcome. -/
theorem outcomeOf_alone (entry : Issue) :
    outcomeOf entry.verdict
      = if (Builds.mk [] entry []).succeeded then .success else .failure := by
  obtain ⟨command, before, verdict⟩ := entry
  cases verdict <;> rfl

theorem compile_of_bypass {why : Bypass} (h : i.bypass? c.settings.configuring = some why) :
    c.compile compiler i = .ok <$> c.passThrough compiler i why := by
  unfold compile
  rw [h]

/-- Without a bypass and with the scratch directory at hand, a compilation builds twice. -/
theorem run_compile_of_scratch {scratch : Option Path} {s : Session}
    (h : i.bypass? c.settings.configuring = none)
    (hscratch : ((makeScratch i).run s).1 = .ok scratch) :
    (c.compile compiler i).run s
      = (.ok ((c.buildTwice compiler i scratch).run ((makeScratch i).run s).2).1,
        ((c.buildTwice compiler i scratch).run ((makeScratch i).run s).2).2) := by
  unfold compile
  rw [h, run_bind, hscratch]
  rfl

/-- Where the scratch directory cannot be made, nothing else is done. -/
theorem run_compile_of_error {e : CompilationError} {s : Session}
    (h : i.bypass? c.settings.configuring = none)
    (hscratch : ((makeScratch i).run s).1 = .error e) :
    (c.compile compiler i).run s = (.error e, ((makeScratch i).run s).2) := by
  unfold compile
  rw [h, run_bind, hscratch]
  rfl

theorem exists_adds_passThrough (why : Bypass) (s : Session) :
    ∃ entry, Adds (c.passThrough compiler i why) s [entry]
      ∧ entry.command = (nativeJob compiler i).command
      ∧ ((c.passThrough compiler i why).run s).1 = outcomeOf entry.verdict :=
  ⟨_, Adds.after_quiet (quiet_say _ _ _)
    ((Job.adds_run c.runner (nativeJob compiler i) _).then_quiet fun _ => quiet_pure _), rfl, rfl⟩

theorem issued_makeScratch (s : Session) : ((makeScratch i).run s).2.issued = s.issued := by
  have h := quiet_makeScratch i s
  rwa [Adds, List.append_nil] at h

variable {c compiler i} in
/-- What building twice adds after the scratch directory was made, the compilation adds. -/
theorem adds_compile_of_scratch {scratch : Option Path} {s : Session} {new : List Issue}
    (hbypass : i.bypass? c.settings.configuring = none)
    (hscratch : ((makeScratch i).run s).1 = .ok scratch)
    (hadds : Adds (c.buildTwice compiler i scratch) ((makeScratch i).run s).2 new) :
    Adds (c.compile compiler i) s new := by
  unfold Adds at hadds ⊢
  rw [run_compile_of_scratch c compiler i hbypass hscratch, hadds, issued_makeScratch]

/-- **Every order of the builds** is that of some turn, from whatever session they start. -/
theorem exists_turn_adds_build {naming : Naming} (h : makesObjects naming = !i.compilesOnly)
    {order : List Command}
    (horder : Interleaving [(nativeJob compiler i).command] (c.replayCommands compiler i naming)
      order) :
    ∃ turn, ∀ s, ∃ builds : List Issue,
      Adds (({ c with turn } : Compilation).build compiler i naming) s builds
        ∧ builds.map Issue.command = order := by
  obtain ⟨turn, hturn⟩ := exists_turn_of_interleaving c compiler i naming horder
  refine ⟨turn, fun s => ?_⟩
  obtain ⟨b, hadds, hbuilds, -⟩ :=
    ({ c with turn } : Compilation).exists_builds_build compiler i naming h s
  exact ⟨b.entries, hadds, hturn b hbuilds⟩

/-- **The command trace.** A bypassed invocation issues the native command and nothing else. Any
other whose scratch directory can be made issues the native command interleaved with the builds of
the sources: for each source in order one of its object, unless the invocation stops before the link,
and one of its bitcode, unless it has the bitcode extension. If all of these succeeded, the embed
commands of the sources follow, and last of all, unless the invocation stops before it, the link of
the objects of the sources with the link arguments. If one failed, nothing follows. Whatever order
the builds come in, it is that of some turn. -/
theorem commands_compile (s : Session) :
    let native : Command := { program := compiler, arguments := i.nativeArguments }
    (∀ why, i.bypass? c.settings.configuring = some why →
      ((c.compile compiler i).run s).2.commands = s.commands ++ [native])
    ∧ ∀ scratch, i.bypass? c.settings.configuring = none →
      ((makeScratch i).run s).1 = .ok scratch →
      let naming := namingOf scratch
      let replay : List Command :=
        (i.sources.mapIdx fun index source =>
          (if i.compilesOnly then []
            else [{ program := compiler
                    arguments := i.compileArguments
                      ++ [source.text, Octets.ofString "-c", Octets.ofString "-o",
                        (i.artifactOf naming index source).object.text] }])
          ++ if source.extension = some (Octets.ofString "bc") then []
            else [{ program := compiler
                    arguments := i.compileArguments ++ c.settings.bitcodeFlags
                      ++ [Octets.ofString "-emit-llvm", Octets.ofString "-c", source.text,
                        Octets.ofString "-o",
                        (i.artifactOf naming index source).bitcode.text] }]).flatten
      let link : Command :=
        { program := compiler
          arguments := (i.sources.mapIdx fun index source =>
              (i.artifactOf naming index source).object.text)
            ++ i.linkArguments
            ++ [Octets.ofString "-o", (i.output.getD (.ofString "a.out")).text] }
      scratch.isSome = !i.compilesOnly
      ∧ (∃ builds later : List Issue,
        Adds (c.build compiler i naming) ((makeScratch i).run s).2 builds
        ∧ Adds (c.compile compiler i) s (builds ++ later)
        ∧ Interleaving [native] replay (builds.map Issue.command)
        ∧ later.map Issue.command
          = if builds.all fun entry => entry.verdict.isOk then
              embedCommands c.runner (.ofSettings c.settings) (c.settings.archive.map Archive.mk)
                  (i.pairings naming)
                  ((c.build compiler i naming).run ((makeScratch i).run s).2).2
                ++ if i.compilesOnly then [] else [link]
            else [])
      ∧ ∀ order, Interleaving [native] replay order → ∃ turn, ∀ s', ∃ builds : List Issue,
        Adds (({ c with turn } : Compilation).build compiler i naming) s' builds
          ∧ builds.map Issue.command = order := by
  intro native
  constructor
  · intro why hwhy
    obtain ⟨entry, hentry, hcommand, -⟩ := c.exists_adds_passThrough compiler i why s
    have hissued : ((c.compile compiler i).run s).2.issued = s.issued ++ [entry] := by
      rw [compile_of_bypass c compiler i hwhy]
      exact hentry
    rw [commands, hissued, List.map_append, List.map_singleton, hcommand]
    rfl
  · intro scratch hbypass hscratch naming replay link
    have hmakes : makesObjects naming = !i.compilesOnly := makesObjects_of_makeScratch i hscratch
    have hreplay : c.replayCommands compiler i naming = replay := by
      refine congrArg List.flatten (List.mapIdx_eq_mapIdx_iff.2 fun index hindex => ?_)
      simp only [Path.isBitcode, beq_iff_eq]
      rfl
    have hlink : linkCommand compiler i (i.objects naming) = link := by
      rw [linkCommand, Invocation.objects, map_mapIdx]
      rfl
    obtain ⟨b, later, hb, hadds, hbuilds, hlater, -⟩ :=
      c.exists_builds_buildTwice compiler i hmakes ((makeScratch i).run s).2
    rw [finishCommands, hlink] at hlater
    refine ⟨isSome_of_makeScratch i hscratch, ⟨b.entries, later, hb,
      adds_compile_of_scratch hbypass hscratch hadds, ?_, hlater⟩, fun order horder => ?_⟩
    · rw [← hreplay]
      exact hbuilds.interleaving
    · rw [← hreplay] at horder
      exact c.exists_turn_adds_build compiler i hmakes horder

/-- A session on a host that has nothing but a directory for temporary files. -/
def bareSession (refuses : Operation → Option Errno) : Session where
  host := { files := ⟨[([Octets.ofString "tmp"], .directory)]⟩, cwd := { place := [] }, refuses }

/-- Of two sources the second is bitcode: three builds beside the native compile, and at the end the
link of both objects. -/
theorem commands_compile_bitcode_source :
    let i := Invocation.ofArguments (Flags.table ["a.c", "b.bc", "-lm", "-o", "out"])
    let c : Compilation := { runner := { run := fun _ _ h => (.ok (), h) }, turn := 1 }
    let s := bareSession fun _ => none
    i.bypass? c.settings.configuring = none
    ∧ ((makeScratch i).run s).1 = .ok (some (.ofString "/tmp/dualcc000000"))
    ∧ ∃ builds later : List Issue, Adds (c.compile (.ofString "/cc") i) s (builds ++ later)
      ∧ builds.length = 4
      ∧ (later.map Issue.command).getLast? = some
        { program := .ofString "/cc"
          arguments := Flags.table ["/tmp/dualcc000000/.a.0.o", "/tmp/dualcc000000/.b.1.o",
            "-lm", "-o", "out"] } := by
  intro i c s
  have hbypass : i.bypass? c.settings.configuring = none := by decide +kernel
  have hscratch : ((makeScratch i).run s).1 = .ok (some (.ofString "/tmp/dualcc000000")) := by
    decide +kernel
  obtain ⟨-, ⟨builds, later, hbuilds, hadds, -, hlater⟩, -⟩ :=
    (commands_compile c (.ofString "/cc") i s).2 _ hbypass hscratch
  -- nothing was issued before, so the builds are all that there is after them
  have hall : builds = _ := hbuilds.symm
  have hsucceeded : (builds.all fun entry => entry.verdict.isOk) = true := by
    rw [hall]
    decide +kernel
  have hlink : i.compilesOnly = false := by decide +kernel
  refine ⟨hbypass, hscratch, builds, later, hadds, ?_, ?_⟩
  · rw [hall]
    decide +kernel
  · rw [hlater, if_pos hsucceeded, hlink, if_neg Bool.false_ne_true, List.getLast?_concat]
    decide +kernel

end TwinBuild.Compilation
