import Mathlib.Data.List.Forall2
import TwinBuild.Proofs.HiddenObjects
import TwinBuild.Proofs.Refusals
import TwinBuild.Proofs.TwinRuns

/-!
# Where the bitcode flags go

One invocation is compiled twice, with settings that differ in nothing but the flags for bitcode
builds. The flags go into the bitcode builds and nowhere else: no path, no branch, no payload and no
later command depends on them.

This is said in two ways. Runs on different hosts, under different runners, are compared command by
command. The names that a run draws for its scratch directory and its payload files are its own, so
words are compared up to these names. What has to be alike is what the runs are answered: the verdicts
on their builds, and for a payload to be handed over, that one can be written. Runs on one host, under
runners that do the same on corresponding commands, draw the same names. They are compared host by host
as well.

Main statements: `forall₂_jobs`, the builds by rows; `forall₂_mapM_attach`, the embed commands;
`areTwins_of_flags`; and `bitcode_flags_confined`.
-/

namespace TwinBuild

/-! ## The same but for temporary names -/

/-- **Words that are the same up to names**: one word, or a path in it put for the other path of a
pair. -/
inductive Octets.SameUpTo (names : List (Path × Path)) : Octets → Octets → Prop
  | same (word : Octets) : SameUpTo names word word
  | renamed {p q : Path} (name : (p, q) ∈ names) (before after : Octets) :
    SameUpTo names (before ++ p.text ++ after) (before ++ q.text ++ after)

/-- Commands that are the same up to names, argument by argument. -/
structure Command.SameUpTo (names : List (Path × Path)) (c₁ c₂ : Command) : Prop where
  program : c₁.program = c₂.program
  arguments : List.Forall₂ (Octets.SameUpTo names) c₁.arguments c₂.arguments
  directory : c₁.directory = c₂.directory

variable {names names' : List (Path × Path)}

theorem Octets.SameUpTo.mono (hsub : names ⊆ names') {v w : Octets} (h : SameUpTo names v w) :
    SameUpTo names' v w := by
  cases h with
  | same => exact .same _
  | renamed name before after => exact .renamed (hsub name) before after

/-- A path of a pair is the same up to names as the other one, with whatever is put before them. -/
theorem Octets.SameUpTo.of_mem {p q : Path} (name : (p, q) ∈ names) (before : Octets) :
    SameUpTo names (before ++ p.text) (before ++ q.text) := by
  have h := SameUpTo.renamed name before []
  rwa [List.append_nil, List.append_nil] at h

theorem forall₂_sameUpTo (words : List Octets) :
    List.Forall₂ (Octets.SameUpTo names) words words :=
  List.forall₂_same.2 fun word _ => .same word

theorem Octets.SameUpTo.eq_of_nil {v w : Octets} (h : SameUpTo [] v w) : v = w := by
  cases h with
  | same => rfl
  | renamed name => exact absurd name List.not_mem_nil

theorem Command.SameUpTo.eq_of_nil {c₁ c₂ : Command} (h : c₁.SameUpTo [] c₂) : c₁ = c₂ := by
  have harguments : c₁.arguments = c₂.arguments := by
    rw [← List.forall₂_eq_eq_eq]
    exact h.arguments.imp fun _ _ => Octets.SameUpTo.eq_of_nil
  obtain ⟨program, arguments, directory⟩ := c₁
  cases h.program
  cases harguments
  cases h.directory
  rfl

/-- Lists that are related entry by entry, from one list and two functions of index and entry. -/
theorem forall₂_mapIdx {α β γ : Type} {R : β → γ → Prop} {f : Nat → α → β} {g : Nat → α → γ}
    (h : ∀ index x, R (f index x) (g index x)) (xs : List α) :
    List.Forall₂ R (xs.mapIdx f) (xs.mapIdx g) := by
  refine List.forall₂_iff_get.2 ⟨by rw [List.length_mapIdx, List.length_mapIdx], fun k hf hg => ?_⟩
  rw [List.get_eq_getElem, List.get_eq_getElem, List.getElem_mapIdx, List.getElem_mapIdx]
  exact h _ _

/-! ## Writing a payload -/

namespace Attachment

/-- Writing a payload leaves the environment alone and what the host refuses. -/
theorem steady_writePayload (bitcode : Path) : Host.Steady (writePayload bitcode) := by
  refine Host.steady_get.bind fun h => ?_
  refine (Host.steady_createTemporaryFile temporaryLead h.temporaryDirectory).bind fun p => ?_
  refine Host.Steady.bind ?_ fun _ => Host.steady_pure p
  refine ((Host.steady_writeFile p (payloadOf bitcode)).about p).tryCatch fun fault => ?_
  refine Host.Steady.bind ?_ fun _ => Host.steady_throw fault
  exact (Host.steady_removeFile p).tryCatch fun _ => Host.steady_pure ()

theorem isTemporary_of_writePayload {bitcode payload : Path} {h h' : Host}
    (hrun : (writePayload bitcode).run.run h = (.ok payload, h')) : h'.IsTemporary payload := by
  have hsteady := steady_writePayload bitcode h
  have hplace := congrArg CurrentDirectory.place (writePayload_ok hrun).1
  rcases run_writePayload hrun with ⟨fault, hfault, -⟩ | ⟨p, between, hcreate, hcases⟩
  · cases hfault
  rcases hcases with ⟨hp, -⟩ | ⟨⟨fault, hfault⟩, -⟩
  · obtain ⟨n, hn⟩ := Host.isTemporary_of_makeDrawn Host.attempt_error hcreate
    rw [hrun] at hsteady
    refine ⟨n, ?_⟩
    rw [Except.ok.inj hp, hn, (Host.temporaryPath_congr hplace hsteady.environment n).2]
  · cases hfault

/-- Whether a file can be written does not depend on what is written. -/
theorem isOk_writeFile (p : Path) (content content' : Octets) (h : Host) :
    ((Host.writeFile p content).run.run h).1.isOk
      = ((Host.writeFile p content').run.run h).1.isOk := by
  unfold Host.writeFile
  rw [Host.run_attempt, Host.run_attempt]
  cases h.permit (.writeFile p) with
  | error => rfl
  | ok =>
      rcases h.lookup p with fault | ⟨place, _ | _ | f⟩
      · rfl
      · generalize Files.wantsDirectory p = wants
        cases wants <;> rfl
      · rfl
      · rfl

/-- Whether a payload can be written does not depend on what it holds. -/
theorem isOk_writePayload (bitcode bitcode' : Path) (h : Host) :
    ((writePayload bitcode).run.run h).1.isOk = ((writePayload bitcode').run.run h).1.isOk := by
  unfold writePayload
  rw [Host.run_bind, Host.run_bind, show (get : HostAct Host).run.run h = (.ok h, h) from rfl]
  simp only [Host.run_bind, Host.run_tryCatch, Host.run_about]
  generalize (Host.createTemporaryFile temporaryLead h.temporaryDirectory).run.run h = created
  obtain ⟨fault | p, between⟩ := created
  · rfl
  have hwrite := isOk_writeFile p (payloadOf bitcode) (payloadOf bitcode') between
  simp only
  generalize (Host.writeFile p (payloadOf bitcode)).run.run between = written at hwrite ⊢
  generalize (Host.writeFile p (payloadOf bitcode')).run.run between = written' at hwrite ⊢
  -- a fault is thrown again whatever becomes of the file
  obtain ⟨_ | _, after⟩ := written <;> obtain ⟨_ | _, after'⟩ := written'
  · simp only [Except.mapError]
    generalize (Host.removeFile p).run.run after = removed
    generalize (Host.removeFile p).run.run after' = removed'
    obtain ⟨_ | _, _⟩ := removed <;> obtain ⟨_ | _, _⟩ := removed' <;> rfl
  · cases hwrite
  · cases hwrite
  · rfl

end Attachment

/-! ## Corresponding artifacts and jobs -/

/-- Pairings of the same bitcode file, with objects that are the same up to names. -/
structure Pairing.SameUpTo (names : List (Path × Path)) (p₁ p₂ : Pairing) : Prop where
  bitcode : p₁.bitcode = p₂.bitcode
  object : Octets.SameUpTo names p₁.object.text p₂.object.text
  isObject : p₁.object.isObject = p₂.object.isObject

/-- **Bitcode builds that differ in flags**, which stand between the flags of the command line and the
one that asks for bitcode. -/
inductive Command.DiffersIn (i : Invocation) (flags₁ flags₂ : List Octets) : Command → Command → Prop
  | intro (program : Path) (later : List Octets) :
    DiffersIn i flags₁ flags₂
      { program, arguments := i.compileArguments ++ flags₁ ++ Flags.emitBitcode :: later }
      { program, arguments := i.compileArguments ++ flags₂ ++ Flags.emitBitcode :: later }

/-- **Corresponding jobs** of two replays of an invocation, which give different flags to bitcode
builds: object builds that are the same up to names, and bitcode builds that differ in the flags. -/
inductive Job.Corresponds (i : Invocation) (names : List (Path × Path))
    (flags₁ flags₂ : List Octets) : Job → Job → Prop
  | object (source : Path) {c₁ c₂ : Command} (same : c₁.SameUpTo names c₂) :
    Corresponds i names flags₁ flags₂ (.object source c₁) (.object source c₂)
  | bitcode (source : Path) {c₁ c₂ : Command} (differ : c₁.DiffersIn i flags₁ flags₂ c₂) :
    Corresponds i names flags₁ flags₂ (.bitcode source c₁) (.bitcode source c₂)

/-- **Corresponding commands** of runs that draw the same names: the same command, or bitcode builds
that differ in flags. -/
def Command.Corresponds (i : Invocation) (flags₁ flags₂ : List Octets) (c₁ c₂ : Command) : Prop :=
  c₁ = c₂ ∨ c₁.DiffersIn i flags₁ flags₂ c₂

theorem Job.Corresponds.command {i : Invocation} {flags₁ flags₂ : List Octets} {j₁ j₂ : Job}
    (h : Job.Corresponds i [] flags₁ flags₂ j₁ j₂) :
    j₁.command.Corresponds i flags₁ flags₂ j₂.command := by
  cases h with
  | object source same => exact .inl same.eq_of_nil
  | bitcode source differ => exact .inr differ

namespace Replay

section Artifacts

variable {i : Invocation} {naming₁ naming₂ : Naming}
  (hmakes : makesObjects naming₁ = makesObjects naming₂)
  (hartifacts : ∀ index source,
    (i.artifactOf naming₁ index source).bitcode = (i.artifactOf naming₂ index source).bitcode
    ∧ Octets.SameUpTo names (i.artifactOf naming₁ index source).object.text
      (i.artifactOf naming₂ index source).object.text)
include hmakes hartifacts

/-- The jobs for a source correspond if its artifacts do. -/
theorem forall₂_jobs_plan (compiler : Path) (flags₁ flags₂ : List Octets) (index : Nat)
    (source : Path) :
    List.Forall₂ (Job.Corresponds i names flags₁ flags₂)
      ((Recipe.mk compiler flags₁).plan i naming₁ index source).jobs
      ((Recipe.mk compiler flags₂).plan i naming₂ index source).jobs := by
  obtain ⟨hbitcode, hobject⟩ := hartifacts index source
  unfold Plan.jobs Recipe.plan Recipe.bitcodeCommand
  simp only [hmakes, hbitcode]
  refine List.rel_append ?_ ?_
  · cases makesObjects naming₂ with
    | false => exact .nil
    | true =>
        refine .cons (.object source ⟨rfl, ?_, rfl⟩) .nil
        refine List.rel_append (forall₂_sameUpTo _) ?_
        exact .cons (.same _) (.cons (.same _) (.cons (.same _) (.cons hobject .nil)))
  · cases source.isBitcode with
    | true => exact .nil
    | false => exact .cons (.bitcode source (.intro compiler _)) .nil

/-- **The builds correspond**, job by job, if the artifacts do. -/
theorem forall₂_jobs (compiler : Path) (flags₁ flags₂ : List Octets) :
    List.Forall₂ (Job.Corresponds i names flags₁ flags₂)
      (((Recipe.mk compiler flags₁).plans i naming₁).flatMap Plan.jobs)
      (((Recipe.mk compiler flags₂).plans i naming₂).flatMap Plan.jobs) := by
  unfold Recipe.plans
  rw [List.flatMap_def, List.flatMap_def, map_mapIdx, map_mapIdx]
  exact List.rel_flatten
    (forall₂_mapIdx (forall₂_jobs_plan hmakes hartifacts compiler flags₁ flags₂) i.sources)

end Artifacts

end Replay

namespace Compilation

open Session Replay Attachment

/-- The scratch directories of two runs, as a pair of names that stand for one another. -/
def scratchNames (scratch₁ scratch₂ : Option Path) : List (Path × Path) :=
  scratch₁.toList.zip scratch₂.toList

variable {i : Invocation} {s₁ s₂ : Session} {scratch₁ scratch₂ : Option Path}

/-- A scratch directory is made where something is to be linked, under a temporary path. -/
theorem isTemporary_of_makeScratch {s : Session} {dir : Path}
    (h : ((makeScratch i).run s).1 = .ok (some dir)) :
    i.compilesOnly = false ∧ s.host.IsTemporary dir := by
  have hlinks : i.compilesOnly = false := by
    have hsome := isSome_of_makeScratch i h
    rwa [Option.isSome_some, eq_comm, Bool.not_eq_true'] at hsome
  refine ⟨hlinks, ?_⟩
  rw [run_makeScratch_of_links hlinks] at h
  generalize hmake : (Host.createTemporaryDirectory temporaryLead s.host.temporaryDirectory).run.run
    s.host = made at h
  obtain ⟨fault | made, after⟩ := made
  · cases h
  · cases h
    exact Host.isTemporary_of_makeDrawn Host.attempt_error hmake

/-- Two runs of one invocation both have a scratch directory or both have none. -/
theorem scratch_cases (h₁ : ((makeScratch i).run s₁).1 = .ok scratch₁)
    (h₂ : ((makeScratch i).run s₂).1 = .ok scratch₂) :
    (scratch₁ = none ∧ scratch₂ = none)
    ∨ (i.compilesOnly = false ∧ ∃ dir₁ dir₂, scratch₁ = some dir₁ ∧ scratch₂ = some dir₂
      ∧ s₁.host.IsTemporary dir₁ ∧ s₂.host.IsTemporary dir₂) := by
  have hsome : scratch₁.isSome = scratch₂.isSome := by
    rw [isSome_of_makeScratch i h₁, isSome_of_makeScratch i h₂]
  cases scratch₁ with
  | none => exact .inl ⟨rfl, by cases scratch₂ <;> simp_all⟩
  | some dir₁ =>
      obtain ⟨dir₂, rfl⟩ := Option.isSome_iff_exists.1 hsome.symm
      obtain ⟨hlinks, htemporary₁⟩ := isTemporary_of_makeScratch h₁
      exact .inr ⟨hlinks, dir₁, dir₂, rfl, rfl, htemporary₁, (isTemporary_of_makeScratch h₂).2⟩

section Scratch

variable (h₁ : ((makeScratch i).run s₁).1 = .ok scratch₁)
  (h₂ : ((makeScratch i).run s₂).1 = .ok scratch₂)
include h₁ h₂

/-- The artifacts of a source differ in the scratch directory alone. -/
theorem artifactOf_sameUpTo (index : Nat) (source : Path) :
    let a₁ := i.artifactOf (namingOf scratch₁) index source
    let a₂ := i.artifactOf (namingOf scratch₂) index source
    a₁.bitcode = a₂.bitcode
    ∧ Octets.SameUpTo (scratchNames scratch₁ scratch₂) a₁.object.text a₂.object.text
    ∧ a₁.object.isObject = a₂.object.isObject := by
  rcases scratch_cases h₁ h₂ with
    ⟨rfl, rfl⟩ | ⟨hlinks, dir₁, dir₂, rfl, rfl, htemporary₁, htemporary₂⟩
  · exact ⟨rfl, .same _, rfl⟩
  rw [i.artifactOf_of_links hlinks, i.artifactOf_of_links hlinks]
  refine ⟨rfl, ?_, ?_⟩
  · show Octets.SameUpTo _ (dir₁.join _).text (dir₂.join _).text
    rw [htemporary₁.text_join (Artifact.isAbsolute_dotted _),
      htemporary₂.text_join (Artifact.isAbsolute_dotted _)]
    exact .renamed List.mem_cons_self [] _
  · show (Artifact.ofSource (.hidden dir₁) index source).object.isObject
      = (Artifact.ofSource (.hidden dir₂) index source).object.isObject
    rw [Artifact.isObject_hidden_object, Artifact.isObject_hidden_object]

/-- The pairings of the sources are of the same bitcode files. -/
theorem forall₂_pairings :
    List.Forall₂ (Pairing.SameUpTo (scratchNames scratch₁ scratch₂))
      (i.pairings (namingOf scratch₁)) (i.pairings (namingOf scratch₂)) := by
  refine forall₂_mapIdx (fun index source => ?_) i.sources
  obtain ⟨hbitcode, hobject, hisObject⟩ := artifactOf_sameUpTo h₁ h₂ index source
  refine ⟨?_, hobject, hisObject⟩
  show i.bitcodeOf _ index source = i.bitcodeOf _ index source
  unfold Invocation.bitcodeOf
  rw [hbitcode]

/-- The links are the same up to the scratch directory. -/
theorem linkCommand_sameUpTo (compiler : Path) :
    (linkCommand compiler i (i.objects (namingOf scratch₁))).SameUpTo
      (scratchNames scratch₁ scratch₂)
      (linkCommand compiler i (i.objects (namingOf scratch₂))) := by
  refine ⟨rfl, ?_, rfl⟩
  refine List.rel_append (List.rel_append ?_ (forall₂_sameUpTo _)) (forall₂_sameUpTo _)
  unfold Invocation.objects
  rw [map_mapIdx, map_mapIdx]
  exact forall₂_mapIdx (fun index source => (artifactOf_sameUpTo h₁ h₂ index source).2.1) i.sources

end Scratch

end Compilation

/-! ## Corresponding embed commands -/

/-- **Hosts that serve attaching alike**: from the same current directory, a payload can be written on
both or on neither. -/
structure Host.ServeAlike (h₁ h₂ : Host) : Prop where
  place : h₁.currentPlace = h₂.currentPlace
  payload : ∀ bitcode, ((Attachment.writePayload bitcode).run.run h₁).1.isOk
    = ((Attachment.writePayload bitcode).run.run h₂).1.isOk

/-- **Embed commands that correspond by the payload files** that they name. These have names that the
program drew, and what is written in them is the same. -/
structure Embedder.CorrespondsBy (embedder : Embedder) (names : List (Path × Path))
    (e₁ e₂ : Issue) (payload₁ payload₂ : Path) : Prop where
  temporary : e₁.before.IsTemporary payload₁ ∧ e₂.before.IsTemporary payload₂
  named : embedder.payloadOf? e₁.command = some payload₁
    ∧ embedder.payloadOf? e₂.command = some payload₂
  text : ∃ text, e₁.before.contentAt? payload₁ = some text
    ∧ e₂.before.contentAt? payload₂ = some text
  command : e₁.command.SameUpTo ((payload₁, payload₂) :: names) e₂.command

/-- **Corresponding embed commands** of two runs. -/
def Embedder.Corresponds (embedder : Embedder) (names : List (Path × Path)) (e₁ e₂ : Issue) : Prop :=
  ∃ payload₁ payload₂, embedder.CorrespondsBy names e₁ e₂ payload₁ payload₂

/-- Embed commands are the same up to the payload file and the names in the object. -/
theorem Embedder.command_sameUpTo (embedder : Embedder) {object₁ object₂ : Path}
    (hobject : Octets.SameUpTo names object₁.text object₂.text) (payload₁ payload₂ : Path) :
    (embedder.command object₁ payload₁).SameUpTo ((payload₁, payload₂) :: names)
      (embedder.command object₂ payload₂) := by
  have hpayload (before : Octets) := Octets.SameUpTo.of_mem
    (List.mem_cons_self : (payload₁, payload₂) ∈ (payload₁, payload₂) :: names) before
  have hobject := hobject.mono (List.subset_cons_self (payload₁, payload₂) names)
  cases embedder with
  | elf objcopy =>
      exact ⟨rfl, .cons (.same _) (.cons (hpayload _) (.cons hobject .nil)), rfl⟩
  | machO ld =>
      refine ⟨rfl, .cons (.same _) (.cons (.same _) (.cons hobject (.cons (.same _) ?_))), rfl⟩
      exact .cons (.same _) (.cons (.same _) (.cons (hpayload []) (.cons (.same _)
        (.cons hobject .nil))))

namespace Attachment

open Session

variable {embedder : Embedder} {archive? : Option Archive}

/-- Attaching adds the entry of its attempt to the journal, and nothing where there is none. -/
theorem adds_attach_cases {runner : Runner} {p : Pairing} {s : Session} {new : List Issue}
    (h : Adds (attach runner embedder archive? p) s new) :
    ((p.payload? s.host).isSome = false ∧ new = [])
    ∨ ∃ t, IsAttempt runner embedder archive? p s t ∧ (p.payload? s.host).isSome = true
      ∧ new = [t.issue embedder p] := by
  have hcourse := course_attach runner embedder archive? p s
  have hpayload := hcourse.isSome_payload?
  unfold Adds at h
  generalize ((attach runner embedder archive? p).run s).1 = result at hcourse hpayload
  generalize ((attach runner embedder archive? p).run s).2 = after at hcourse h
  have hquiet : after.issued = s.issued → new = [] := fun hissued =>
    List.self_eq_append_right.1 (hissued.symm.trans h)
  cases hcourse with
  | notAnObject _ _ issued => exact .inl ⟨by simpa using hpayload, hquiet issued⟩
  | noPath _ _ _ issued => exact .inl ⟨by simpa using hpayload, hquiet issued⟩
  | noPayload _ _ _ issued => exact .inl ⟨by simpa using hpayload, hquiet issued⟩
  | attempted t _ attempt _ issued =>
      refine .inr ⟨t, attempt, hpayload.2 ⟨_, _, rfl⟩, ?_⟩
      exact List.append_cancel_left (h.symm.trans issued)

theorem isSome_toOption {ε α : Type} (x : Except ε α) : x.toOption.isSome = x.isOk := by
  cases x <;> rfl

/-- Where hosts serve alike, corresponding pairings have a payload in both sessions or in neither. -/
theorem isSome_payload?_eq {p₁ p₂ : Pairing} {h₁ h₂ : Host} (hp : p₁.SameUpTo names p₂)
    (hserve : h₁.ServeAlike h₂) : (p₁.payload? h₁).isSome = (p₂.payload? h₂).isSome := by
  unfold Pairing.payload?
  rw [hp.isObject, hp.bitcode, hserve.place]
  split
  · cases p₂.bitcode.absoluteClean h₂.currentPlace with
    | error fault => rfl
    | ok bitcode =>
        exact (isSome_toOption _).trans ((hserve.payload bitcode).trans (isSome_toOption _).symm)
  · rfl

/-- **A pairing** that is attached in two sessions whose hosts serve alike. -/
theorem forall₂_attach {runner₁ runner₂ : Runner} {p₁ p₂ : Pairing} {s₁ s₂ : Session}
    {new₁ new₂ : List Issue} (hp : p₁.SameUpTo names p₂) (hserve : s₁.host.ServeAlike s₂.host)
    (h₁ : Adds (attach runner₁ embedder archive? p₁) s₁ new₁)
    (h₂ : Adds (attach runner₂ embedder archive? p₂) s₂ new₂) :
    List.Forall₂ (embedder.Corresponds names) new₁ new₂ := by
  have hpayload := isSome_payload?_eq hp hserve
  rcases adds_attach_cases h₁ with ⟨hnone₁, rfl⟩ | ⟨t₁, attempt₁, hsome₁, rfl⟩ <;>
    rcases adds_attach_cases h₂ with ⟨hnone₂, rfl⟩ | ⟨t₂, attempt₂, hsome₂, rfl⟩
  · exact .nil
  · rw [hnone₁, hsome₂] at hpayload
    cases hpayload
  · rw [hsome₁, hnone₂] at hpayload
    cases hpayload
  have hbitcode : t₁.bitcode = t₂.bitcode := by
    have hclean := attempt₁.clean
    rw [hp.bitcode, hserve.place, attempt₂.clean] at hclean
    exact (Except.ok.inj hclean).symm
  refine .cons ⟨t₁.payload, t₂.payload, ?_⟩ .nil
  refine ⟨⟨isTemporary_of_writePayload attempt₁.write, isTemporary_of_writePayload attempt₂.write⟩,
    ⟨Embedder.payloadOf?_command _ _ _, Embedder.payloadOf?_command _ _ _⟩,
    ⟨_, (writePayload_ok attempt₁.write).2, ?_⟩, embedder.command_sameUpTo hp.object _ _⟩
  rw [hbitcode]
  exact (writePayload_ok attempt₂.write).2

/-- The session in which a row of pairings, attached from a session on, has come to a number. -/
def reached (runner : Runner) (embedder : Embedder) (archive? : Option Archive)
    (pairings : List Pairing) (s : Session) (number : Nat) : Session :=
  (((pairings.take number).mapM (attach runner embedder archive?)).run s).2

/-- **A row of pairings** that is attached in two sessions: where the hosts serve alike whenever a
pairing's turn comes, the embed commands correspond. -/
theorem forall₂_mapM_attach {runner₁ runner₂ : Runner} {row₁ row₂ : List Pairing}
    (hrow : List.Forall₂ (Pairing.SameUpTo names) row₁ row₂) {s₁ s₂ : Session}
    {new₁ new₂ : List Issue}
    (hserve : ∀ number < row₁.length, Host.ServeAlike
      (reached runner₁ embedder archive? row₁ s₁ number).host
      (reached runner₂ embedder archive? row₂ s₂ number).host)
    (h₁ : Adds (row₁.mapM (attach runner₁ embedder archive?)) s₁ new₁)
    (h₂ : Adds (row₂.mapM (attach runner₂ embedder archive?)) s₂ new₂) :
    List.Forall₂ (embedder.Corresponds names) new₁ new₂ := by
  induction hrow generalizing s₁ s₂ new₁ new₂ with
  | nil =>
      cases Adds.unique h₁ (quiet_pure _ s₁)
      cases Adds.unique h₂ (quiet_pure _ s₂)
      exact .nil
  | @cons p₁ p₂ rest₁ rest₂ hp hrest ih =>
      obtain ⟨first₁, hfirst₁, -⟩ := exists_adds_attach runner₁ embedder archive? p₁ s₁
      obtain ⟨first₂, hfirst₂, -⟩ := exists_adds_attach runner₂ embedder archive? p₂ s₂
      obtain ⟨later₁, hlater₁, -⟩ := exists_adds_mapM_attach runner₁ embedder archive? rest₁
        ((attach runner₁ embedder archive? p₁).run s₁).2
      obtain ⟨later₂, hlater₂, -⟩ := exists_adds_mapM_attach runner₂ embedder archive? rest₂
        ((attach runner₂ embedder archive? p₂).run s₂).2
      cases Adds.unique h₁ (adds_mapM_cons hfirst₁ hlater₁)
      cases Adds.unique h₂ (adds_mapM_cons hfirst₂ hlater₂)
      refine List.rel_append (forall₂_attach hp (hserve 0 (Nat.succ_pos _)) hfirst₁ hfirst₂)
        (ih (fun number hnumber => ?_) hlater₁ hlater₂)
      have hserve := hserve (number + 1) (Nat.succ_lt_succ hnumber)
      unfold reached at hserve
      rwa [List.take_succ_cons, List.take_succ_cons, run_mapM_cons, run_mapM_cons] at hserve

end Attachment

/-! ## Two runs -/

namespace Compilation

open Session Replay Attachment

/-- The entries that a run adds to the journal after those of its builds. -/
def laterEntries (c : Compilation) (compiler : Path) (i : Invocation) (s : Session) : List Issue :=
  (c.journal compiler i s).drop (c.replayLength i + 1)

/-- The session in which a run comes to attach the pair of the source with a number. -/
def attaching (c : Compilation) (compiler : Path) (i : Invocation) (scratch : Option Path)
    (s : Session) (number : Nat) : Session :=
  reached c.runner (.ofSettings c.settings) (c.settings.archive.map Archive.mk)
    (i.pairings (namingOf scratch))
    ((c.build compiler i (namingOf scratch)).run ((makeScratch i).run s).2).2 number

/-- The entries of the replay are those of its jobs. -/
theorem map_command_eq_jobs {c : Compilation} (compiler : Path) {i : Invocation} {s : Session}
    {scratch : Option Path} (h : i.bypass? c.settings.configuring = none)
    (hscratch : ((makeScratch i).run s).1 = .ok scratch) :
    (c.replayEntries compiler i s).map Issue.command
      = (c.jobs compiler i (namingOf scratch)).map Job.command := by
  rw [map_command_replayEntries h hscratch, jobs,
    map_command_jobs _ i _ (makesObjects_of_makeScratch i hscratch)]
  rfl

/-- **A run that is not bypassed, by its parts**: the builds, and if all of them succeeded, the embed
commands of the sources and the link. -/
theorem exists_parts_of_scratch {c : Compilation} (compiler : Path) {i : Invocation} {s : Session}
    {scratch : Option Path} (h : i.bypass? c.settings.configuring = none)
    (hscratch : ((makeScratch i).run s).1 = .ok scratch) :
    ∃ (b : Builds) (embeds links : List Issue), HasBuilds c compiler i s b
      ∧ c.laterEntries compiler i s = embeds ++ links
      ∧ (b.succeeded = false → embeds = [] ∧ links = [])
      ∧ (b.succeeded = true →
        Adds ((i.pairings (namingOf scratch)).mapM
          (attach c.runner (.ofSettings c.settings) (c.settings.archive.map Archive.mk)))
          ((c.build compiler i (namingOf scratch)).run ((makeScratch i).run s).2).2 embeds
        ∧ links.map Issue.command = if i.compilesOnly then []
          else [linkCommand compiler i (i.objects (namingOf scratch))]) := by
  obtain ⟨b, embeds, links, -, hadds, hbuilds, houtcome, hfailed, hfinished⟩ :=
    c.exists_parts_buildTwice compiler i (makesObjects_of_makeScratch i hscratch)
      ((makeScratch i).run s).2
  obtain ⟨hb, hjournal, hlength⟩ := hasBuilds_of_buildTwice h hscratch hbuilds hadds houtcome
  refine ⟨b, embeds, links, hb, ?_, hfailed, fun hsucceeded => ?_⟩
  · rw [laterEntries, hjournal, List.drop_left' hlength]
  · obtain ⟨hpairings, hembeds, hlinks⟩ := hfinished hsucceeded
    rw [attachAll, hpairings] at hembeds
    exact ⟨hembeds, hlinks⟩

/-- **Two runs that build**: their parts correspond, up to the names of their scratch directories and
payload files. -/
structure Correspond (c₁ c₂ : Compilation) (compiler : Path) (i : Invocation) (s₁ s₂ : Session)
    (scratch₁ scratch₂ : Option Path) : Prop where
  made : ((makeScratch i).run s₁).1 = .ok scratch₁ ∧ ((makeScratch i).run s₂).1 = .ok scratch₂
  temporary : ∀ name ∈ scratchNames scratch₁ scratch₂,
    s₁.host.IsTemporary name.1 ∧ s₂.host.IsTemporary name.2
  replay : (c₁.replayEntries compiler i s₁).map Issue.command
      = (c₁.jobs compiler i (namingOf scratch₁)).map Job.command
    ∧ (c₂.replayEntries compiler i s₂).map Issue.command
      = (c₂.jobs compiler i (namingOf scratch₂)).map Job.command
  jobs : List.Forall₂ (Job.Corresponds i (scratchNames scratch₁ scratch₂)
      c₁.settings.bitcodeFlags c₂.settings.bitcodeFlags)
    (c₁.jobs compiler i (namingOf scratch₁)) (c₂.jobs compiler i (namingOf scratch₂))
  /-- Where a build failed, nothing follows. -/
  failed : ((c₁.compile compiler i).run s₁).1 ≠ .ok .success →
    c₁.laterEntries compiler i s₁ = [] ∧ c₂.laterEntries compiler i s₂ = []
  /-- Else there are the embed commands, and then the link. -/
  succeeded : ((c₁.compile compiler i).run s₁).1 = .ok .success →
    ∃ embeds₁ embeds₂ links₁ links₂ : List Issue,
      c₁.laterEntries compiler i s₁ = embeds₁ ++ links₁
      ∧ c₂.laterEntries compiler i s₂ = embeds₂ ++ links₂
      ∧ links₁.map Issue.command = (if i.compilesOnly then []
        else [linkCommand compiler i (i.objects (namingOf scratch₁))])
      ∧ List.Forall₂ (Command.SameUpTo (scratchNames scratch₁ scratch₂))
        (links₁.map Issue.command) (links₂.map Issue.command)
      ∧ ((∀ number < i.sources.length, Host.ServeAlike
          (c₁.attaching compiler i scratch₁ s₁ number).host
          (c₂.attaching compiler i scratch₂ s₂ number).host) →
        List.Forall₂ ((Embedder.ofSettings c₁.settings).Corresponds
          (scratchNames scratch₁ scratch₂)) embeds₁ embeds₂)

/-- A bypassed run issues the native command and no other. -/
theorem commands_journal_of_bypass {c : Compilation} (compiler : Path) {i : Invocation}
    (s : Session) {why : Bypass} (h : i.bypass? c.settings.configuring = some why) :
    (c.journal compiler i s).map Issue.command = [(nativeJob compiler i).command] := by
  obtain ⟨entry, hadds, hcommand, -⟩ := c.exists_adds_passThrough compiler i why s
  have hadds : Adds (c.compile compiler i) s [entry] := by
    rw [compile_of_bypass c compiler i h]
    exact hadds
  rw [journal_of_adds hadds, List.map_singleton, hcommand]

/-- Runs that build, with the same outcome, correspond. -/
theorem correspond_of_scratch {c₁ c₂ : Compilation} {flags : List Octets}
    (hsettings : c₂.settings = { c₁.settings with bitcodeFlags := flags }) {compiler : Path}
    {i : Invocation} {s₁ s₂ : Session} {scratch₁ scratch₂ : Option Path}
    (hbypass : i.bypass? c₁.settings.configuring = none)
    (h₁ : ((makeScratch i).run s₁).1 = .ok scratch₁) (h₂ : ((makeScratch i).run s₂).1 = .ok scratch₂)
    (hsame : ((c₁.compile compiler i).run s₁).1.toOption
      = ((c₂.compile compiler i).run s₂).1.toOption) :
    Correspond c₁ c₂ compiler i s₁ s₂ scratch₁ scratch₂ := by
  have hbypass₂ : i.bypass? c₂.settings.configuring = none := by rw [hsettings]; exact hbypass
  obtain ⟨b₁, embeds₁, links₁, hb₁, hlater₁, hfailed₁, hfinished₁⟩ :=
    exists_parts_of_scratch compiler hbypass h₁
  obtain ⟨b₂, embeds₂, links₂, hb₂, hlater₂, hfailed₂, hfinished₂⟩ :=
    exists_parts_of_scratch compiler hbypass₂ h₂
  have hsucceeded : b₁.succeeded = b₂.succeeded := by
    rw [hb₁.outcome, hb₂.outcome] at hsame
    have houtcome := Option.some.inj hsame
    cases hvalue₁ : b₁.succeeded <;> cases hvalue₂ : b₂.succeeded <;>
      simp [hvalue₁, hvalue₂] at houtcome ⊢
  refine ⟨⟨h₁, h₂⟩, ?_, ⟨map_command_eq_jobs compiler hbypass h₁,
    map_command_eq_jobs compiler hbypass₂ h₂⟩, ?_, ?_, ?_⟩
  · rcases scratch_cases h₁ h₂ with ⟨rfl, rfl⟩ | ⟨-, dir₁, dir₂, rfl, rfl, htemporary⟩
    · exact fun _ hname => absurd hname List.not_mem_nil
    · intro name hname
      rw [List.mem_singleton.1 hname]
      exact htemporary
  · refine forall₂_jobs ?_ (fun index source => ?_) compiler _ _
    · rw [makesObjects_of_makeScratch i h₁, makesObjects_of_makeScratch i h₂]
    · exact (artifactOf_sameUpTo h₁ h₂ index source).imp_right And.left
  · intro hfailure
    rw [Ne, hb₁.eq_success_iff, Bool.not_eq_true] at hfailure
    obtain ⟨rfl, rfl⟩ := hfailed₁ hfailure
    obtain ⟨rfl, rfl⟩ := hfailed₂ (hsucceeded ▸ hfailure)
    exact ⟨hlater₁, hlater₂⟩
  · intro hsuccess
    rw [hb₁.eq_success_iff] at hsuccess
    obtain ⟨hembeds₁, hlinks₁⟩ := hfinished₁ hsuccess
    obtain ⟨hembeds₂, hlinks₂⟩ := hfinished₂ (hsucceeded ▸ hsuccess)
    refine ⟨embeds₁, embeds₂, links₁, links₂, hlater₁, hlater₂, hlinks₁, ?_, fun hserve => ?_⟩
    · rw [hlinks₁, hlinks₂]
      cases i.compilesOnly with
      | true => exact .nil
      | false => exact .cons (linkCommand_sameUpTo h₁ h₂ compiler) .nil
    · unfold attaching at hserve
      rw [hsettings] at hembeds₂ hserve
      refine forall₂_mapM_attach (forall₂_pairings h₁ h₂) (fun number hnumber => ?_) hembeds₁
        hembeds₂
      exact hserve number (by rwa [Invocation.pairings, List.length_mapIdx] at hnumber)

/-- **The builds of two runs are answered alike**: the verdicts on the native compile and on the commands
of the replay, in order, are both of success or both of failure. -/
structure AnsweredAlike (c₁ c₂ : Compilation) (compiler : Path) (i : Invocation) (s₁ s₂ : Session) :
    Prop where
  native : (c₁.nativeIssue? compiler i s₁).map (fun entry => entry.verdict.isOk)
    = (c₂.nativeIssue? compiler i s₂).map fun entry => entry.verdict.isOk
  replay : (c₁.replayEntries compiler i s₁).map (fun entry => entry.verdict.isOk)
    = (c₂.replayEntries compiler i s₂).map fun entry => entry.verdict.isOk

section Answered

variable {c₁ c₂ : Compilation} {flags : List Octets}
  (hsettings : c₂.settings = { c₁.settings with bitcodeFlags := flags }) {compiler : Path}
  {i : Invocation} {s₁ s₂ : Session} (h : AnsweredAlike c₁ c₂ compiler i s₁ s₂)
include h

theorem AnsweredAlike.native_commands :
    (c₁.nativeIssue? compiler i s₁).map Issue.command
      = (c₂.nativeIssue? compiler i s₂).map Issue.command := by
  have hnative := h.native
  cases hentry₁ : c₁.nativeIssue? compiler i s₁ with
  | none =>
      rw [hentry₁, Option.map_none, eq_comm, Option.map_eq_none_iff] at hnative
      rw [hnative]
  | some entry₁ =>
      rw [hentry₁, Option.map_some, eq_comm, Option.map_eq_some_iff] at hnative
      obtain ⟨entry₂, hentry₂, -⟩ := hnative
      rw [hentry₂, Option.map_some, Option.map_some, command_nativeIssue? hentry₁,
        command_nativeIssue? hentry₂]

include hsettings

/-- Runs that are not bypassed both fail to make a scratch directory, or they correspond. -/
theorem AnsweredAlike.correspond (hbypass : i.bypass? c₁.settings.configuring = none) :
    (c₁.journal compiler i s₁ = [] ∧ c₂.journal compiler i s₂ = []
      ∧ ((makeScratch i).run s₁).1.isOk = false ∧ ((makeScratch i).run s₂).1.isOk = false)
    ∨ ∃ scratch₁ scratch₂, Correspond c₁ c₂ compiler i s₁ s₂ scratch₁ scratch₂ := by
  have hsame := (outcome_of_verdicts h.native h.replay).1
  have hbypass₂ : i.bypass? c₂.settings.configuring = none := by rw [hsettings]; exact hbypass
  -- the native compile is answered in both runs or in neither
  have hmade : ((makeScratch i).run s₁).1.isOk = ((makeScratch i).run s₂).1.isOk := by
    have hissued := congrArg Option.isSome h.native
    rwa [Option.isSome_map, Option.isSome_map, isSome_nativeIssue? compiler s₁ hbypass,
      isSome_nativeIssue? compiler s₂ hbypass₂] at hissued
  cases h₁ : ((makeScratch i).run s₁).1 with
  | ok scratch₁ =>
      cases h₂ : ((makeScratch i).run s₂).1 with
      | ok scratch₂ =>
          exact .inr ⟨scratch₁, scratch₂, correspond_of_scratch hsettings hbypass h₁ h₂ hsame⟩
      | error e₂ =>
          rw [h₁, h₂] at hmade
          cases hmade
  | error e₁ =>
      cases h₂ : ((makeScratch i).run s₂).1 with
      | ok scratch₂ =>
          rw [h₁, h₂] at hmade
          cases hmade
      | error e₂ =>
          exact .inl ⟨journal_of_error compiler s₁ hbypass h₁,
            journal_of_error compiler s₂ hbypass₂ h₂, rfl, rfl⟩

end Answered

/-- Compilations whose settings differ in the bitcode flags are twins, if their runners agree on
commands that correspond. -/
theorem areTwins_of_flags {c₁ c₂ : Compilation} {flags : List Octets}
    (hsettings : c₂.settings = { c₁.settings with bitcodeFlags := flags }) (compiler : Path)
    {i : Invocation}
    (hagree : c₁.runner.Agree (Command.Corresponds i c₁.settings.bitcodeFlags flags) c₂.runner)
    (hturn : c₂.turn = c₁.turn) :
    AreTwins (Command.Corresponds i c₁.settings.bitcodeFlags flags) compiler i c₁ c₂ := by
  refine ⟨fun c => .inl rfl, hagree, hturn, ?_, ?_, ?_, fun naming => ?_⟩
  · rw [hsettings]
  · rw [hsettings]
  · rw [hsettings]
    rfl
  · unfold jobs
    rw [hsettings]
    exact (forall₂_jobs rfl (fun _ _ => ⟨rfl, .same _⟩) compiler _ _).imp
      fun _ _ hjob => hjob.command

/-- **The bitcode flags reach only the bitcode builds.** One invocation is compiled with settings that
differ in nothing but the flags for bitcode builds.

If the builds are answered alike, whatever else differs between the runs, they have the same outcome
and issue the same native command. A bypassed invocation issues nothing else. In any other the scratch
directory can be made in both runs or in neither, and if it can, they correspond: up to temporary names
they issue the same object builds, embed commands with the same payloads, and link, and bitcode builds
that differ in the flags.

If even the runs match in the beginning, and the runners agree on corresponding commands, then they
match to the end. Every command is issued on the same host as the one that it corresponds to, and names
the same files. -/
theorem bitcode_flags_confined {c₁ c₂ : Compilation} {flags : List Octets}
    (hsettings : c₂.settings = { c₁.settings with bitcodeFlags := flags }) (compiler : Path)
    (i : Invocation) (s₁ s₂ : Session) :
    (AnsweredAlike c₁ c₂ compiler i s₁ s₂ →
      ((c₁.compile compiler i).run s₁).1.toOption = ((c₂.compile compiler i).run s₂).1.toOption
      ∧ (c₁.nativeIssue? compiler i s₁).map Issue.command
        = (c₂.nativeIssue? compiler i s₂).map Issue.command
      ∧ (∀ why, i.bypass? c₁.settings.configuring = some why →
        (c₁.journal compiler i s₁).map Issue.command = [(nativeJob compiler i).command]
        ∧ (c₂.journal compiler i s₂).map Issue.command = [(nativeJob compiler i).command])
      ∧ (i.bypass? c₁.settings.configuring = none →
        (c₁.journal compiler i s₁ = [] ∧ c₂.journal compiler i s₂ = []
          ∧ ((makeScratch i).run s₁).1.isOk = false ∧ ((makeScratch i).run s₂).1.isOk = false)
        ∨ ∃ scratch₁ scratch₂, Correspond c₁ c₂ compiler i s₁ s₂ scratch₁ scratch₂))
    ∧ (c₁.runner.Agree (Command.Corresponds i c₁.settings.bitcodeFlags flags) c₂.runner →
      c₂.turn = c₁.turn →
      s₁.Match (Command.Corresponds i c₁.settings.bitcodeFlags flags) s₂ →
      ((c₁.compile compiler i).run s₁).1 = ((c₂.compile compiler i).run s₂).1
      ∧ ((c₁.compile compiler i).run s₁).2.Match
        (Command.Corresponds i c₁.settings.bitcodeFlags flags) ((c₂.compile compiler i).run s₂).2) := by
  constructor
  · intro h
    refine ⟨(outcome_of_verdicts h.native h.replay).1, h.native_commands, fun why hwhy => ⟨?_, ?_⟩,
      h.correspond hsettings⟩
    · exact commands_journal_of_bypass compiler s₁ hwhy
    · exact commands_journal_of_bypass compiler s₂ (by rw [hsettings]; exact hwhy)
  · intro hagree hturn
    exact (areTwins_of_flags hsettings compiler hagree hturn).compile s₁ s₂

/-- A runner under which the commands of one program are ended by a signal, and all others succeed. -/
def exceptFor (program : Path) : Runner where
  run _ command h :=
    if command.program = program then (.error (.failed command.rendered none), h) else (.ok (), h)

theorem agree_exceptFor (program : Path) (i : Invocation) (flags₁ flags₂ : List Octets) :
    (exceptFor program).Agree (Command.Corresponds i flags₁ flags₂) (exceptFor program) := by
  intro past₁ past₂ c₁ c₂ h _ hc
  have hprogram : c₁.program = c₂.program := by
    rcases hc with rfl | ⟨program, later⟩ <;> rfl
  unfold exceptFor
  simp only [hprogram]
  split <;> exact ⟨rfl, rfl⟩

/-- A compilation with flags for bitcode builds, in which every embed command fails. -/
def flagged (flags : List Octets) : Compilation where
  settings := { bitcodeFlags := flags }
  runner := exceptFor (.ofString "objcopy")

/-- A session on a bare host; the next temporary name has a number. -/
def drawing (serial : Nat) : Session :=
  { bareSession (fun _ => none) with
    host := { (bareSession fun _ => none).host with serial } }

/-- A link of two sources. -/
def twoOperands : Invocation := .ofArguments [Octets.ofString "a.c", Octets.ofString "b.c"]

theorem answeredAlike_flagged :
    AnsweredAlike (flagged []) (flagged [Octets.ofString "-g"]) (.ofString "/cc") twoOperands
      (drawing 0) (drawing 41) :=
  ⟨by decide +kernel, by decide +kernel⟩

theorem scratch_drawing :
    ((makeScratch twoOperands).run (drawing 0)).1 = .ok (some (.ofString "/tmp/dualcc000000"))
    ∧ ((makeScratch twoOperands).run (drawing 41)).1
      = .ok (some (.ofString "/tmp/dualcc000041")) := by
  decide +kernel

theorem serveAlike_flagged {number : Nat} (hnumber : number < twoOperands.sources.length) :
    Host.ServeAlike
      ((flagged []).attaching (.ofString "/cc") twoOperands (some (.ofString "/tmp/dualcc000000"))
        (drawing 0) number).host
      ((flagged [Octets.ofString "-g"]).attaching (.ofString "/cc") twoOperands
        (some (.ofString "/tmp/dualcc000041")) (drawing 41) number).host := by
  refine ⟨?_, fun bitcode => ?_⟩
  · revert number
    decide +kernel
  · rw [isOk_writePayload bitcode ⟨[]⟩, isOk_writePayload bitcode ⟨[]⟩]
    revert number
    decide +kernel

/-- With flags and without, and with other temporary names, the embed commands correspond, although
they all fail. From the same names on, the runs match to the end. -/
theorem bitcode_flags_confined_other_names :
    let plain := flagged []
    let debug := flagged [Octets.ofString "-g"]
    (∃ scratch₁ scratch₂ embeds₁ embeds₂ links₁ links₂,
      Correspond plain debug (.ofString "/cc") twoOperands (drawing 0) (drawing 41) scratch₁ scratch₂
      ∧ plain.laterEntries (.ofString "/cc") twoOperands (drawing 0) = embeds₁ ++ links₁
      ∧ debug.laterEntries (.ofString "/cc") twoOperands (drawing 41) = embeds₂ ++ links₂
      ∧ (embeds₁ ++ links₁).length = 3
      ∧ List.Forall₂ ((Embedder.elf (.ofString "objcopy")).Corresponds
        (scratchNames scratch₁ scratch₂)) embeds₁ embeds₂)
    ∧ ((plain.compile (.ofString "/cc") twoOperands).run (drawing 0)).2.Match
      (Command.Corresponds twoOperands [] [Octets.ofString "-g"])
      ((debug.compile (.ofString "/cc") twoOperands).run (drawing 0)).2 := by
  intro plain debug
  have hsettings : debug.settings
      = { plain.settings with bitcodeFlags := [Octets.ofString "-g"] } := rfl
  constructor
  · obtain ⟨-, -, -, hruns⟩ := (bitcode_flags_confined hsettings (.ofString "/cc") twoOperands
      (drawing 0) (drawing 41)).1 answeredAlike_flagged
    rcases hruns (by decide +kernel) with ⟨-, -, herror, -⟩ | ⟨scratch₁, scratch₂, hcorrespond⟩
    · exact absurd herror (by decide +kernel)
    obtain ⟨embeds₁, embeds₂, links₁, links₂, hlater₁, hlater₂, -, -, hembeds⟩ :=
      hcorrespond.succeeded (by decide +kernel)
    have hlength : (embeds₁ ++ links₁).length = 3 := by
      rw [← hlater₁]
      decide +kernel
    refine ⟨scratch₁, scratch₂, embeds₁, embeds₂, links₁, links₂, hcorrespond, hlater₁, hlater₂,
      hlength, hembeds fun number hnumber => ?_⟩
    cases scratch_drawing.1.symm.trans hcorrespond.made.1
    cases scratch_drawing.2.symm.trans hcorrespond.made.2
    exact serveAlike_flagged hnumber
  · exact ((bitcode_flags_confined hsettings (.ofString "/cc") twoOperands (drawing 0)
      (drawing 0)).2 (agree_exceptFor _ _ _ _) rfl ⟨rfl, .nil⟩).2

end Compilation

end TwinBuild
