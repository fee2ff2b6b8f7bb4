import TwinBuild.Proofs.HiddenObjects
import TwinBuild.Proofs.Refusals
import TwinBuild.Proofs.Respellings
import TwinBuild.Proofs.SourceReplay

/-!
# What stays in the scratch directory

The name of a hidden object is made of the stem of its source, and a source without a file name, such
as `/..`, has its whole text for a stem. The slashes in it make the name of the object a path of its
own, which goes on from the scratch directory and need not come back to it. An object is directly in
the scratch directory exactly if what comes before the last slash leads back there. It always does for
a source that has a file name, and so for every source that is one by its extension.

Main statement: `hidden_object_stays_iff`.
-/

namespace TwinBuild

open Octets (slash dot)

namespace Artifact

/-! ## The way to the last piece of a name -/

/-- What the name of a hidden object goes through on the way to its last piece: the stem of the source
after a full stop, up to the last slash. -/
def detour (source : Path) : Path :=
  ⟨Separated.join [slash] (Separated.split slash (dot :: stem source)).dropLast⟩

/-- Whether the name of a hidden object comes back from its detour to the directory it set out from. -/
def ComesBack (dir : Place) (source : Path) : Prop := Place.resolve dir (detour source) = dir

instance (dir : Place) (source : Path) : Decidable (ComesBack dir source) :=
  inferInstanceAs (Decidable (_ = _))

/-- A source with a file name has no detour. -/
theorem comesBack_of_fileName {source : Path} (h : source.fileName.isSome = true) (dir : Place) :
    ComesBack dir source := by
  obtain ⟨name, hname⟩ := Option.isSome_iff_exists.1 h
  have hslash : slash ∉ dot :: stem source := by
    rw [List.mem_cons]
    rintro (hdot | hmem)
    · exact absurd hdot (by decide)
    · exact Path.slash_not_mem_stem hname hmem
  unfold ComesBack detour
  rw [Separated.split_eq_singleton slash _ hslash]
  rfl

/-- What the text of a hidden name begins with does not begin at the root. -/
theorem isAbsolute_detour (source : Path) : (detour source).isAbsolute = false := by
  have htext := Separated.join_split slash (dot :: stem source)
  unfold detour
  obtain ⟨init, part, hsplit⟩ := (List.eq_nil_or_concat _).resolve_left
    (Separated.split_ne_nil slash (dot :: stem source))
  rw [hsplit, List.concat_eq_append] at htext ⊢
  rw [List.dropLast_concat]
  by_cases hinit : init = []
  · rw [hinit]
    rfl
  rw [Separated.join_concat [slash] hinit, List.append_assoc, List.singleton_append] at htext
  unfold Path.isAbsolute
  cases hjoin : Separated.join [slash] init with
  | nil =>
      rw [hjoin] at htext
      exact absurd (List.cons.inj htext).1 (by decide)
  | cons b rest =>
      rw [hjoin] at htext
      rw [show b = dot from (List.cons.inj htext).1]
      rfl

/-- **The steps of a hidden name** are those of the detour and one more, which is a proper name. -/
theorem exists_steps_detour (source : Path) {ending : Octets} (hslash : slash ∉ ending)
    (hlong : 2 < ending.length) :
    ∃ name, Place.IsName name
      ∧ (⟨(dot :: stem source) ++ ending⟩ : Path).steps = (detour source).steps ++ [name] := by
  obtain ⟨init, part, hsplit⟩ := (List.eq_nil_or_concat _).resolve_left
    (Separated.split_ne_nil slash (dot :: stem source))
  rw [List.concat_eq_append] at hsplit
  have hpart : slash ∉ part := Separated.not_mem_of_mem_split (by rw [hsplit]; simp)
  have hends : slash ∉ part ++ ending := fun hmem => (List.mem_append.1 hmem).elim hpart hslash
  have hne : ∀ short : Octets, short.length ≤ 2 → part ++ ending ≠ short := by
    rintro short hshort rfl
    rw [List.length_append] at hshort
    omega
  have hname : Place.IsName (part ++ ending) :=
    ⟨hne [] (by decide), hends, hne Path.currentName (by decide), hne Path.parentName (by decide)⟩
  have hstep : (⟨part ++ ending⟩ : Path).steps = [part ++ ending] :=
    Path.steps_of_isStep hends (by simp [Path.isStep, hname.1, hname.2.2.1])
  have htext : dot :: stem source = Separated.join [slash] (init ++ [part]) := by
    rw [← hsplit, Separated.join_split]
  refine ⟨part ++ ending, hname, ?_⟩
  rw [detour, hsplit, List.dropLast_concat, htext]
  by_cases hinit : init = []
  · rw [hinit]
    exact hstep
  · rw [Separated.join_concat [slash] hinit, List.append_assoc, List.append_assoc,
      List.singleton_append, Path.steps_of_slash, hstep]

/-- **Where a hidden object is**: one name below the place that the detour leads to from the scratch
directory. -/
theorem resolve_hidden_object (scratch : Path) (index : Nat) (source : Path) :
    ∃ name, Place.IsName name
      ∧ ∀ here, Place.resolve here (ofSource (.hidden scratch) index source).object
        = Place.resolve (Place.resolve here scratch) (detour source) ++ [name] := by
  obtain ⟨name, hname, hsteps⟩ := exists_steps_detour source (slash_not_mem_numbered index)
    (length_numbered index)
  refine ⟨name, hname, fun here => ?_⟩
  have htext : dotted [stem source, Octets.ofString ".", Octets.ofString (toString index),
      Octets.ofString ".o"] = (dot :: stem source) ++ numbered index := by
    rw [show Octets.ofString "." = [dot] by decide]
    simp [dotted, numbered]
  have hobject : (ofSource (.hidden scratch) index source).object
      = scratch.join ⟨(dot :: stem source) ++ numbered index⟩ :=
    congrArg (fun text => scratch.join ⟨text⟩) htext
  have hrelative : (⟨(dot :: stem source) ++ numbered index⟩ : Path).isAbsolute = false := rfl
  rw [hobject, Place.resolve_join _ _ _ hrelative, Place.resolve_eq, hsteps, hrelative,
    List.map_append, List.foldl_append, Place.resolve_eq _ (detour source), isAbsolute_detour,
    List.map_singleton, Path.stepOf, if_neg hname.2.2.2]
  rfl

/-- **A hidden object is directly in the scratch directory** exactly if its name comes back from its
detour. -/
theorem exists_resolve_hidden_object_iff (scratch : Path) (index : Nat) (source : Path) :
    (∃ name, Place.resolve [] (ofSource (.hidden scratch) index source).object
      = Place.resolve [] scratch ++ [name]) ↔ ComesBack (Place.resolve [] scratch) source := by
  obtain ⟨name, -, hresolve⟩ := resolve_hidden_object scratch index source
  unfold ComesBack
  rw [hresolve []]
  constructor
  · rintro ⟨_, heq⟩
    exact (Replay.append_singleton_inj.1 heq).1
  · intro hback
    exact ⟨name, by rw [hback]⟩

end Artifact

/-- A source that is one by its extension has a file name. -/
theorem Use.isSome_fileName_of_source {argument : Octets}
    (h : ofArgument none argument = .source) : (⟨argument⟩ : Path).fileName.isSome = true := by
  have hinput : ofInput none argument = .source := by
    unfold ofArgument at h
    split at h
    · cases h
    · split at h
      · exact absurd h (ofFlag_ne_source argument)
      · exact h
  unfold ofInput at hinput
  cases hname : (⟨argument⟩ : Path).fileName with
  | some name => rfl
  | none =>
      simp only [Path.extension, hname, Option.bind_none] at hinput
      cases hinput

namespace Compilation

open Session

/-- Below the scratch directory of a run was nothing before the run. -/
theorem nodeAt_below_scratch {i : Invocation} {scratch : Path} {s : Session}
    (hsound : s.host.Sound) (hscratch : ((makeScratch i).run s).1 = .ok (some scratch))
    {name : Octets} {p : Path} (hp : s.host.placeOf p = s.host.placeOf scratch ++ [name]) :
    s.host.nodeAt p = none := by
  have hsome := isSome_of_makeScratch i hscratch
  rw [Option.isSome_some, Eq.comm, Bool.not_eq_true'] at hsome
  rw [run_makeScratch_of_links hsome] at hscratch
  generalize hmake : (Host.createTemporaryDirectory Attachment.temporaryLead
    s.host.temporaryDirectory).run.run s.host = made at hscratch
  obtain ⟨fault | made, after⟩ := made
  · cases hscratch
  cases hscratch
  obtain ⟨-, hnone, -⟩ :=
    Host.createTemporaryDirectory_makes Host.slash_not_mem_temporaryLead hmake
  unfold Host.nodeAt at hnone ⊢
  rw [hp]
  refine hsound.grounded.get?_below ?_ _ (List.prefix_append _ _) (by simp)
  rw [hnone]
  simp

/-- **Which hidden objects stay in the scratch directory.** The object of a source is made absolute,
and is then directly in the scratch directory, exactly if its name comes back from its detour. That of
a source with a file name does, and that of a source that is one by its extension. An object that stays
in the scratch directory of a run is nothing that was there before the run, whether an input or an older
output, and nothing outside of that directory. -/
theorem hidden_object_stays_iff {arguments : List Octets}
    (hcompiles : (Invocation.ofArguments arguments).compilesOnly = false) {index : Nat}
    {source : Path} (hsource : (Invocation.ofArguments arguments).sources[index]? = some source)
    {scratch : Path} (habsolute : scratch.isAbsolute = true) (cwd : Except Fault Place) :
    ∃ a dir object, (Invocation.ofArguments arguments).artifact (.hidden scratch) index = .ok a
      ∧ scratch.absoluteClean cwd = .ok dir ∧ a.object.absoluteClean cwd = .ok object
      ∧ (object.IsDirectlyIn dir ↔ Artifact.ComesBack (Place.resolve [] scratch) source)
      ∧ (source.fileName.isSome = true → object.IsDirectlyIn dir)
      ∧ ((Invocation.readings arguments)[index]? = some (source, none) → object.IsDirectlyIn dir)
      ∧ ∀ s : Session, s.host.Sound →
        ((makeScratch (.ofArguments arguments)).run s).1 = .ok (some scratch) →
        object.IsDirectlyIn dir →
        ∀ p, s.host.nodeAt p ≠ none
            ∨ (∀ name, s.host.placeOf p ≠ s.host.placeOf scratch ++ [name]) →
          s.host.placeOf p ≠ s.host.placeOf a.object := by
  have hnamed : (Invocation.ofArguments arguments).namedObject? = none := by
    unfold Invocation.namedObject?
    rw [hcompiles, Bool.and_false, if_neg Bool.false_ne_true]
  have hobject : (Artifact.ofSource (.hidden scratch) index source).object.isAbsolute = true :=
    Artifact.isAbsolute_hidden_object habsolute index source
  have hbelow := Artifact.exists_resolve_hidden_object_iff scratch index source
  have hnames : ∀ p : Path, ∀ name ∈ Place.resolve [] p, Place.IsName name :=
    Place.isName_of_mem_resolve fun name hname => absurd hname List.not_mem_nil
  have hstays := (Place.isDirectlyIn_path_iff (hnames _) (hnames scratch)).trans hbelow
  have hfile := fun h : source.fileName.isSome = true =>
    hstays.2 (Artifact.comesBack_of_fileName h _)
  refine ⟨_, _, _, (Invocation.artifact_eq_ok_iff hnamed).2 ⟨source, hsource, rfl⟩,
    Path.absoluteClean_of_isAbsolute habsolute cwd, Path.absoluteClean_of_isAbsolute hobject cwd,
    hstays, hfile, ?_, ?_⟩
  · intro hreading
    exact hfile (Use.isSome_fileName_of_source
      (Segment.use_of_mem_readings (List.mem_of_getElem? hreading)))
  · rintro s hsound hscratch hdirect p hp heq
    obtain ⟨name, hname⟩ := hbelow.2 (hstays.1 hdirect)
    have hat : s.host.placeOf p = s.host.placeOf scratch ++ [name] := by
      rw [heq, Host.placeOf, Host.placeOf, Place.resolve_of_isAbsolute hobject,
        Place.resolve_of_isAbsolute habsolute, hname]
    rcases hp with hnode | houtside
    · exact hnode (nodeAt_below_scratch hsound hscratch hat)
    · exact houtside name hat

/-- The object of a source that leads up, under a scratch directory that a run has made. -/
theorem hidden_object_stays_upward :
    let arguments := Flags.table ["-x", "c", "..", "-o", "app"]
    let s := bareSession fun _ => none
    ∃ a object, (Invocation.ofArguments arguments).artifact
        (.hidden (.ofString "/tmp/dualcc000000")) 0 = .ok a
      ∧ a.object.absoluteClean (.ok []) = .ok object
      ∧ object.IsDirectlyIn (.ofString "/tmp/dualcc000000")
      ∧ s.host.placeOf (.ofString "/app") ≠ s.host.placeOf a.object
      ∧ s.host.placeOf (.ofString "/tmp") ≠ s.host.placeOf a.object := by
  intro arguments s
  have hscratch : ((makeScratch (.ofArguments arguments)).run s).1
      = .ok (some (.ofString "/tmp/dualcc000000")) := by decide +kernel
  have hsource : (Invocation.ofArguments arguments).sources[0]? = some (.ofString "..") := by
    decide +kernel
  have habsolute : (Path.ofString "/tmp/dualcc000000").isAbsolute = true := by decide
  obtain ⟨a, dir, object, ha, hdir, hobject, hstays, -, -, hapart⟩ :=
    hidden_object_stays_iff (by decide +kernel) hsource habsolute (.ok [])
  have hdirect := hstays.2 (by decide +kernel)
  have hapart := hapart s (sound_bareSession _) hscratch hdirect
  have hclean : dir = .ofString "/tmp/dualcc000000" :=
    Except.ok.inj (hdir.symm.trans (by decide +kernel))
  rw [hclean] at hdirect
  refine ⟨a, object, ha, hobject, hdirect, hapart _ (Or.inr fun name heq => ?_),
    hapart _ (Or.inl (by decide +kernel))⟩
  have hlength := congrArg List.length heq
  rw [List.length_append, List.length_singleton] at hlength
  exact absurd hlength (by decide +kernel)

/-- **A hidden object that leaves the scratch directory.** The command line is not bypassed and has
nothing but a source without a file name, whose object is not even below the scratch directory. -/
theorem hidden_object_escapes :
    let i : Invocation := .ofArguments (Flags.table ["-x", "c", "/../../w/..", "-o", "app"])
    let scratch : Path := .ofString "/tmp/s"
    i.bypass? false = none ∧ i.compilesOnly = false ∧ scratch.isAbsolute = true
    ∧ (∃ a dir object, i.artifact (.hidden scratch) 0 = .ok a
      ∧ scratch.absoluteClean (.ok []) = .ok dir ∧ a.object.absoluteClean (.ok []) = .ok object
      ∧ object = .ofString "/w/...0.o"
      ∧ ¬ object.IsDirectlyIn dir) := by
  refine ⟨by decide +kernel, by decide +kernel, by decide,
    ⟨.ofString "/tmp/s/./../../w/...0.o", .ofString "/../../w/.././../../w/...o.bc"⟩,
    .ofString "/tmp/s", .ofString "/w/...0.o", by decide +kernel, by decide +kernel,
    by decide +kernel, rfl, ?_⟩
  rintro ⟨name, hcomponents⟩
  have hlength := congrArg List.length hcomponents
  rw [List.length_append, List.length_singleton] at hlength
  exact absurd hlength (by decide +kernel)

end Compilation

end TwinBuild
