import TwinBuild.Proofs.Builds
import TwinBuild.Proofs.Places
import TwinBuild.Rehearsal

/-!
# Which sources share a bitcode file

The bitcode of a source goes beside it, under a name made of the file stem. The number of the source
is not part of the name, as it is for hidden objects, so sources in one directory that differ in
their extension alone share a bitcode file. So do a source and a bitcode file that happens to have
the name made for it. No other two sources with file names do.

Main statement: `same_bitcode_iff`.
-/

namespace TwinBuild

open Octets (slash dot)

/-! ## The names of bitcode files -/

namespace Artifact

/-- The name of the hidden bitcode file of a source. -/
def bitcodeName (source : Path) : Octets := dotted [stem source, Octets.ofString ".o.bc"]

theorem bitcodeName_eq (source : Path) :
    bitcodeName source = dot :: (stem source ++ Octets.ofString ".o.bc") := by
  simp [bitcodeName, dotted]

theorem bitcodeName_inj {p q : Path} : bitcodeName p = bitcodeName q ↔ stem p = stem q := by
  rw [bitcodeName_eq, bitcodeName_eq, List.cons_inj_right, List.append_left_inj]

/-- A dotted name that is long enough is one step down from anywhere. -/
theorem isName_dotted {parts : List Octets} (hslash : slash ∉ parts.flatten)
    (hlength : 2 ≤ parts.flatten.length) : Place.IsName (dotted parts) := by
  -- it is longer than the two names that lead nowhere or up
  have hlong : 2 < (dotted parts).length := by
    rw [dotted, List.length_cons]
    omega
  refine ⟨List.cons_ne_nil _ _, ?_, ?_, ?_⟩
  · rw [dotted, List.mem_cons]
    rintro (hdot | hmem)
    · exact absurd hdot (by decide)
    · exact hslash hmem
  · intro hcurrent
    rw [hcurrent] at hlong
    exact absurd hlong (by decide)
  · intro hparent
    rw [hparent] at hlong
    exact absurd hlong (by decide)

/-- The bitcode file that stands for a source among hidden artifacts. -/
def bitcodeOf (source : Path) : Path :=
  if source.isBitcode then source else source.withFileName (bitcodeName source)

end Artifact

namespace Path

theorem splitName_cases (name : Octets) :
    (splitName name).1 = name ∨ ∃ n, (splitName name).1 = name.take n := by
  unfold splitName
  split
  · exact Or.inl rfl
  · dsimp only
    split
    · exact Or.inl rfl
    · exact Or.inr ⟨_, rfl⟩

theorem slash_not_mem_fileName {p : Path} {name : Octets} (h : p.fileName = some name) :
    slash ∉ name := by
  rcases steps_of_fileName h with ⟨init, hsteps, -⟩
  have hname : name ∈ p.steps := by
    rw [hsteps]
    simp
  exact Separated.not_mem_of_mem_split (List.mem_filter.1 hname).1

theorem stem_of_fileName {p : Path} {name : Octets} (h : p.fileName = some name) :
    Artifact.stem p = (splitName name).1 := by
  rw [Artifact.stem, fileStem, h]
  rfl

/-- The stem of a path with a file name holds no slash. -/
theorem slash_not_mem_stem {p : Path} {name : Octets} (h : p.fileName = some name) :
    slash ∉ Artifact.stem p := by
  rw [stem_of_fileName h]
  have hname := slash_not_mem_fileName h
  rcases splitName_cases name with heq | ⟨n, heq⟩
  · rwa [heq]
  · rw [heq]
    exact fun hmem => hname (List.mem_of_mem_take hmem)

/-- The name made of the stem of a path with a file name is proper. -/
theorem isName_bitcodeName {p : Path} {name : Octets} (h : p.fileName = some name) :
    Place.IsName (Artifact.bitcodeName p) := by
  apply Artifact.isName_dotted
  · simp only [List.flatten_cons, List.flatten_nil, List.append_nil, List.mem_append]
    rintro (hmem | hmem)
    · exact slash_not_mem_stem h hmem
    · exact absurd hmem (by decide)
  · simp only [List.flatten_cons, List.flatten_nil, List.append_nil, List.length_append]
    have hlength : (Octets.ofString ".o.bc").length = 5 := by decide
    omega

/-- A source that has an absolute spelling has one for its bitcode. -/
theorem absoluteClean_bitcodeOf {cwd : Except Fault Place} {p clean : Path}
    (h : p.absoluteClean cwd = .ok clean) :
    (Artifact.bitcodeOf p).absoluteClean cwd
      = .ok (Place.resolve (cwd.toOption.getD []) (Artifact.bitcodeOf p)).path := by
  rcases absoluteClean_eq_ok.1 h with ⟨hempty, hstart, -⟩
  refine absoluteClean_eq_ok.2 ?_
  unfold Artifact.bitcodeOf
  by_cases hbitcode : p.isBitcode = true
  · rw [if_pos hbitcode]
    exact ⟨hempty, hstart, rfl⟩
  · rw [if_neg hbitcode]
    have hrelative : (⟨Artifact.bitcodeName p⟩ : Path).isAbsolute = false := by
      rw [Artifact.bitcodeName_eq]
      rfl
    rcases withFileName_eq p (Artifact.bitcodeName p) with ⟨above, hjoin, habsolute⟩
    rw [hjoin]
    refine ⟨text_join_ne_nil above hrelative ?_, ?_, rfl⟩
    · rw [Artifact.bitcodeName_eq]
      exact List.cons_ne_nil _ _
    · rwa [isAbsolute_join _ _ hrelative, habsolute]

/-- The bitcode of a source with a file name stands beside it. -/
theorem resolve_bitcodeOf {p : Path} {name : Octets} (h : p.fileName = some name)
    (here : Place) :
    Place.resolve here (Artifact.bitcodeOf p)
      = (Place.resolve here p).dropLast
        ++ [if p.isBitcode then name else Artifact.bitcodeName p] := by
  unfold Artifact.bitcodeOf
  by_cases hbitcode : p.isBitcode = true
  · rw [if_pos hbitcode, if_pos hbitcode]
    rcases Place.resolve_of_fileName h with ⟨above, -, -, hresolve⟩
    rw [hresolve, List.dropLast_concat]
  · rw [if_neg hbitcode, if_neg hbitcode]
    exact Place.resolve_withFileName (Option.isSome_of_eq_some h) (isName_bitcodeName h) here

end Path

/-! ## The reports of a replay -/

namespace Replay

/-- The reports of a run are those on as many verdicts as there are jobs. -/
theorem exists_reports_run (runner : Runner) (r : Recipe) (i : Invocation) (naming : Naming)
    (s : Session) :
    ∃ verdicts, verdicts.length = ((r.plans i naming).flatMap Plan.jobs).length
      ∧ ((Replay.run runner r i naming).run s).1 = reports (r.plans i naming) verdicts :=
  ⟨_, Job.length_verdicts runner _ s, rfl⟩

theorem map_source_plans (r : Recipe) (i : Invocation) (naming : Naming) :
    (r.plans i naming).map Plan.source = i.sources := by
  unfold Recipe.plans
  rw [map_mapIdx]
  refine List.mapIdx_eq_iff.2 fun index => ?_
  cases i.sources[index]? <;> rfl

theorem map_bitcodePath_plans (r : Recipe) {i : Invocation} (scratch : Path)
    (hcompiles : i.compilesOnly = false) :
    (r.plans i (.hidden scratch)).map Plan.bitcodePath = i.sources.map Artifact.bitcodeOf := by
  have hplan : ∀ (index : Nat) (source : Path),
      (r.plan i (.hidden scratch) index source).bitcodePath = Artifact.bitcodeOf source := by
    intro index source
    unfold Plan.bitcodePath Recipe.plan Artifact.bitcodeOf
    rw [i.artifactOf_of_links hcompiles]
    cases source.isBitcode <;> rfl
  unfold Recipe.plans
  rw [map_mapIdx]
  simp only [hplan]
  exact List.mapIdx_eq_iff.2 fun index => List.getElem?_map

/-- The bitcode path of a hidden report is that of its source alone, whatever became of the builds
and whatever number the source has. -/
theorem report_of_hidden {runner : Runner} {r : Recipe} {i : Invocation} {scratch : Path}
    {s : Session} (hcompiles : i.compilesOnly = false) {index : Nat} {report : SourceReport}
    (h : ((Replay.run runner r i (.hidden scratch)).run s).1[index]? = some report) :
    i.sources[index]? = some report.source
      ∧ report.bitcodePath = Artifact.bitcodeOf report.source := by
  rcases exists_reports_run runner r i (.hidden scratch) s with ⟨verdicts, hlength, hreports⟩
  rw [hreports] at h
  have hsource : i.sources[index]? = some report.source := by
    rw [← map_source_plans r i (.hidden scratch), ← map_source_reports _ verdicts,
      List.getElem?_map, h]
    rfl
  have hbitcode : (i.sources.map Artifact.bitcodeOf)[index]? = some report.bitcodePath := by
    rw [← map_bitcodePath_plans r scratch hcompiles, ← map_bitcodePath_reports hlength,
      List.getElem?_map, h]
    rfl
  rw [List.getElem?_map, hsource] at hbitcode
  exact ⟨hsource, (Option.some.inj hbitcode).symm⟩

/-! ## Shared bitcode files -/

/-- **When two sources share a bitcode file.** Read from the same place, both stand in one
directory, and their stems are the same, or one is bitcode and has the name made for the other. A
source without a file name, such as a directory, has bitcode where the path made of its whole text
leads. -/
def SharesBitcode (here : Place) (p q : Path) : Prop :=
  if p.fileName.isSome && q.fileName.isSome then
    (Place.resolve here p).dropLast = (Place.resolve here q).dropLast
    ∧ match p.isBitcode, q.isBitcode with
      | false, false => p.fileStem = q.fileStem
      | true, false => p.fileName = some (Artifact.bitcodeName q)
      | false, true => q.fileName = some (Artifact.bitcodeName p)
      | true, true => False
  else Place.resolve here (Artifact.bitcodeOf p) = Place.resolve here (Artifact.bitcodeOf q)

theorem append_singleton_inj {α : Type} {xs ys : List α} {x y : α} :
    xs ++ [x] = ys ++ [y] ↔ xs = ys ∧ x = y := by
  constructor
  · intro h
    rcases List.append_inj' h rfl with ⟨hinit, hlast⟩
    exact ⟨hinit, List.head_eq_of_cons_eq hlast⟩
  · rintro ⟨rfl, rfl⟩
    rfl

/-- Sources at different places have their bitcode at one place exactly if they share a bitcode
file. -/
theorem resolve_bitcodeOf_eq_iff {here : Place} {p q : Path}
    (h : Place.resolve here p ≠ Place.resolve here q) :
    Place.resolve here (Artifact.bitcodeOf p) = Place.resolve here (Artifact.bitcodeOf q)
      ↔ SharesBitcode here p q := by
  unfold SharesBitcode
  cases hp : p.fileName with
  | none => rfl
  | some name =>
      cases hq : q.fileName with
      | none => rfl
      | some other =>
          rw [Path.resolve_bitcodeOf hp, Path.resolve_bitcodeOf hq, append_singleton_inj,
            if_pos (show ((some name).isSome && (some other).isSome) = true from rfl)]
          refine and_congr_right fun hdirectory => ?_
          -- in one directory, the names of the two bitcode files are compared
          cases p.isBitcode <;> cases q.isBitcode
          · show Artifact.bitcodeName p = Artifact.bitcodeName q ↔ p.fileStem = q.fileStem
            rw [Artifact.bitcodeName_inj, Path.stem_of_fileName hp, Path.stem_of_fileName hq,
              Path.fileStem, Path.fileStem, hp, hq, Option.map_some, Option.map_some,
              Option.some_inj]
          · show Artifact.bitcodeName p = other ↔ some other = some (Artifact.bitcodeName p)
            rw [Option.some_inj, eq_comm]
          · show name = Artifact.bitcodeName q ↔ some name = some (Artifact.bitcodeName q)
            rw [Option.some_inj]
          · show name = other ↔ False
            refine iff_false_intro fun hname => h ?_
            -- two bitcode files of one name in one directory would be at one place
            rcases Place.resolve_of_fileName hp with ⟨above, -, -, hfirst⟩
            rcases Place.resolve_of_fileName hq with ⟨beside, -, -, hsecond⟩
            rw [hfirst, hsecond, List.dropLast_concat, List.dropLast_concat] at hdirectory
            rw [hfirst, hsecond, hdirectory, hname]

/-- **Which sources share a bitcode file.** Two sources of a replay before a link that have
different absolute spellings have bitcode at the same absolute path exactly if they share a bitcode
file, whatever the scratch directory and whatever became of the builds. -/
theorem same_bitcode_iff (runner : Runner) (r : Recipe) {i : Invocation}
    (hcompiles : i.compilesOnly = false) (scratch : Path) (s : Session)
    {cwd : Except Fault Place}
    (hcwd : ∀ place, cwd = .ok place → ∀ name ∈ place, Place.IsName name) {a b : Nat}
    {first second : SourceReport}
    (hfirst : ((Replay.run runner r i (.hidden scratch)).run s).1[a]? = some first)
    (hsecond : ((Replay.run runner r i (.hidden scratch)).run s).1[b]? = some second)
    {p q : Path} (hp : first.source.absoluteClean cwd = .ok p)
    (hq : second.source.absoluteClean cwd = .ok q) (hne : p ≠ q) :
    i.sources[a]? = some first.source ∧ i.sources[b]? = some second.source
    ∧ ∃ p' q', first.bitcodePath.absoluteClean cwd = .ok p'
      ∧ second.bitcodePath.absoluteClean cwd = .ok q'
      ∧ (p' = q' ↔ SharesBitcode (cwd.toOption.getD []) first.source second.source) := by
  rcases report_of_hidden hcompiles hfirst with ⟨hfirstSource, hfirstBitcode⟩
  rcases report_of_hidden hcompiles hsecond with ⟨hsecondSource, hsecondBitcode⟩
  have hhere : ∀ name ∈ cwd.toOption.getD [], Place.IsName name := by
    cases cwd with
    | error fault => exact fun name hname => absurd hname List.not_mem_nil
    | ok place => exact hcwd place rfl
  have hplaces : Place.resolve (cwd.toOption.getD []) first.source
      ≠ Place.resolve (cwd.toOption.getD []) second.source := by
    intro heq
    rw [(Path.absoluteClean_eq_ok.1 hp).2.2, (Path.absoluteClean_eq_ok.1 hq).2.2, heq] at hne
    exact hne rfl
  rw [hfirstBitcode, hsecondBitcode]
  refine ⟨hfirstSource, hsecondSource, _, _, Path.absoluteClean_bitcodeOf hp,
    Path.absoluteClean_bitcodeOf hq, ?_⟩
  rw [← resolve_bitcodeOf_eq_iff hplaces]
  constructor
  · exact Place.path_injective (Place.isName_of_mem_resolve hhere _)
      (Place.isName_of_mem_resolve hhere _)
  · exact congrArg Place.path

/-- The reports on a rehearsed link of sources with the given names, from an empty host. -/
def linkReports (names : List String) : List SourceReport :=
  ((Replay.run ({} : Rehearsal).runner (Recipe.mk (.ofString "/cc") [])
    (.ofArguments (Flags.table names)) (.hidden (.ofString "/tmp/s"))).run
      { host := { files := .empty, cwd := { place := [] } } }).1

/-- Sources with stems of their own have bitcode files of their own. -/
theorem same_bitcode_iff_apart :
    ∃ p q, (Path.ofString ".a.o.bc").absoluteClean (.ok [Octets.ofString "work"]) = .ok p
      ∧ (Path.ofString ".b.o.bc").absoluteClean (.ok [Octets.ofString "work"]) = .ok q
      ∧ (p = q ↔ SharesBitcode [Octets.ofString "work"] (.ofString "a.c") (.ofString "b.c")) := by
  have hfirst : (linkReports ["a.c", "b.c"])[0]? = some
      { source := .ofString "a.c", artifact := ⟨.ofString "/tmp/s/.a.0.o", .ofString ".a.o.bc"⟩
        object := .built, bitcode := .built } := by decide +kernel
  have hsecond : (linkReports ["a.c", "b.c"])[1]? = some
      { source := .ofString "b.c", artifact := ⟨.ofString "/tmp/s/.b.1.o", .ofString ".b.o.bc"⟩
        object := .built, bitcode := .built } := by decide +kernel
  exact (same_bitcode_iff _ _ (by decide +kernel) _ _
    (by rintro place ⟨rfl⟩ name hname; rw [List.mem_singleton.1 hname]; decide +kernel)
    hfirst hsecond (p := .ofString "/work/a.c") (q := .ofString "/work/b.c")
    (by decide +kernel) (by decide +kernel) (by decide +kernel)).2.2

/-- **Two sources with one bitcode file.** A C source and a C++ source of one stem in one directory
get objects of their own, but the bitcode of the one is written over that of the other, and both
objects refer to what is left. -/
theorem extension_twins_share :
    (Invocation.ofArguments (Flags.table ["a.c", "a.cpp", "-o", "app"])).compilesOnly = false
    ∧ (linkReports ["a.c", "a.cpp", "-o", "app"]).map
        (fun report => report.source.absoluteClean (.ok [Octets.ofString "work"]))
      = [.ok (.ofString "/work/a.c"), .ok (.ofString "/work/a.cpp")]
    ∧ (linkReports ["a.c", "a.cpp", "-o", "app"]).map
        (fun report => report.bitcodePath.absoluteClean (.ok [Octets.ofString "work"]))
      = [.ok (.ofString "/work/.a.o.bc"), .ok (.ofString "/work/.a.o.bc")]
    ∧ pairings (linkReports ["a.c", "a.cpp", "-o", "app"])
      = [⟨.ofString ".a.o.bc", .ofString "/tmp/s/.a.0.o"⟩,
        ⟨.ofString ".a.o.bc", .ofString "/tmp/s/.a.1.o"⟩] := by
  decide +kernel

end Replay

end TwinBuild
