import TwinBuild.Proofs.Attempts
import TwinBuild.Proofs.SourceRows

/-!
# Hidden objects

The name of a hidden object ends in the number of its source, between full stops, and the extension of
objects. A number holds no full stop, so the last two full stops of the name tell the number, whatever
the source is called. So hidden objects of different sources are at different places, wherever their
paths are read from, and none of them is where the bitcode of a source goes.

Main statement: `hidden_objects_apart`.
-/

namespace TwinBuild

open Octets (slash dot)

/-! ## Reading a number off the end of a name -/

theorem Octets.ofString_injective : Function.Injective Octets.ofString := by
  intro s t h
  exact String.toByteArray_inj.1 (ByteArray.ext (Array.toList_inj.1 h))

/-- **Different numbers have different texts.** -/
theorem Octets.ofString_toString_injective :
    Function.Injective fun n : Nat => Octets.ofString (toString n) := by
  intro m n h
  have htext : toString m = toString n := Octets.ofString_injective h
  have hdigits : Nat.toDigits 10 m = Nat.toDigits 10 n := by
    simpa only [Nat.toString_eq_repr, Nat.toList_repr] using congrArg String.toList htext
  calc
    m = Nat.ofDigitChars 10 (Nat.toDigits 10 m) 0 := Nat.ofDigitChars_ten_toDigits.symm
    _ = Nat.ofDigitChars 10 (Nat.toDigits 10 n) 0 := by rw [hdigits]
    _ = n := Nat.ofDigitChars_ten_toDigits

namespace Artifact

/-- How the name of a hidden object ends: a full stop, the number of the source, and the extension. -/
def numbered (index : Nat) : Octets :=
  dot :: (Octets.ofString (toString index) ++ Octets.ofString ".o")

theorem dot_not_mem_number (index : Nat) : dot ∉ Octets.ofString (toString index) :=
  fun hmem => absurd (isDigit_of_mem_toString hmem).1 (by decide)

theorem slash_not_mem_numbered (index : Nat) : slash ∉ numbered index := by
  unfold numbered
  rw [List.mem_cons, List.mem_append]
  rintro (hmem | hmem | hmem)
  · exact absurd hmem (by decide)
  · exact absurd (isDigit_of_mem_toString hmem).1 (by decide)
  · exact absurd hmem (by decide)

theorem length_numbered (index : Nat) : 2 < (numbered index).length := by
  have hext : (Octets.ofString ".o").length = 2 := by decide
  unfold numbered
  rw [List.length_cons, List.length_append]
  omega

/-- **The end of a name tells the number**, whatever it begins with. -/
theorem numbered_inj {part part' : Octets} {m n : Nat}
    (h : part ++ numbered m = part' ++ numbered n) : m = n := by
  unfold numbered at h
  rw [← List.cons_append, ← List.cons_append, ← List.append_assoc, ← List.append_assoc] at h
  have hnumbers := Separated.eq_of_append_cons (dot_not_mem_number m) (dot_not_mem_number n)
    (List.append_cancel_right h)
  exact Octets.ofString_toString_injective hnumbers

end Artifact

/-! ## Names that end alike -/

namespace Path

/-- A path whose file name ends in something. -/
def EndsIn (p : Path) (ending : Octets) : Prop := ∃ part, p.fileName = some (part ++ ending)

/-- The place that such a path leads to has that name last, wherever the path is read from. -/
theorem EndsIn.exists_resolve {p : Path} {ending : Octets} (h : p.EndsIn ending) (here : Place) :
    ∃ above part, Place.resolve here p = above ++ [part ++ ending] := by
  obtain ⟨part, hname⟩ := h
  obtain ⟨above, -, -, hresolve⟩ := Place.resolve_of_fileName hname
  exact ⟨_, part, hresolve here⟩

end Path

namespace Path

variable {p q : Path} {ending : Octets}

/-- Another spelling of the place ends alike. -/
theorem EndsIn.absoluteClean (h : p.EndsIn ending) (hslash : slash ∉ ending)
    (hlong : 2 < ending.length) {cwd : Except Fault Place} {clean : Path}
    (hclean : p.absoluteClean cwd = .ok clean) : clean.EndsIn ending := by
  obtain ⟨-, -, rfl⟩ := absoluteClean_eq_ok.1 hclean
  obtain ⟨above, part, hresolve⟩ := h.exists_resolve (cwd.toOption.getD [])
  obtain ⟨before, hjoin⟩ := Separated.exists_join_concat [slash] above (part ++ ending)
  have htext : (Place.resolve (cwd.toOption.getD []) p).path.text
      = (slash :: (before ++ part)) ++ ending := by
    show slash :: Separated.join [slash] _ = _
    rw [hresolve, hjoin, List.cons_append, List.append_assoc]
  exact exists_fileName_of_text htext hslash hlong

/-- **Paths whose names end in different numbers** have different components. -/
theorem EndsIn.components_ne {m n : Nat} (hp : p.EndsIn (Artifact.numbered m))
    (hq : q.EndsIn (Artifact.numbered n)) (hne : m ≠ n) : p.components ≠ q.components := by
  obtain ⟨part, hname⟩ := hp
  obtain ⟨part', hname'⟩ := hq
  intro heq
  unfold fileName at hname hname'
  rw [heq, hname'] at hname
  exact hne (Artifact.numbered_inj (Option.some.inj hname)).symm

/-- They lead to different places, wherever each is read from. -/
theorem EndsIn.resolve_ne {m n : Nat} (hp : p.EndsIn (Artifact.numbered m))
    (hq : q.EndsIn (Artifact.numbered n)) (hne : m ≠ n) (here there : Place) :
    Place.resolve here p ≠ Place.resolve there q := by
  obtain ⟨above, part, hplace⟩ := hp.exists_resolve here
  obtain ⟨above', part', hplace'⟩ := hq.exists_resolve there
  intro heq
  rw [hplace, hplace'] at heq
  exact hne (Artifact.numbered_inj (Replay.append_singleton_inj.1 heq).2)

/-- So do paths with different extensions. -/
theorem resolve_ne_of_extension {e e' : Octets} (hp : p.extension = some e)
    (hq : q.extension = some e') (hne : e ≠ e') (here there : Place) :
    Place.resolve here p ≠ Place.resolve there q := by
  obtain ⟨name, hname, hext⟩ := Option.bind_eq_some_iff.1 hp
  obtain ⟨name', hname', hext'⟩ := Option.bind_eq_some_iff.1 hq
  obtain ⟨above, -, -, hplace⟩ := Place.resolve_of_fileName hname
  obtain ⟨above', -, -, hplace'⟩ := Place.resolve_of_fileName hname'
  intro heq
  rw [hplace, hplace'] at heq
  rw [(Replay.append_singleton_inj.1 heq).2, hext'] at hext
  exact hne (Option.some.inj hext).symm

end Path

/-! ## Hidden objects -/

namespace Artifact

theorem endsIn_hidden_object (scratch : Path) (index : Nat) (source : Path) :
    (ofSource (.hidden scratch) index source).object.EndsIn (numbered index) := by
  obtain ⟨before, hbefore⟩ := Path.exists_text_join scratch
    ⟨dotted [stem source, Octets.ofString ".", Octets.ofString (toString index),
      Octets.ofString ".o"]⟩ (isAbsolute_dotted _)
  have htext : (ofSource (.hidden scratch) index source).object.text
      = (before ++ dot :: stem source) ++ numbered index := by
    show (scratch.join _).text = _
    rw [hbefore, show Octets.ofString "." = [dot] by decide]
    simp [dotted, numbered]
  exact Path.exists_fileName_of_text htext (slash_not_mem_numbered index) (length_numbered index)

theorem isObject_hidden_object (scratch : Path) (index : Nat) (source : Path) :
    (ofSource (.hidden scratch) index source).object.isObject = true := by
  unfold Path.isObject
  rw [extension_hidden_object]
  decide

theorem absoluteClean_hidden_object {scratch : Path} {cwd : Except Fault Place}
    (h : scratch.isAbsolute = true ∨ cwd.isOk = true) (index : Nat) (source : Path) :
    ∃ clean, (ofSource (.hidden scratch) index source).object.absoluteClean cwd = .ok clean := by
  refine ⟨_, Path.absoluteClean_eq_ok.2 ⟨?_, ?_, rfl⟩⟩
  · exact Path.text_join_ne_nil scratch (isAbsolute_dotted _) (List.cons_ne_nil _ _)
  · rwa [show (ofSource (.hidden scratch) index source).object.isAbsolute = scratch.isAbsolute from
      Path.isAbsolute_join scratch _ (isAbsolute_dotted _)]

end Artifact

namespace Invocation

variable {i : Invocation}

/-- Without a named object, the artifact of a number is that of the source with the number. -/
theorem artifact_eq_ok_iff (h : i.namedObject? = none) {naming : Naming} {index : Nat}
    {a : Artifact} :
    i.artifact naming index = .ok a
      ↔ ∃ source, i.sources[index]? = some source ∧ a = Artifact.ofSource naming index source := by
  unfold artifact
  rw [h]
  cases i.sources[index]? with
  | none => simp
  | some source => simp [eq_comm]

/-- The objects of a link are object files. -/
theorem isObject_of_mem_pairings (hcompiles : i.compilesOnly = false) (scratch : Path) :
    ∀ p ∈ i.pairings (.hidden scratch), p.object.isObject = true := by
  intro p hp
  obtain ⟨index, hindex, rfl⟩ := List.mem_mapIdx.1 hp
  rw [i.artifactOf_of_links hcompiles]
  exact Artifact.isObject_hidden_object scratch index _

/-- **Hidden objects keep apart**: each source has one, which is an object file and can be made
absolute. Those of different sources have different components, as they are and made absolute from
anywhere, and lead to different places. -/
structure ObjectsApart (i : Invocation) (scratch : Path) : Prop where
  exists_object : ∀ index < i.sources.length, ∃ a, i.artifact (.hidden scratch) index = .ok a
    ∧ a.object.isObject = true
    ∧ ∀ cwd : Except Fault Place, scratch.isAbsolute = true ∨ cwd.isOk = true →
      ∃ clean, a.object.absoluteClean cwd = .ok clean
  apart : ∀ m n a b, m ≠ n → i.artifact (.hidden scratch) m = .ok a →
    i.artifact (.hidden scratch) n = .ok b →
    a.object.components ≠ b.object.components
    ∧ (∀ cwd p q, a.object.absoluteClean cwd = .ok p → b.object.absoluteClean cwd = .ok q →
      p.components ≠ q.components)
    ∧ ∀ here there, Place.resolve here a.object ≠ Place.resolve there b.object

theorem objectsApart (h : i.namedObject? = none) (scratch : Path) : i.ObjectsApart scratch := by
  constructor
  · intro index hindex
    refine ⟨_, (artifact_eq_ok_iff h).2 ⟨_, List.getElem?_eq_getElem hindex, rfl⟩, ?_, ?_⟩
    · exact Artifact.isObject_hidden_object scratch index _
    · exact fun cwd hcwd => Artifact.absoluteClean_hidden_object hcwd index _
  · intro m n a b hne ha hb
    obtain ⟨source, -, rfl⟩ := (artifact_eq_ok_iff h).1 ha
    obtain ⟨source', -, rfl⟩ := (artifact_eq_ok_iff h).1 hb
    have hm := Artifact.endsIn_hidden_object scratch m source
    have hn := Artifact.endsIn_hidden_object scratch n source'
    refine ⟨hm.components_ne hn hne, ?_, hm.resolve_ne hn hne⟩
    intro cwd p q hp hq
    have hp := hm.absoluteClean (Artifact.slash_not_mem_numbered m) (Artifact.length_numbered m) hp
    have hq := hn.absoluteClean (Artifact.slash_not_mem_numbered n) (Artifact.length_numbered n) hq
    exact hp.components_ne hq hne

end Invocation

/-! ## The builds of a link -/

namespace Replay

variable {r : Recipe} {i : Invocation} {naming : Naming}

theorem getLast?_objectCommand (r : Recipe) (i : Invocation) (source object : Path) :
    (r.objectCommand i source object).arguments.getLast? = some object.text := by
  simp [Recipe.objectCommand]

theorem getLast?_bitcodeCommand (r : Recipe) (i : Invocation) (source bitcode : Path) :
    (r.bitcodeCommand i source bitcode).arguments.getLast? = some bitcode.text := by
  simp [Recipe.bitcodeCommand]

/-- **What a build of a link makes**: the last argument of its command says where it goes, and this is
the place of a hidden object only if the command is the object build of that source. -/
theorem output_of_row (hcompiles : i.compilesOnly = false) (scratch : Path) {m n : Nat} {row : Row}
    {source source' : Path} (hrow : (r.plan i (.hidden scratch) m source).IssuedAs row)
    {entry : Issue} (hentry : entry ∈ row.entries) :
    ∃ output, entry.command.arguments.getLast? = some output
      ∧ ∀ here there, Place.resolve here ⟨output⟩
          = Place.resolve there (Artifact.ofSource (.hidden scratch) n source').object →
        m = n ∧ row.object = some entry := by
  have hreport := reportsOn_of_issuedAs r i (.hidden scratch) hrow
  have hobject := hreport.object_command
  have hbitcode := hreport.bitcode_command
  rw [i.artifactOf_of_links hcompiles] at hobject hbitcode
  unfold Row.entries at hentry
  rw [List.mem_append, Option.mem_toList, Option.mem_toList] at hentry
  rcases hentry with hentry | hentry
  · rw [hentry, Option.map_some, if_pos (show makesObjects (.hidden scratch) = true from rfl),
      Option.some_inj] at hobject
    refine ⟨_, by rw [hobject, getLast?_objectCommand], fun here there hplace => ⟨?_, hentry⟩⟩
    by_contra hne
    exact (Artifact.endsIn_hidden_object scratch m source).resolve_ne
      (Artifact.endsIn_hidden_object scratch n source') hne here there hplace
  · -- what ends in the extension of bitcode does not end in that of objects
    cases hsource : source.isBitcode with
    | true =>
        rw [hentry, hsource, if_pos rfl] at hbitcode
        cases hbitcode
    | false =>
        rw [hentry, hsource, Option.map_some, if_neg Bool.false_ne_true, Option.some_inj]
          at hbitcode
        refine ⟨_, by rw [hbitcode, getLast?_bitcodeCommand], fun here there hplace => ?_⟩
        have hextension := beq_iff_eq.1 (Artifact.isBitcode_ofSource (.hidden scratch) m source)
        exact absurd hplace (Path.resolve_ne_of_extension hextension
          (Artifact.extension_hidden_object scratch n source') (by decide) here there)

end Replay

namespace Compilation

open Session Replay

/-- A link that succeeds has made its scratch directory. -/
theorem exists_scratch_of_success {c : Compilation} {compiler : Path} {i : Invocation}
    {s : Session} (hcompiles : i.compilesOnly = false)
    (hbypass : i.bypass? c.settings.configuring = none)
    (hsuccess : ((c.compile compiler i).run s).1 = .ok .success) :
    ∃ dir, ((makeScratch i).run s).1 = .ok (some dir) := by
  cases hscratch : ((makeScratch i).run s).1 with
  | error e =>
      rw [run_compile_of_error c compiler i hbypass hscratch] at hsuccess
      cases hsuccess
  | ok scratch =>
      have hsome := isSome_of_makeScratch i hscratch
      rw [hcompiles, Bool.not_false, Option.isSome_iff_exists] at hsome
      obtain ⟨dir, rfl⟩ := hsome
      exact ⟨dir, rfl⟩

/-- **Hidden objects never collide and always qualify for attachment**, unless a single source is
compiled to an object that was named. In a link that succeeds, the builds fall into rows, one for each
source, and what a build makes is not where a hidden object goes, unless it is the object build of that
source. Attaching finds no object that is no object file. -/
theorem hidden_objects_apart {i : Invocation} (hnamed : i.namedObject? = none) :
    (∀ scratch, i.ObjectsApart scratch)
    ∧ ∀ (c : Compilation) (compiler : Path) (s : Session), i.compilesOnly = false →
      i.bypass? c.settings.configuring = none →
      ((c.compile compiler i).run s).1 = .ok .success →
      ∃ dir, ((makeScratch i).run s).1 = .ok (some dir)
        ∧ let built := (c.build compiler i (.hidden dir)).run ((makeScratch i).run s).2
          ∃ (b : Builds) (rows : List Row) (embeds links : List Issue),
          Adds (c.compile compiler i) s (b.entries ++ (embeds ++ links))
          ∧ Adds (c.build compiler i (.hidden dir)) ((makeScratch i).run s).2 b.entries
          ∧ Adds (c.attachAll built.1.2) built.2 embeds
          ∧ b.replay = rows.flatMap Row.entries ∧ rows.length = i.sources.length
          ∧ (∀ m n row a, rows[m]? = some row → i.artifact (.hidden dir) n = .ok a →
            ∀ entry ∈ row.entries, ∃ output, entry.command.arguments.getLast? = some output
              ∧ ∀ here there, Place.resolve here ⟨output⟩ = Place.resolve there a.object →
                m = n ∧ row.object = some entry)
          ∧ Attachment.notAnObject ∉ ((c.attachAll built.1.2).run built.2).1 := by
  refine ⟨fun scratch => i.objectsApart hnamed scratch, ?_⟩
  intro c compiler s hcompiles hbypass hsuccess
  obtain ⟨dir, hscratch⟩ := exists_scratch_of_success hcompiles hbypass hsuccess
  refine ⟨dir, hscratch, ?_⟩
  intro built
  have hmakes := makesObjects_of_makeScratch i hscratch
  obtain ⟨b, embeds, links, hb, hadds, hbuilds, houtcome, -, hfinished⟩ :=
    c.exists_parts_buildTwice compiler i hmakes ((makeScratch i).run s).2
  have hsucceeded : b.succeeded = true := by
    by_contra hfailed
    rw [run_compile_of_scratch c compiler i hbypass hscratch, houtcome, if_neg hfailed] at hsuccess
    cases hsuccess
  obtain ⟨hpairings, hembeds, -⟩ := hfinished hsucceeded
  have hcommands := hbuilds.replay
  rw [replayCommands, ← map_command_jobs _ i _ hmakes] at hcommands
  obtain ⟨rows, hrows, hreplay⟩ := exists_rows hcommands
  refine ⟨b, rows, embeds, links, adds_compile_of_scratch hbypass hscratch hadds, hb, hembeds,
    hreplay, ?_, ?_, ?_⟩
  · rw [← hrows.length_eq]
    exact List.length_mapIdx
  · intro m n row a hrow ha entry hentry
    obtain ⟨source, -, hissued⟩ := issuedAs_of_getElem? hrows hrow
    obtain ⟨source', -, rfl⟩ := (Invocation.artifact_eq_ok_iff hnamed).1 ha
    exact output_of_row hcompiles dir hissued hentry
  · refine Attachment.notAnObject_not_mem ?_ _
    rw [show pairings built.1.2 = i.pairings (.hidden dir) from hpairings]
    exact i.isObject_of_mem_pairings hcompiles dir

/-- A source given twice, one whose stem ends as the name of a hidden object does, and one without a
file name. -/
theorem hidden_objects_apart_odd_stems :
    let i : Invocation := .ofArguments
      (Flags.table ["a.c", "a.c", "a.0.c", "-x", "c", "..", "-o", "out"])
    let c : Compilation := { runner := ({} : Rehearsal).runner }
    let s := bareSession fun _ => none
    i.ObjectsApart (.ofString "/tmp/s")
    ∧ ∃ dir, ((makeScratch i).run s).1 = .ok (some dir)
      ∧ Attachment.notAnObject
        ∉ ((c.attachAll ((c.build (.ofString "/cc") i (.hidden dir)).run
            ((makeScratch i).run s).2).1.2).run
          ((c.build (.ofString "/cc") i (.hidden dir)).run ((makeScratch i).run s).2).2).1 := by
  intro i c s
  obtain ⟨hapart, hlink⟩ := @hidden_objects_apart i (by decide +kernel)
  obtain ⟨dir, hscratch, -, -, -, -, -, -, -, -, -, -, hattach⟩ :=
    hlink c (.ofString "/cc") s (by decide +kernel) (by decide +kernel) (by decide +kernel)
  exact ⟨hapart _, dir, hscratch, hattach⟩

end Compilation

end TwinBuild
