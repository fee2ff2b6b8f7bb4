import TwinBuild.Proofs.BitcodeFiles
import TwinBuild.Proofs.FileNames

/-!
# Extensions of generated paths

The extension of a path is decided by the end of its text, wherever the last slash stands. So the
hidden object of a source is an object file and its bitcode a bitcode file for every source, even
one without a file name, which goes into the generated name whole, slashes and all.

Main statements: `Path.extension_of_text`, `Artifact.extension_hidden_object` and
`Invocation.isBitcode_bitcodeOf`.
-/

namespace TwinBuild

open Octets (slash dot)

/-- What follows the last separator goes on to the end of the text. -/
theorem Separated.exists_split_append {α : Type} [DecidableEq α] {sep : α} {ending : List α}
    (h : sep ∉ ending) (text : List α) :
    ∃ init part, split sep (text ++ ending) = init ++ [part ++ ending] := by
  induction text with
  | nil => exact ⟨[], [], split_eq_singleton sep ending h⟩
  | cons b text ih =>
      obtain ⟨init, part, hsplit⟩ := ih
      rw [List.cons_append, split, hsplit]
      by_cases hb : b = sep
      · exact ⟨[] :: init, part, if_pos hb⟩
      · rw [if_neg hb]
        -- the letter goes to the first part, which may be the last as well
        cases init with
        | nil => exact ⟨[], b :: part, rfl⟩
        | cons first init => exact ⟨(b :: first) :: init, part, rfl⟩

namespace Path

theorem splitName_append {lead ext : Octets} (hlead : lead ≠ []) (hext : ext ≠ [])
    (hdot : dot ∉ ext) : splitName (lead ++ dot :: ext) = (lead, some ext) := by
  have hafter : ((lead ++ dot :: ext).reverse.takeWhile (· ≠ dot)).reverse = ext := by
    have hreverse : (lead ++ dot :: ext).reverse = ext.reverse ++ dot :: lead.reverse := by simp
    rw [hreverse, List.takeWhile_append_of_pos, List.takeWhile_cons_of_neg (by simp),
      List.append_nil, List.reverse_reverse]
    intro b hb
    exact decide_eq_true fun heq => hdot (heq ▸ List.mem_reverse.1 hb)
  have hbefore : (lead ++ dot :: ext).take ((lead ++ dot :: ext).length - ext.length - 1)
      = lead := by
    rw [show (lead ++ dot :: ext).length - ext.length - 1 = lead.length by simp; omega,
      List.take_left]
  have hparent : lead ++ dot :: ext ≠ parentName := by
    -- two octets are too few to have something on both sides of the full stop
    intro heq
    have hlength := congrArg List.length heq
    have hpositive := List.length_pos_of_ne_nil hlead
    have hpositive' := List.length_pos_of_ne_nil hext
    simp only [List.length_append, List.length_cons, parentName, List.length_nil] at hlength
    omega
  have hlength : ext.length ≠ (lead ++ dot :: ext).length := by
    rw [List.length_append, List.length_cons]
    omega
  unfold splitName
  rw [if_neg hparent]
  simp only [hafter, hbefore]
  rw [if_neg]
  rw [Bool.or_eq_true, decide_eq_true_iff, decide_eq_true_iff]
  exact fun h => h.elim hlength hlead

/-- **The file name is at the end of the text.** What a text ends in, its file name ends in, if there
is no slash in it and nothing that ends so is empty, a full stop or two. -/
theorem exists_fileName_of_ending {p : Path} {before ending : Octets}
    (htext : p.text = before ++ ending) (hslash : slash ∉ ending)
    (hproper : ∀ part, part ++ ending ∉ [[], currentName, parentName]) :
    ∃ part, p.fileName = some (part ++ ending) := by
  obtain ⟨init, part, hsplit⟩ := Separated.exists_split_append hslash before
  have hname := hproper part
  simp only [List.mem_cons, List.not_mem_nil, or_false, not_or] at hname
  obtain ⟨hempty, hcurrent, hparent⟩ := hname
  have hstep : isStep (part ++ ending) = true := by
    unfold isStep
    rw [Bool.and_eq_true, bne_iff_ne, bne_iff_ne]
    exact ⟨hempty, hcurrent⟩
  have hsteps : p.steps = init.filter isStep ++ [part ++ ending] := by
    rw [steps, htext, hsplit, List.filter_append, List.filter_singleton, hstep]
    rfl
  refine ⟨part, ?_⟩
  unfold fileName
  rw [components_eq, hsteps, List.map_append, ← List.append_assoc, List.map_singleton,
    List.getLast?_concat, stepOf, if_neg hparent]

/-- So it is with an ending of more than two octets. -/
theorem exists_fileName_of_text {p : Path} {before ending : Octets}
    (htext : p.text = before ++ ending) (hslash : slash ∉ ending) (hlong : 2 < ending.length) :
    ∃ part, p.fileName = some (part ++ ending) := by
  refine exists_fileName_of_ending htext hslash fun part hmem => ?_
  have hshort : ∀ name ∈ [[], currentName, parentName], name.length ≤ 2 := by decide
  have hlength := hshort _ hmem
  rw [List.length_append] at hlength
  omega

/-- **The extension is at the end of the text.** A text that ends in a stem without a slash, a full
stop and an extension is a path with this extension, whatever stands before the stem. -/
theorem extension_of_text {p : Path} {before stem ext : Octets}
    (htext : p.text = before ++ (stem ++ dot :: ext)) (hstem : stem ≠ []) (hslash : slash ∉ stem)
    (hext : ext ≠ []) (hdot : dot ∉ ext) (hextSlash : slash ∉ ext) :
    p.extension = some ext := by
  have hending : slash ∉ stem ++ dot :: ext := by
    rw [List.mem_append, List.mem_cons]
    rintro (hmem | hmem | hmem)
    · exact hslash hmem
    · exact absurd hmem (by decide)
    · exact hextSlash hmem
  have hlong : 2 < (stem ++ dot :: ext).length := by
    have hpositive := List.length_pos_of_ne_nil hstem
    have hpositive' := List.length_pos_of_ne_nil hext
    rw [List.length_append, List.length_cons]
    omega
  obtain ⟨part, hfile⟩ := exists_fileName_of_text htext hending hlong
  rw [extension, hfile, Option.bind_some, ← List.append_assoc,
    splitName_append (List.append_ne_nil_of_right_ne_nil part hstem) hext hdot]

/-- What is joined to a path is the end of its text. -/
theorem exists_text_join (p q : Path) (h : q.isAbsolute = false) :
    ∃ before, (p.join q).text = before ++ q.text := by
  rcases join_cases p q h with ⟨-, hjoin⟩ | ⟨before, -, hjoin⟩ | ⟨-, hjoin⟩
  · exact ⟨[], by rw [hjoin]; rfl⟩
  · exact ⟨before ++ [slash], by rw [hjoin]; simp⟩
  · exact ⟨p.text ++ [slash], by rw [hjoin]; simp⟩

end Path

namespace Artifact

open TwinBuild.Path

theorem isAbsolute_dotted (parts : List Octets) : (⟨dotted parts⟩ : Path).isAbsolute = false := rfl

/-- **A hidden object is an object file**, whatever its source is called. -/
theorem extension_hidden_object (scratch : Path) (index : Nat) (source : Path) :
    (ofSource (.hidden scratch) index source).object.extension = some (Octets.ofString "o") := by
  obtain ⟨before, hbefore⟩ := exists_text_join scratch
    ⟨dotted [stem source, Octets.ofString ".", Octets.ofString (toString index),
      Octets.ofString ".o"]⟩ (isAbsolute_dotted _)
  have htext : (ofSource (.hidden scratch) index source).object.text
      = (before ++ dot :: stem source)
        ++ ((dot :: Octets.ofString (toString index)) ++ dot :: Octets.ofString "o") := by
    show (scratch.join _).text = _
    rw [hbefore, show Octets.ofString "." = [dot] by decide,
      show Octets.ofString ".o" = dot :: Octets.ofString "o" by decide]
    simp [dotted]
  -- the full stop and the number before the extension are not cut by a slash
  have hslash : slash ∉ dot :: Octets.ofString (toString index) := by
    rw [List.mem_cons]
    rintro (hmem | hmem)
    · exact absurd hmem (by decide)
    · exact absurd (isDigit_of_mem_toString hmem).1 (by decide)
  exact extension_of_text htext (List.cons_ne_nil _ _) hslash (by decide) (by decide) (by decide)

theorem isAbsolute_hidden_object {scratch : Path} (h : scratch.isAbsolute = true) (index : Nat)
    (source : Path) : (ofSource (.hidden scratch) index source).object.isAbsolute = true :=
  (isAbsolute_join scratch _ (isAbsolute_dotted _)).trans h

/-- A file name replaced by a dotted one that ends in the bitcode extension is a bitcode file. -/
theorem isBitcode_withFileName {p : Path} {name stem : Octets} {parts : List Octets}
    (hname : dotted parts = name ++ (stem ++ Octets.ofString ".bc")) (hstem : stem ≠ [])
    (hslash : slash ∉ stem) : (p.withFileName (dotted parts)).isBitcode = true := by
  obtain ⟨above, hjoin, -⟩ := withFileName_eq p (dotted parts)
  obtain ⟨before, hbefore⟩ := exists_text_join above ⟨dotted parts⟩ (isAbsolute_dotted parts)
  have htext : (p.withFileName (dotted parts)).text
      = (before ++ name) ++ (stem ++ dot :: bitcodeExtension) := by
    rw [hjoin, hbefore, hname, List.append_assoc]
    rfl
  have hextension := extension_of_text htext hstem hslash (by decide) (by decide) (by decide)
  unfold Path.isBitcode
  rw [hextension]
  exact beq_self_eq_true _

theorem isBitcode_bitcodeBeside (object : Path) : (bitcodeBeside object).isBitcode = true := by
  have hname : dotted [object.fileName.getD [], Octets.ofString ".bc"]
      = [] ++ ((dot :: object.fileName.getD []) ++ Octets.ofString ".bc") := by simp [dotted]
  have hslash : slash ∉ dot :: object.fileName.getD [] := by
    rw [List.mem_cons]
    rintro (hmem | hmem)
    · exact absurd hmem (by decide)
    · cases hfile : object.fileName with
      | none =>
          rw [hfile] at hmem
          exact List.not_mem_nil hmem
      | some name =>
          rw [hfile] at hmem
          exact slash_not_mem_fileName hfile hmem
  exact isBitcode_withFileName hname (List.cons_ne_nil _ _) hslash

/-- **The bitcode of an artifact is a bitcode file** under every naming. -/
theorem isBitcode_ofSource (naming : Naming) (index : Nat) (source : Path) :
    (ofSource naming index source).bitcode.isBitcode = true := by
  cases naming with
  | visible => exact isBitcode_bitcodeBeside _
  | hidden scratch =>
      have hname : dotted [stem source, Octets.ofString ".o.bc"]
          = (dot :: stem source) ++ (Octets.ofString ".o" ++ Octets.ofString ".bc") := by
        rw [show Octets.ofString ".o" ++ Octets.ofString ".bc" = Octets.ofString ".o.bc" by decide]
        simp [dotted]
      exact isBitcode_withFileName hname (by decide) (by decide)

end Artifact

/-- The bitcode of a source is a bitcode file: the one made for it, or the source itself. -/
theorem Invocation.isBitcode_bitcodeOf (i : Invocation) (naming : Naming) (index : Nat)
    (source : Path) : (i.bitcodeOf naming index source).isBitcode = true := by
  unfold Invocation.bitcodeOf Invocation.artifactOf
  by_cases hsource : source.isBitcode = true
  · rw [if_pos hsource, hsource]
  · rw [if_neg hsource]
    cases i.namedObject? with
    | none => exact Artifact.isBitcode_ofSource naming index source
    | some object => exact Artifact.isBitcode_bitcodeBeside object

end TwinBuild
