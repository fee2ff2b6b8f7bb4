import TwinBuild.Proofs.HiddenObjects

/-!
# Bitcode beside a visible object

The bitcode of a visible object goes beside it, under the name of the object between a full stop and the
bitcode extension. So the bitcode tells its object, in whatever spelling: two objects have one bitcode
file exactly if they are one. It is never an object file, and never the object itself.

Main statement: `Artifact.bitcode_tells_object`.
-/

namespace TwinBuild

open Octets (slash dot)

namespace Artifact

open TwinBuild.Path (currentName parentName)

/-! ## The name of the bitcode -/

/-- The name of the bitcode file beside an object of a name. -/
def nameBeside (name : Octets) : Octets := dotted [name, Octets.ofString ".bc"]

theorem nameBeside_eq (name : Octets) :
    nameBeside name = dot :: (name ++ Octets.ofString ".bc") := by simp [nameBeside, dotted]

theorem nameBeside_inj {name name' : Octets} : nameBeside name = nameBeside name' ↔ name = name' := by
  rw [nameBeside_eq, nameBeside_eq, List.cons_inj_right, List.append_left_inj]

theorem nameBeside_ne (name : Octets) : nameBeside name ≠ name := by
  intro h
  have hlength := congrArg List.length h
  rw [nameBeside_eq, List.length_cons, List.length_append] at hlength
  omega

theorem isName_nameBeside {name : Octets} (h : slash ∉ name) : Place.IsName (nameBeside name) := by
  have hflat : [name, Octets.ofString ".bc"].flatten = name ++ Octets.ofString ".bc" := by simp
  refine isName_dotted ?_ ?_
  · rw [hflat, List.mem_append]
    rintro (hmem | hmem)
    · exact h hmem
    · exact absurd hmem (by decide)
  · rw [hflat, List.length_append, show (Octets.ofString ".bc").length = 3 by decide]
    omega

/-! ## The bitcode of a path with a file name -/

variable {p q : Path} {name other : Octets}

theorem bitcodeBeside_eq (h : p.fileName = some name) :
    bitcodeBeside p = p.withFileName (nameBeside name) := by
  rw [bitcodeBeside, h]
  rfl

/-- **The components of bitcode**: those of the parent of its object, and the name made of the object's
name. -/
theorem components_bitcodeBeside (h : p.fileName = some name) :
    ∃ above above', p.parent? = some above ∧ (bitcodeBeside p).parent? = some above'
      ∧ above'.components = above.components
      ∧ p.components = above.components ++ [.normal name]
      ∧ (bitcodeBeside p).components = above.components ++ [.normal (nameBeside name)] := by
  rw [bitcodeBeside_eq h]
  exact Path.components_withFileName h (isName_nameBeside (Path.slash_not_mem_fileName h))

theorem resolve_bitcodeBeside (h : p.fileName = some name) (here : Place) :
    ∃ above, Place.resolve here p = above ++ [name]
      ∧ Place.resolve here (bitcodeBeside p) = above ++ [nameBeside name] := by
  obtain ⟨above, -, -, hresolve⟩ := Place.resolve_of_fileName h
  refine ⟨Place.resolve here above, hresolve here, ?_⟩
  rw [bitcodeBeside_eq h, Place.resolve_withFileName (Option.isSome_of_eq_some h)
    (isName_nameBeside (Path.slash_not_mem_fileName h)), hresolve, List.dropLast_concat]

/-- **Bitcode tells its object** by the components of the two. -/
theorem components_bitcodeBeside_inj (hp : p.fileName = some name) (hq : q.fileName = some other) :
    (bitcodeBeside p).components = (bitcodeBeside q).components ↔ p.components = q.components := by
  obtain ⟨above, -, -, -, -, hobject, hbitcode⟩ := components_bitcodeBeside hp
  obtain ⟨above', -, -, -, -, hobject', hbitcode'⟩ := components_bitcodeBeside hq
  rw [hobject, hobject', hbitcode, hbitcode', Replay.append_singleton_inj,
    Replay.append_singleton_inj, Component.normal.injEq, Component.normal.injEq, nameBeside_inj]

/-- It does so by the places that the two lead to. -/
theorem resolve_bitcodeBeside_inj (hp : p.fileName = some name) (hq : q.fileName = some other)
    (here : Place) :
    Place.resolve here (bitcodeBeside p) = Place.resolve here (bitcodeBeside q)
      ↔ Place.resolve here p = Place.resolve here q := by
  obtain ⟨above, hobject, hbitcode⟩ := resolve_bitcodeBeside hp here
  obtain ⟨above', hobject', hbitcode'⟩ := resolve_bitcodeBeside hq here
  rw [hobject, hobject', hbitcode, hbitcode', Replay.append_singleton_inj,
    Replay.append_singleton_inj, nameBeside_inj]

/-- **Bitcode is never where its object is**, not even if that has no file name. -/
theorem resolve_bitcodeBeside_ne (p : Path) (here : Place) :
    Place.resolve here (bitcodeBeside p) ≠ Place.resolve here p := by
  cases hp : p.fileName with
  | some name =>
      obtain ⟨above, hobject, hbitcode⟩ := resolve_bitcodeBeside hp here
      rw [hobject, hbitcode, Ne, Replay.append_singleton_inj]
      exact fun h => nameBeside_ne name h.2
  | none =>
      have hname : Place.IsName (nameBeside []) := isName_nameBeside List.not_mem_nil
      have hjoin : bitcodeBeside p = p.join ⟨nameBeside []⟩ := by
        rw [bitcodeBeside, Path.withFileName, hp]
        rfl
      rw [hjoin, Place.resolve_join here p _ (Place.isAbsolute_of_isName hname),
        Place.resolve_name hname]
      intro h
      have hlength := congrArg List.length h
      rw [List.length_append, List.length_singleton] at hlength
      omega

theorem isObject_bitcodeBeside (p : Path) : (bitcodeBeside p).isObject = false := by
  have hextension : (bitcodeBeside p).extension = some bitcodeExtension :=
    beq_iff_eq.1 (isBitcode_bitcodeBeside p)
  unfold Path.isObject
  rw [hextension]
  decide

/-! ## Visible artifacts -/

/-- A visible object that is not asked for by name has a file name, whatever its source is called. -/
theorem exists_fileName_visible (index : Nat) (source : Path) :
    ∃ name, (ofSource .visible index source).object.fileName = some name := by
  have hproper : ∀ part : Octets, part ++ Octets.ofString ".o" ∉ [[], currentName, parentName] := by
    intro part hmem
    have hend : ∀ name ∈ [[], currentName, parentName],
        name.getLast? ≠ (Octets.ofString ".o").getLast? := by decide
    refine hend _ hmem ?_
    rw [List.getLast?_append]
    rfl
  have htext : (ofSource .visible index source).object.text
      = stem source ++ Octets.ofString ".o" := rfl
  obtain ⟨part, hname⟩ := Path.exists_fileName_of_ending htext (by decide) hproper
  exact ⟨_, hname⟩

variable {i : Invocation} {m n : Nat} {a b : Artifact}

/-- Every visible artifact has its bitcode beside its object. -/
theorem bitcode_artifactOf (i : Invocation) (index : Nat) (source : Path) :
    (i.artifactOf .visible index source).bitcode
      = bitcodeBeside (i.artifactOf .visible index source).object := by
  unfold Invocation.artifactOf
  cases i.namedObject? <;> rfl

theorem bitcode_visible (h : i.artifact .visible m = .ok a) :
    a.bitcode = bitcodeBeside a.object := by
  unfold Invocation.artifact at h
  split at h
  · cases h
    rfl
  · cases h
    rfl
  · cases h

/-- Two visible artifacts of an invocation are one, the object that was asked for, or the objects of both
have file names. -/
theorem eq_or_fileName (ha : i.artifact .visible m = .ok a) (hb : i.artifact .visible n = .ok b) :
    a = b ∨ ∃ name other, a.object.fileName = some name ∧ b.object.fileName = some other := by
  cases hnamed : i.namedObject? with
  | some object =>
      unfold Invocation.artifact at ha hb
      rw [hnamed] at ha hb
      cases ha
      cases hb
      exact Or.inl rfl
  | none =>
      obtain ⟨source, -, rfl⟩ := (Invocation.artifact_eq_ok_iff hnamed).1 ha
      obtain ⟨source', -, rfl⟩ := (Invocation.artifact_eq_ok_iff hnamed).1 hb
      obtain ⟨name, hname⟩ := exists_fileName_visible m source
      obtain ⟨other, hother⟩ := exists_fileName_visible n source'
      exact Or.inr ⟨name, other, hname, hother⟩

/-- What the bitcode build of a visible artifact writes, by the last argument of its command. -/
theorem exists_output_of_plan {r : Replay.Recipe} {plan : Replay.Plan}
    (hplan : plan ∈ r.plans i .visible) {job : Job} (hjob : plan.bitcodeJob = some job) :
    ∃ output, job.command.arguments.getLast? = some output
      ∧ (⟨output⟩ : Path) = bitcodeBeside plan.artifact.object := by
  obtain ⟨index, hindex, rfl⟩ := List.mem_mapIdx.1 hplan
  by_cases hsource : i.sources[index].isBitcode = true
  · rw [Replay.Recipe.plan, if_pos hsource] at hjob
    cases hjob
  · rw [Replay.Recipe.plan, if_neg hsource] at hjob
    cases hjob
    exact ⟨_, Replay.getLast?_bitcodeCommand r i _ _, bitcode_artifactOf i index i.sources[index]⟩

/-- **Bitcode tells its object.** Of two objects with file names, the bitcode files have the same
components exactly if the objects have. Bitcode is in the directory of its object, has the bitcode
extension, is no object file, and is not its object. So the visible artifacts of an invocation share a
bitcode file exactly if they share an object, by components and by the places that these lead to, and no
bitcode build writes where the object is that it is paired with. -/
theorem bitcode_tells_object :
    (∀ p q : Path, p.fileName.isSome = true → q.fileName.isSome = true →
      ((bitcodeBeside p).components = (bitcodeBeside q).components
        ↔ p.components = q.components))
    ∧ (∀ p : Path, p.fileName.isSome = true →
      (∃ above above', p.parent? = some above ∧ (bitcodeBeside p).parent? = some above'
        ∧ above'.components = above.components)
      ∧ (bitcodeBeside p).extension = some bitcodeExtension
      ∧ (bitcodeBeside p).isObject = false
      ∧ (bitcodeBeside p).components ≠ p.components)
    ∧ (∀ (i : Invocation) (m n : Nat) (a b : Artifact),
      i.artifact .visible m = .ok a → i.artifact .visible n = .ok b →
      (a.bitcode.components = b.bitcode.components ↔ a.object.components = b.object.components)
      ∧ ∀ here, Place.resolve here a.bitcode = Place.resolve here b.bitcode
        ↔ Place.resolve here a.object = Place.resolve here b.object)
    ∧ ∀ (r : Replay.Recipe) (i : Invocation) (plan : Replay.Plan) (job : Job),
      plan ∈ r.plans i .visible → plan.bitcodeJob = some job →
      ∃ output, job.command.arguments.getLast? = some output
        ∧ ∀ here, Place.resolve here ⟨output⟩ ≠ Place.resolve here plan.pairing.object := by
  refine ⟨fun p q hp hq => ?_, fun p hp => ?_, fun i m n a b ha hb => ?_,
    fun r i plan job hplan hjob => ?_⟩
  · obtain ⟨name, hname⟩ := Option.isSome_iff_exists.1 hp
    obtain ⟨other, hother⟩ := Option.isSome_iff_exists.1 hq
    exact components_bitcodeBeside_inj hname hother
  · obtain ⟨name, hname⟩ := Option.isSome_iff_exists.1 hp
    obtain ⟨above, above', hparent, hparent', heq, hobject, hbitcode⟩ :=
      components_bitcodeBeside hname
    refine ⟨⟨above, above', hparent, hparent', heq⟩, beq_iff_eq.1 (isBitcode_bitcodeBeside p),
      isObject_bitcodeBeside p, ?_⟩
    rw [hobject, hbitcode, Ne, Replay.append_singleton_inj, Component.normal.injEq]
    exact fun h => nameBeside_ne name h.2
  · rw [bitcode_visible ha, bitcode_visible hb]
    rcases eq_or_fileName ha hb with rfl | ⟨name, other, hname, hother⟩
    · exact ⟨iff_of_true rfl rfl, fun here => iff_of_true rfl rfl⟩
    · exact ⟨components_bitcodeBeside_inj hname hother, resolve_bitcodeBeside_inj hname hother⟩
  · obtain ⟨output, hlast, hbitcode⟩ := exists_output_of_plan hplan hjob
    refine ⟨output, hlast, fun here => ?_⟩
    rw [hbitcode]
    exact resolve_bitcodeBeside_ne plan.artifact.object here

/-- An object that looks like bitcode, in two spellings, and a source without a file name beside one that
has one. -/
theorem bitcode_tells_object_odd_spellings :
    let p := Path.ofString "./b//.c.bc/."
    let q := Path.ofString "./b/./.c.bc"
    let i := Invocation.ofArguments (Flags.table ["-c", "-x", "c", "..", "d/a.c"])
    let r : Replay.Recipe := { compiler := .ofString "cc" }
    let a : Artifact := ⟨.ofString "...o", .ofString "....o.bc"⟩
    let b : Artifact := ⟨.ofString "a.o", .ofString ".a.o.bc"⟩
    let plan := r.plan i .visible 0 (.ofString "..")
    p.fileName = some (Octets.ofString ".c.bc") ∧ p ≠ q
    ∧ (bitcodeBeside p).components = (bitcodeBeside q).components
    ∧ (bitcodeBeside p).isObject = false
    ∧ i.artifact .visible 0 = .ok a ∧ i.artifact .visible 1 = .ok b
    ∧ a.bitcode.components ≠ b.bitcode.components
    ∧ plan ∈ r.plans i .visible
    ∧ ∃ output, output = a.bitcode.text
      ∧ ∀ here, Place.resolve here ⟨output⟩ ≠ Place.resolve here plan.pairing.object := by
  intro p q i r a b plan
  obtain ⟨hnames, hproperties, hvisible, hbuilds⟩ := bitcode_tells_object
  have hp : p.fileName.isSome = true := by decide
  have ha : i.artifact .visible 0 = .ok a := by decide +kernel
  have hb : i.artifact .visible 1 = .ok b := by decide +kernel
  have hplan : plan ∈ r.plans i .visible := by decide +kernel
  have hjob : plan.bitcodeJob
      = some (.bitcode (.ofString "..") (r.bitcodeCommand i (.ofString "..") a.bitcode)) := by
    decide +kernel
  obtain ⟨output, hlast, hapart⟩ := hbuilds r i plan _ hplan hjob
  have houtput : output = a.bitcode.text :=
    Option.some.inj (hlast.symm.trans (Replay.getLast?_bitcodeCommand r i _ _))
  exact ⟨by decide, by decide, (hnames p q hp (by decide)).2 (by decide), (hproperties p hp).2.2.1,
    ha, hb, fun h => absurd ((hvisible i 0 1 a b ha hb).1.1 h) (by decide), hplan, output, houtput,
    hapart⟩

end Artifact

end TwinBuild
