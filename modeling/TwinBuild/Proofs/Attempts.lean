import TwinBuild.Proofs.TemporaryFiles

/-!
# What attaching does and reports

Attaching takes one of four courses: there is no object file, no absolute path or no payload file, or
everything is tried in turn, whatever fails on the way. What is reported tells the course, and what
each step of an attempt has come to. Beside what the command does, an attempt changes nothing but the
archive, and leaves nothing but a payload file that the host would not take away.

Main statements: `course_attach`, what one run of attaching does, and `attach_reports`.
-/

namespace TwinBuild

namespace Attachment

open Session

/-! ## Attempts -/

/-- **An attempt**: what each step came to and the host that it left. The payload is handed over, the
command works on it, the payload is cleared away, and the bitcode is stored. -/
structure Attempt where
  /-- The one spelling of the place of the bitcode. -/
  bitcode : Path
  payload : Path
  handed : Host
  verdict : Verdict
  worked : Host
  removed : Except Fault Unit
  cleared : Host
  stored : Option Path
  left : Host

/-- The entry of an attempt in the journal. -/
def Attempt.issue (t : Attempt) (embedder : Embedder) (p : Pairing) : Issue :=
  ⟨embedder.command p.object t.payload, t.handed, t.verdict⟩

variable (runner : Runner) (embedder : Embedder) (archive? : Option Archive)

/-- **The attempt that is made for a pairing in a session**: each step finds the host as the one before
has left it, whatever that one came to. -/
structure IsAttempt (p : Pairing) (s : Session) (t : Attempt) : Prop where
  clean : p.bitcode.absoluteClean s.host.currentPlace = .ok t.bitcode
  write : (writePayload t.bitcode).run.run s.host = (.ok t.payload, t.handed)
  work : runner.run s.commands (embedder.command p.object t.payload) t.handed
    = (t.verdict, t.worked)
  clear : (Host.removeFile t.payload).run.run t.worked = (t.removed, t.cleared)
  store : storing archive? t.bitcode t.cleared = (t.stored, t.left)

/-- **The courses that attaching can take**, with what it reports and the session that it leaves. -/
inductive Course (p : Pairing) (s : Session) : Attachment → Session → Prop
  | notAnObject {after : Session} (object : p.object.isObject = false)
      (host : after.host = s.host) (issued : after.issued = s.issued) :
    Course p s .notAnObject after
  | noPath {after : Session} {fault : Fault} (object : p.object.isObject = true)
      (path : p.bitcode.absoluteClean s.host.currentPlace = .error fault)
      (host : after.host = s.host) (issued : after.issued = s.issued) :
    Course p s .noPayload after
  | noPayload {after : Session} {bitcode : Path} {fault : Fault} (object : p.object.isObject = true)
      (path : p.bitcode.absoluteClean s.host.currentPlace = .ok bitcode)
      (write : (writePayload bitcode).run.run s.host = (.error fault, after.host))
      (issued : after.issued = s.issued) :
    Course p s .noPayload after
  | attempted {after : Session} (t : Attempt) (object : p.object.isObject = true)
      (attempt : IsAttempt runner embedder archive? p s t) (host : after.host = t.left)
      (issued : after.issued = s.issued ++ [t.issue embedder p]) :
    Course p s (.attempted t.verdict.isOk t.stored) after

theorem course_attachClean {p : Pairing} {s : Session} {bitcode : Path}
    (object : p.object.isObject = true)
    (path : p.bitcode.absoluteClean s.host.currentPlace = .ok bitcode) :
    Course runner embedder archive? p s
      ((attachClean runner embedder archive? p.object bitcode).run s).1
      ((attachClean runner embedder archive? p.object bitcode).run s).2 := by
  unfold attachClean
  rw [run_bind, run_onHost]
  generalize hwrite : (writePayload bitcode).run.run s.host = written
  obtain ⟨fault | payload, handed⟩ := written
  · exact .noPayload object path hwrite rfl
  -- from here on every step is made, whatever the one before has come to
  simp only
  generalize hfrom : ({ s with host := handed } : Session) = start
  have hhost : start.host = handed := by rw [← hfrom]
  have hcommands : start.commands = s.commands := by rw [← hfrom]; rfl
  have hissued : start.issued = s.issued := by rw [← hfrom]
  obtain ⟨hanswer, hadds, hcleared⟩ := run_embed runner embedder p.object payload start
  obtain ⟨hstored, hleft⟩ :=
    run_store archive? bitcode ((embed runner embedder p.object payload).run start).2
  have hquiet := quiet_store archive? bitcode ((embed runner embedder p.object payload).run start).2
  rw [hhost, hcommands] at hanswer hadds hcleared
  rw [hcleared] at hstored hleft
  rw [run_bind, run_bind, hanswer, hstored]
  generalize hwork : runner.run s.commands (embedder.command p.object payload) handed = answer
    at hadds hstored hleft ⊢
  generalize hclear : (Host.removeFile payload).run.run answer.2 = cleared at hstored hleft ⊢
  generalize hstore : storing archive? bitcode cleared.2 = storedAnswer at hstored hleft ⊢
  refine .attempted ⟨bitcode, payload, handed, answer.1, answer.2, cleared.1, cleared.2,
    storedAnswer.1, storedAnswer.2⟩ object ⟨path, hwrite, hwork, hclear, hstore⟩ hleft ?_
  show ((store archive? bitcode).run _).2.issued = _
  rw [hquiet, hadds, hissued, List.append_nil]
  rfl

/-- **What attaching does** is one of the four courses. -/
theorem course_attach (p : Pairing) (s : Session) :
    Course runner embedder archive? p s ((attach runner embedder archive? p).run s).1
      ((attach runner embedder archive? p).run s).2 := by
  unfold attach
  by_cases hobject : p.object.isObject = true
  · rw [if_pos hobject]
    cases hpath : p.bitcode.absoluteClean s.host.currentPlace with
    | error fault =>
        rw [run_bind, run_get, hpath]
        exact .noPath hobject hpath rfl rfl
    | ok bitcode =>
        rw [run_bind, run_get, hpath]
        exact course_attachClean runner embedder archive? hobject hpath
  · rw [if_neg hobject]
    exact .notAnObject (Bool.eq_false_iff.2 hobject) rfl rfl

/-! ## What is reported -/

variable {runner embedder archive?}
variable {p : Pairing} {s after : Session} {result : Attachment} {t : Attempt}

theorem Course.notAnObject_iff (h : Course runner embedder archive? p s result after) :
    result = .notAnObject ↔ p.object.isObject = false := by
  cases h with
  | notAnObject object => exact iff_of_true rfl object
  | noPath object => simp [object]
  | noPayload object => simp [object]
  | attempted t object => simp [object]

/-- Where every object is an object file, no pairing of a row is left alone. -/
theorem notAnObject_not_mem {pairings : List Pairing}
    (h : ∀ p ∈ pairings, p.object.isObject = true) (s : Session) :
    Attachment.notAnObject
      ∉ ((pairings.mapM (attach runner embedder archive?)).run s).1 := by
  induction pairings generalizing s with
  | nil => exact List.not_mem_nil
  | cons p rest ih =>
      rw [List.forall_mem_cons] at h
      rw [run_mapM_cons, List.mem_cons, not_or]
      refine ⟨fun hfirst => ?_, ih h.2 _⟩
      have hobject := (course_attach runner embedder archive? p s).notAnObject_iff.1 hfirst.symm
      rw [h.1] at hobject
      cases hobject

theorem Course.noPayload_iff (h : Course runner embedder archive? p s result after) :
    result = .noPayload ↔ p.object.isObject = true
      ∧ ((∃ fault, p.bitcode.absoluteClean s.host.currentPlace = .error fault)
        ∨ ∃ bitcode fault, p.bitcode.absoluteClean s.host.currentPlace = .ok bitcode
          ∧ ((writePayload bitcode).run.run s.host).1 = .error fault) := by
  cases h with
  | notAnObject object => simp [object]
  | noPath object path => exact iff_of_true rfl ⟨object, .inl ⟨_, path⟩⟩
  | noPayload object path write =>
      exact iff_of_true rfl ⟨object, .inr ⟨_, _, path, congrArg Prod.fst write⟩⟩
  | attempted t object attempt =>
      refine iff_of_false (by simp) ?_
      rintro ⟨-, ⟨fault, path⟩ | ⟨bitcode, fault, path, write⟩⟩
      · rw [attempt.clean] at path
        cases path
      · rw [attempt.clean] at path
        cases path
        rw [attempt.write] at write
        cases write

/-- The payload file of a pairing is that of the attempt that is made for it. -/
theorem IsAttempt.payload?_eq (h : IsAttempt runner embedder archive? p s t)
    (object : p.object.isObject = true) : p.payload? s.host = some t.payload := by
  unfold Pairing.payload?
  rw [if_pos object, h.clean]
  show ((writePayload t.bitcode).run.run s.host).1.toOption = _
  rw [h.write]
  rfl

theorem IsAttempt.stored_iff (h : IsAttempt runner embedder archive? p s t) (entry : Path) :
    t.stored = some entry ↔ ∃ a, archive? = some a ∧ entry = a.entry t.bitcode
      ∧ ((a.store t.bitcode).run.run t.cleared).1.isOk = true := by
  have hstore := congrArg Prod.fst h.store
  cases archive? with
  | none =>
      rw [show t.stored = none from hstore.symm]
      simp
  | some a =>
      rw [show t.stored = ((a.store t.bitcode).run.run t.cleared).1.toOption from hstore.symm]
      generalize hrun : (a.store t.bitcode).run.run t.cleared = answer
      obtain ⟨error | place, left⟩ := answer
      · simp [Except.toOption, Except.isOk, Except.toBool, hrun]
      · have hplace := Archive.store_ok hrun
        constructor
        · rintro ⟨rfl⟩
          exact ⟨a, rfl, hplace, by rw [hrun]; rfl⟩
        · rintro ⟨_, ⟨rfl⟩, rfl, -⟩
          exact congrArg some hplace

/-! ## What is left alone -/

/-- Where an absolute path leads does not depend on the current directory. -/
theorem placeOf_of_isAbsolute {path : Path} (habsolute : path.isAbsolute = true) (h h' : Host) :
    h'.placeOf path = h.placeOf path := by
  unfold Host.placeOf
  rw [Place.resolve_of_isAbsolute habsolute, Place.resolve_of_isAbsolute habsolute h.cwd.place]

theorem isAbsolute_created {path : Path} {h h' : Host}
    (hrun : (Host.createTemporaryFile temporaryLead h.temporaryDirectory).run.run h
      = (.ok path, h')) : path.isAbsolute = true := by
  obtain ⟨n, rfl⟩ := Host.isTemporary_of_makeDrawn Host.attempt_error hrun
  exact Host.isAbsolute_temporaryPath h n

/-- **Writing a payload** makes a file where nothing was, and changes nothing else. -/
theorem writePayload_makes {bitcode payload : Path} {h h' : Host} (hsound : h.Sound)
    (hrun : (writePayload bitcode).run.run h = (.ok payload, h')) :
    h.Keeps h' ∧ payload.isAbsolute = true ∧ h.nodeAt payload = none
      ∧ ∀ q, q ≠ h.placeOf payload → h'.files.get? q = h.files.get? q := by
  rcases run_writePayload hrun with ⟨fault, hfault, -⟩ | ⟨path, between, hcreate, hcases⟩
  · cases hfault
  rcases hcases with ⟨hresult, hwrite⟩ | ⟨⟨fault, hfault⟩, -⟩
  · cases hresult
    obtain ⟨hcreated, hnone, -, -, hmade⟩ :=
      Host.createTemporaryFile_makes Host.slash_not_mem_temporaryLead hsound hcreate
    obtain ⟨hkeeps, f, -, hwritten⟩ := Host.writeFile_makes hwrite
    refine ⟨hcreated.trans hkeeps, isAbsolute_created hcreate, hnone, fun q hq => ?_⟩
    rw [hwritten, hcreated.placeOf, if_neg hq, hmade, if_neg hq]
  · cases hfault

/-- **Storing** changes nothing but what is in the archive, and makes directories on the way to it
where there is nothing. -/
theorem storing_spares (archive? : Option Archive) (bitcode : Path) {h : Host} (hsound : h.Sound)
    (q : Place) :
    (storing archive? bitcode h).2.files.get? q = h.files.get? q
    ∨ ∃ a ∈ archive?, h.placeOf a.root <+: q
      ∨ Host.Made a.root h (storing archive? bitcode h).2 q := by
  cases archive? with
  | none => exact .inl rfl
  | some a =>
      obtain ⟨σ, hstore, hhost, -⟩ := Archive.exists_run_store a bitcode h
      have ho := Archive.Calls.orderly_run hsound hstore.alone
      rw [show (storing (some a) bitcode h).2 = σ.host from hhost.symm]
      rcases Archive.spares_alone hsound hstore.alone q with (hsame | hmade) | ⟨copy, hcopy, hq⟩
          | ⟨-, hq⟩
      · exact .inl hsame
      · exact .inr ⟨a, rfl, .inr hmade⟩
      · obtain ⟨n, hn⟩ := (ho.holds () copy hcopy).1
        rw [ho.keeps.placeOf, ho.keeps.placeOf] at hn
        refine .inr ⟨a, rfl, .inl ?_⟩
        rw [hq, hn]
        exact List.prefix_append _ _
      · refine .inr ⟨a, rfl, .inl ?_⟩
        rw [hq, Archive.placeOf_entry]
        exact List.prefix_append _ _

/-- **What an attempt leaves alone**: every place but those that the command has changed, that of a
payload that is left behind, those in the archive, and those where a directory on the way to the
archive was missing. -/
theorem IsAttempt.spares (h : IsAttempt runner embedder archive? p s t) (hsound : s.host.Sound)
    (hworked : t.worked.Sound) (q : Place) :
    t.left.files.get? q = s.host.files.get? q
    ∨ t.worked.files.get? q ≠ t.handed.files.get? q
    ∨ (t.removed.isOk = false ∧ q = s.host.placeOf t.payload)
    ∨ ∃ a ∈ archive?, t.cleared.placeOf a.root <+: q ∨ Host.Made a.root t.cleared t.left q := by
  obtain ⟨-, habsolute, hnone, hwritten⟩ := writePayload_makes hsound h.write
  have hplace : t.worked.placeOf t.payload = s.host.placeOf t.payload :=
    placeOf_of_isAbsolute habsolute _ _
  by_cases hsame : t.worked.files.get? q = t.handed.files.get? q
  swap
  · exact .inr (.inl hsame)
  -- what the removal of the payload leaves at this place, and whether the host is in order after it
  have hcleared : t.cleared.Sound ∧ (t.cleared.files.get? q = s.host.files.get? q
      ∨ (t.removed.isOk = false ∧ q = s.host.placeOf t.payload)) := by
    have hclear := h.clear
    generalize t.removed = removed at hclear ⊢
    cases removed with
    | error fault =>
        rw [Host.attempt_error hclear]
        refine ⟨hworked, ?_⟩
        by_cases hq : q = s.host.placeOf t.payload
        · exact .inr ⟨rfl, hq⟩
        · exact .inl (hsame.trans (hwritten q hq))
    | ok =>
        obtain ⟨hkeeps, -, hgone⟩ := Host.removeFile_makes hworked hclear
        refine ⟨hkeeps.sound hworked, .inl ?_⟩
        rw [hgone, hplace]
        by_cases hq : q = s.host.placeOf t.payload
        · rw [if_pos hq, hq]
          exact hnone.symm
        · rw [if_neg hq, hsame, hwritten q hq]
  obtain ⟨hsoundCleared, hbefore⟩ := hcleared
  have hstoring := storing_spares archive? t.bitcode hsoundCleared q
  rw [h.store] at hstoring
  rcases hstoring with hstored | harchive
  · rcases hbefore with hbefore | hbehind
    · exact .inl (hstored.trans hbefore)
    · exact .inr (.inr (.inl hbehind))
  · exact .inr (.inr (.inr harchive))

/-! ## What attaching reports -/

variable (runner embedder archive?) in
/-- **What a report of an attempt tells**, by the attempt behind it. -/
structure ReportsOn (p : Pairing) (s : Session) (embedded : Bool) (stored : Option Path)
    (after : Session) (t : Attempt) : Prop where
  attempt : IsAttempt runner embedder archive? p s t
  host : after.host = t.left
  /-- One command is issued. -/
  issued : after.issued = s.issued ++ [t.issue embedder p]
  /-- It works on the object by the name that the pairing has for it. -/
  object : (t.issue embedder p).command.arguments.getLast? = some p.object.text
  /-- It names a payload file, which is there and holds the payload. -/
  payload : embedder.payloadOf? (t.issue embedder p).command = some t.payload
    ∧ t.handed.contentAt? t.payload = some (payloadOf t.bitcode)
  embedded_eq : embedded = t.verdict.isOk
  /-- Whatever became of the command and the removal, storing is tried, and its entry is reported. -/
  stored_iff : ∀ entry, stored = some entry ↔ ∃ a, archive? = some a
    ∧ entry = a.entry t.bitcode ∧ ((a.store t.bitcode).run.run t.cleared).1.isOk = true
  spares : s.host.Sound → t.worked.Sound → ∀ q,
    t.left.files.get? q = s.host.files.get? q
    ∨ t.worked.files.get? q ≠ t.handed.files.get? q
    ∨ (t.removed.isOk = false ∧ q = s.host.placeOf t.payload)
    ∨ ∃ a ∈ archive?, t.cleared.placeOf a.root <+: q ∨ Host.Made a.root t.cleared t.left q

/-- A pairing has a payload exactly if an attempt is made for it. -/
theorem Course.isSome_payload? (h : Course runner embedder archive? p s result after) :
    (p.payload? s.host).isSome = true ↔ ∃ embedded stored, result = .attempted embedded stored := by
  cases h with
  | notAnObject object => simp [Pairing.payload?, object]
  | noPath object path => simp [Pairing.payload?, object, path]
  | noPayload object path write =>
      have hnone : ((writePayload _).run.run s.host).1 = _ := congrArg Prod.fst write
      simp only [Pairing.payload?, object, path, if_true]
      rw [hnone]
      simp [Except.toOption]
  | attempted t object attempt =>
      rw [attempt.payload?_eq object]
      exact iff_of_true rfl ⟨_, _, rfl⟩

/-- What is reported as stored is the entry of the bitcode. -/
theorem IsAttempt.stored_eq (h : IsAttempt runner embedder archive? p s t) :
    t.stored = if t.stored.isSome then archive?.map fun a => a.entry t.bitcode else none := by
  cases hstored : t.stored with
  | none => rfl
  | some entry =>
      obtain ⟨a, rfl, rfl, -⟩ := (h.stored_iff entry).1 hstored
      rfl

/-- **Two reports on one pairing** are the same if the steps of the two attempts come to the same. -/
theorem Course.same {s' after' : Session} {result' : Attachment}
    (h : Course runner embedder archive? p s result after)
    (h' : Course runner embedder archive? p s' result' after')
    (hplace : s'.host.currentPlace = s.host.currentPlace)
    (hpayload : (p.payload? s'.host).isSome = (p.payload? s.host).isSome)
    (hsteps : ∀ t t', IsAttempt runner embedder archive? p s t →
      IsAttempt runner embedder archive? p s' t' →
      t'.verdict.isOk = t.verdict.isOk ∧ t'.stored.isSome = t.stored.isSome) :
    result' = result := by
  have hattempts := h'.isSome_payload?
  rw [hpayload, h.isSome_payload?] at hattempts
  cases h with
  | notAnObject object => exact h'.notAnObject_iff.2 object
  | noPath object path =>
      rw [h'.noPayload_iff, hplace]
      exact ⟨object, .inl ⟨_, path⟩⟩
  | noPayload object path =>
      -- no payload, so it is an error again, if perhaps another one
      cases h' with
      | notAnObject object' =>
          rw [object] at object'
          cases object'
      | noPath => rfl
      | noPayload => rfl
      | attempted t' =>
          obtain ⟨_, _, hresult⟩ := hattempts.2 ⟨_, _, rfl⟩
          cases hresult
  | attempted t object attempt =>
      obtain ⟨embedded, stored, rfl⟩ := hattempts.1 ⟨_, _, rfl⟩
      cases h' with
      | attempted t' _ attempt' =>
          obtain ⟨hverdict, hstored⟩ := hsteps t t' attempt attempt'
          have hbitcode : t'.bitcode = t.bitcode := by
            have hclean := attempt'.clean
            rw [hplace, attempt.clean] at hclean
            exact (Except.ok.inj hclean).symm
          rw [attempt.stored_eq, attempt'.stored_eq, hverdict, hstored, hbitcode]

/-- A session on a host that takes no file away; the next temporary file has a number. -/
def hindered (serial : Nat) : Session where
  host :=
    { twoSources.host with
      serial
      refuses := fun
        | .removeFile _ => some .noEntry
        | _ => none }

end Attachment

end TwinBuild
