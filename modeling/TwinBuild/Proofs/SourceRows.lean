import TwinBuild.Proofs.Extensions

/-!
# What a replay does for each source

A replay has a row for each source: the entries of the commands it issued for that source. The rows
one after the other are all that it adds to the journal, and which commands they hold is known
before any is run. Everything that is read off the reports afterwards is a view of the same rows:
the failures, the pairs to attach and the new objects.

Main statement: `run_by_source`.
-/

namespace TwinBuild

open Session

namespace Replay

/-- The entries of a replay for one source. -/
structure Row where
  object : Option Issue
  bitcode : Option Issue

namespace Row

variable (row : Row)

/-- The entries of a row, in order. -/
def entries : List Issue := row.object.toList ++ row.bitcode.toList

/-- The verdicts of a row as an answer to a plan. -/
def answer : Answer := ⟨row.object.map Issue.verdict, row.bitcode.map Issue.verdict⟩

/-- Whether a command of the row failed. -/
def hasFailed : Bool := row.entries.any fun entry => !entry.verdict.isOk

/-- Whether the object was made. -/
def madeObject : Bool := row.object.any fun entry => entry.verdict.isOk

theorem verdicts_answer : row.answer.verdicts = row.entries.map Issue.verdict := by
  rw [entries, List.map_append, ← Option.toList_map, ← Option.toList_map]
  rfl

end Row

/-- The row of a plan: it has the commands of the plan's jobs. -/
structure Plan.IssuedAs (p : Plan) (row : Row) : Prop where
  object : row.object.map Issue.command = p.objectJob.map Job.command
  bitcode : row.bitcode.map Issue.command = p.bitcodeJob.map Job.command

namespace Plan

variable {p : Plan} {row : Row}

theorem IssuedAs.answered (h : p.IssuedAs row) : p.Answered row.answer := by
  have hobject := congrArg Option.isSome h.object
  have hbitcode := congrArg Option.isSome h.bitcode
  rw [Option.isSome_map, Option.isSome_map] at hobject hbitcode
  constructor
  · rw [← hobject]
    exact Option.isSome_map
  · rw [← hbitcode]
    exact Option.isSome_map

/-- The report on a row pairs its source unless a command of the row failed. -/
theorem IssuedAs.pairing?_report (h : p.IssuedAs row) :
    (p.report row.answer).pairing? = if !row.hasFailed then some p.pairing else none := by
  have hfailed : (p.report row.answer).hasFailed = row.hasFailed := by
    rw [hasFailed_report, Row.verdicts_answer, List.any_map]
    rfl
  unfold SourceReport.pairing?
  rw [hfailed, bitcodePath_report h.answered]
  cases row.hasFailed <;> rfl

/-- The report on a row has a new object if it was made. -/
theorem newObject?_report_row (p : Plan) (row : Row) :
    (p.report row.answer).newObject?
      = if row.madeObject then some p.artifact.object else none := by
  obtain ⟨object, bitcode⟩ := row
  cases object with
  | none => rfl
  | some entry =>
      obtain ⟨command, before, verdict⟩ := entry
      cases verdict <;> rfl

end Plan

/-! ## The rows of a journal -/

/-- A list that an optional element is mapped to comes from an optional element. -/
theorem exists_option_of_map {α β : Type} {f : α → β} {xs : List α} {y : Option β}
    (h : xs.map f = y.toList) : ∃ x : Option α, xs = x.toList ∧ x.map f = y := by
  cases y with
  | none => exact ⟨none, List.map_eq_nil_iff.1 h, rfl⟩
  | some y =>
      obtain ⟨x, rfl, rfl⟩ := List.map_eq_singleton_iff.1 h
      exact ⟨some x, rfl, rfl⟩

/-- **Entries fall into rows.** Entries with the commands of the jobs of some plans are the rows of
these plans, one after the other. -/
theorem exists_rows {plans : List Plan} {entries : List Issue}
    (h : entries.map Issue.command = (plans.flatMap Plan.jobs).map Job.command) :
    ∃ rows, List.Forall₂ Plan.IssuedAs plans rows ∧ entries = rows.flatMap Row.entries := by
  induction plans generalizing entries with
  | nil => exact ⟨[], .nil, List.map_eq_nil_iff.1 h⟩
  | cons p plans ih =>
      rw [List.flatMap_cons, List.map_append, Plan.jobs, List.map_append, List.append_assoc,
        ← Option.toList_map, ← Option.toList_map] at h
      -- the object entry, the bitcode entry, and then the rows of the other plans
      obtain ⟨objects, rest, rfl, hobjects, hrest⟩ := List.map_eq_append_iff.1 h
      obtain ⟨bitcodes, rest, rfl, hbitcodes, htail⟩ := List.map_eq_append_iff.1 hrest
      obtain ⟨object, rfl, hobject⟩ := exists_option_of_map hobjects
      obtain ⟨bitcode, rfl, hbitcode⟩ := exists_option_of_map hbitcodes
      obtain ⟨rows, hrows, rfl⟩ := ih htail
      refine ⟨⟨object, bitcode⟩ :: rows, .cons ⟨hobject, hbitcode⟩ hrows, ?_⟩
      exact (List.append_assoc _ _ _).symm

variable {plans : List Plan} {rows : List Row}

/-- The reports on rows are read off row by row. -/
theorem reports_rows (h : List.Forall₂ Plan.IssuedAs plans rows) :
    reports plans ((rows.flatMap Row.entries).map Issue.verdict)
      = List.zipWith (fun p row => p.report row.answer) plans rows := by
  induction h with
  | nil => rfl
  | @cons p row plans rows hrow _ ih =>
      rw [List.flatMap_cons, List.map_append, ← Row.verdicts_answer, reports_cons hrow.answered, ih]
      rfl

/-- What a filter takes from the reports, it takes from the plans by their rows. -/
theorem filterMap_reports_rows {α : Type} {view : SourceReport → Option α} {keep : Row → Bool}
    {value : Plan → α} (h : List.Forall₂ Plan.IssuedAs plans rows)
    (hview : ∀ p row, Plan.IssuedAs p row →
      view (p.report row.answer) = if keep row then some (value p) else none) :
    (reports plans ((rows.flatMap Row.entries).map Issue.verdict)).filterMap view
      = (((plans.map value).zip rows).filter fun e => keep e.2).map Prod.fst := by
  rw [reports_rows h]
  induction h with
  | nil => rfl
  | @cons p row plans rows hrow _ ih =>
      rw [List.zipWith_cons_cons, List.filterMap_cons, hview p row hrow, ih, List.map_cons,
        List.zip_cons_cons, List.filter_cons]
      cases keep row <;> rfl

/-! ## A whole replay -/

/-- **The report on a source and the commands behind it.** The row has the commands that the recipe
has for the source, and the steps of the report are the verdicts on these; a step is skipped exactly
if there is no command for it. -/
structure Recipe.ReportsOn (r : Recipe) (i : Invocation) (naming : Naming) (index : Nat)
    (source : Path) (row : Row) (report : SourceReport) : Prop where
  source_eq : report.source = source
  artifact_eq : report.artifact = i.artifactOf naming index source
  object_command : row.object.map Issue.command
    = if makesObjects naming then
        some (r.objectCommand i source (i.artifactOf naming index source).object)
      else none
  bitcode_command : row.bitcode.map Issue.command
    = if source.isBitcode then none
      else some (r.bitcodeCommand i source (i.artifactOf naming index source).bitcode)
  object_step : report.object = .ofVerdict (row.object.map Issue.verdict)
  bitcode_step : report.bitcode = .ofVerdict (row.bitcode.map Issue.verdict)
  object_skipped : report.object = .skipped ↔ row.object = none
  bitcode_skipped : report.bitcode = .skipped ↔ row.bitcode = none

theorem Step.ofVerdict_eq_skipped_iff (entry : Option Issue) :
    Step.ofVerdict (entry.map Issue.verdict) = .skipped ↔ entry = none := by
  cases entry with
  | none => exact iff_of_true rfl rfl
  | some entry =>
      obtain ⟨command, before, verdict⟩ := entry
      cases verdict <;> simp [Step.ofVerdict]

variable (r : Recipe) (i : Invocation) (naming : Naming)

theorem reportsOn_of_issuedAs {index : Nat} {source : Path} {row : Row}
    (h : (r.plan i naming index source).IssuedAs row) :
    r.ReportsOn i naming index source row
      ((r.plan i naming index source).report row.answer) where
  source_eq := rfl
  artifact_eq := rfl
  object_command := by
    rw [h.object, Recipe.plan]
    cases makesObjects naming <;> rfl
  bitcode_command := by
    rw [h.bitcode, Recipe.plan]
    cases source.isBitcode <;> rfl
  object_step := rfl
  bitcode_step := rfl
  object_skipped := Step.ofVerdict_eq_skipped_iff row.object
  bitcode_skipped := Step.ofVerdict_eq_skipped_iff row.bitcode

variable {r i naming} in
/-- A row belongs to the source with its number. -/
theorem issuedAs_of_getElem? {rows : List Row}
    (h : List.Forall₂ Plan.IssuedAs (r.plans i naming) rows) {index : Nat} {row : Row}
    (hrow : rows[index]? = some row) :
    ∃ source, i.sources[index]? = some source
      ∧ (r.plan i naming index source).IssuedAs row := by
  obtain ⟨hindex, hrow⟩ := List.getElem?_eq_some_iff.1 hrow
  have hlength : index < (r.plans i naming).length := by
    rw [h.length_eq]
    exact hindex
  have hsources : index < i.sources.length := by
    rwa [Recipe.plans, List.length_mapIdx] at hlength
  have hissued := (List.forall₂_iff_get.1 h).2 index hlength hindex
  rw [List.get_eq_getElem, List.get_eq_getElem, hrow] at hissued
  refine ⟨_, List.getElem?_eq_getElem hsources, ?_⟩
  simpa [Recipe.plans] using hissued

/-- The rows of the plans, by the numbers of the sources. -/
theorem reportsOn_of_rows {rows : List Row}
    (h : List.Forall₂ Plan.IssuedAs (r.plans i naming) rows) {index : Nat} {source : Path}
    {row : Row} {report : SourceReport} (hsource : i.sources[index]? = some source)
    (hrow : rows[index]? = some row)
    (hreport : (reports (r.plans i naming)
      ((rows.flatMap Row.entries).map Issue.verdict))[index]? = some report) :
    r.ReportsOn i naming index source row report := by
  obtain ⟨source', hsource', hissued⟩ := issuedAs_of_getElem? h hrow
  rw [hsource] at hsource'
  cases hsource'
  have hplan : (r.plans i naming)[index]? = some (r.plan i naming index source) := by
    rw [Recipe.plans, List.getElem?_mapIdx, hsource, Option.map_some]
  rw [reports_rows h, List.getElem?_zipWith, hplan, hrow] at hreport
  cases hreport
  exact reportsOn_of_issuedAs r i naming hissued

theorem map_object_plans :
    (r.plans i naming).map (fun p => p.artifact.object) = i.objects naming := by
  rw [Recipe.plans, map_mapIdx]
  rfl

theorem map_object_pairings : (i.pairings naming).map Pairing.object = i.objects naming := by
  rw [Invocation.pairings, map_mapIdx]
  rfl

/-- Without a failure, what is paired and what is new is the same objects. -/
theorem views_of_no_failure {verdicts : List Verdict} (hmakes : makesObjects naming = true)
    (hlength : verdicts.length = ((r.plans i naming).flatMap Plan.jobs).length)
    (hfailures : hasFailures (reports (r.plans i naming) verdicts) = false) :
    pairings (reports (r.plans i naming) verdicts) = i.pairings naming
    ∧ newObjects (reports (r.plans i naming) verdicts) = i.objects naming := by
  have hok : ∀ v ∈ verdicts, v.isOk = true := by
    rw [hasFailures_reports hlength, List.any_eq_false] at hfailures
    intro v hv
    simpa using hfailures v hv
  obtain ⟨hpairings, hobjects⟩ := pairings_and_newObjects_reports hlength hok
  rw [hpairings, hobjects, map_pairing_plans, filterMap_newObject?_plans r i naming hmakes]
  exact ⟨rfl, rfl⟩

/-- **What is read off the reports**, by the rows behind them. -/
structure Views (i : Invocation) (naming : Naming) (rows : List Row) (rs : List SourceReport) :
    Prop where
  /-- There are failures exactly if a command failed. -/
  failures : hasFailures rs = true ↔ ∃ entry ∈ rows.flatMap Row.entries, entry.verdict.isOk = false
  /-- The pairs are those of the sources without a failure, in order. -/
  pairs : pairings rs
    = (((i.pairings naming).zip rows).filter fun e => !e.2.hasFailed).map Prod.fst
  /-- Every pair has a bitcode file. -/
  bitcode : ∀ pairing ∈ pairings rs, pairing.bitcode.extension = some bitcodeExtension
  /-- The new objects are those that were made, in order. -/
  objects : newObjects rs
    = (((i.objects naming).zip rows).filter fun e => e.2.madeObject).map Prod.fst
  /-- Without a failure, the pairs and the new objects are of all sources, with the same objects. -/
  complete : makesObjects naming = true → hasFailures rs = false →
    (pairings rs).map Pairing.object = newObjects rs ∧ (newObjects rs).length = i.sources.length

theorem views_of_rows {rows : List Row} (h : List.Forall₂ Plan.IssuedAs (r.plans i naming) rows)
    (hlength : ((rows.flatMap Row.entries).map Issue.verdict).length
      = ((r.plans i naming).flatMap Plan.jobs).length) :
    Views i naming rows
      (reports (r.plans i naming) ((rows.flatMap Row.entries).map Issue.verdict)) := by
  have hpairs := filterMap_reports_rows h fun p row hrow => Plan.IssuedAs.pairing?_report hrow
  rw [map_pairing_plans] at hpairs
  have hobjects := filterMap_reports_rows h fun p row _ => Plan.newObject?_report_row p row
  rw [map_object_plans] at hobjects
  refine ⟨?_, hpairs, ?_, hobjects, ?_⟩
  · rw [hasFailures_reports hlength, List.any_map, List.any_eq_true]
    simp
  · intro pairing hpairing
    rw [pairings, hpairs] at hpairing
    obtain ⟨⟨_, row⟩, hkept, rfl⟩ := List.mem_map.1 hpairing
    have hmem := (List.of_mem_zip (List.mem_filter.1 hkept).1).1
    obtain ⟨index, hindex, heq⟩ := List.mem_mapIdx.1 hmem
    rw [← heq]
    exact beq_iff_eq.1 (i.isBitcode_bitcodeOf naming index i.sources[index])
  · intro hmakes hfailures
    obtain ⟨hpairings, hobjects⟩ := views_of_no_failure r i naming hmakes hlength hfailures
    rw [hpairings, hobjects]
    exact ⟨map_object_pairings i naming, List.length_mapIdx⟩

/-- **A replay does not stop at a failure, and its views agree.** Its commands are the same whatever
any of them comes to. There is one report for each source, on a row of commands of its own, and what
is read off the reports is read off the rows: the failures, the pairs, and the new objects. -/
theorem run_by_source :
    ∃ commands : List Command, ∀ (runner : Runner) (s : Session),
      ((Replay.run runner r i naming).run s).2.commands = s.commands ++ commands
      ∧ ∃ (rows : List Row) (rs : List SourceReport),
        ((Replay.run runner r i naming).run s).1 = rs
        ∧ Adds (Replay.run runner r i naming) s (rows.flatMap Row.entries)
        ∧ rows.length = i.sources.length ∧ rs.length = i.sources.length
        ∧ (∀ index source row report, i.sources[index]? = some source →
          rows[index]? = some row → rs[index]? = some report →
          r.ReportsOn i naming index source row report)
        ∧ Views i naming rows rs := by
  refine ⟨((r.plans i naming).flatMap Plan.jobs).map Job.command, fun runner s => ?_⟩
  obtain ⟨entries, hjobs, hcommands, hverdicts⟩ :=
    Job.exists_adds_mapM runner ((r.plans i naming).flatMap Plan.jobs) s
  obtain ⟨rows, hrows, rfl⟩ := exists_rows hcommands
  have hrun : ((Replay.run runner r i naming).run s).1
      = reports (r.plans i naming) ((rows.flatMap Row.entries).map Issue.verdict) := by
    rw [hverdicts]
    rfl
  have hadds : Adds (Replay.run runner r i naming) s (rows.flatMap Row.entries) :=
    hjobs.then_quiet fun _ => quiet_pure _
  have hplans : (r.plans i naming).length = i.sources.length := List.length_mapIdx
  have hlength : ((rows.flatMap Row.entries).map Issue.verdict).length
      = ((r.plans i naming).flatMap Plan.jobs).length := by
    rw [hverdicts, Job.length_verdicts]
  refine ⟨?_, rows, _, hrun, hadds, ?_, ?_, ?_, views_of_rows r i naming hrows hlength⟩
  · rw [commands, hadds, List.map_append, hcommands]
    rfl
  · rw [← hrows.length_eq, hplans]
  · rw [length_reports, hplans]
  · intro index source row report
    exact reportsOn_of_rows r i naming hrows

end Replay

end TwinBuild
