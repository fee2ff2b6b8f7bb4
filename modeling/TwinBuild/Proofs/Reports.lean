import Mathlib.Data.List.Forall2
import TwinBuild.Replay

/-!
# Reports and the verdicts behind them

The reports on the sources are read off one list of verdicts, in the order of the jobs. This module
cuts that list into the answers to the single plans. What a report says of a source then depends on
the answer to its own plan alone.

Main statements: `exists_answers`, every full list of verdicts is a list of answers, and
`hasFailures_reports`, a report shows a failure exactly if some verdict is one.
-/

namespace TwinBuild.Replay

/-- The verdicts on the jobs that one plan holds. -/
structure Answer where
  object : Option Verdict
  bitcode : Option Verdict

/-- The verdicts of an answer, in the order of the jobs. -/
def Answer.verdicts (a : Answer) : List Verdict := a.object.toList ++ a.bitcode.toList

namespace Plan

/-- An answer has a verdict for each job of the plan and no other. -/
def Answered (p : Plan) (a : Answer) : Prop :=
  a.object.isSome = p.objectJob.isSome ∧ a.bitcode.isSome = p.bitcodeJob.isSome

/-- What an answer says of the source of a plan. -/
def report (p : Plan) (a : Answer) : SourceReport :=
  ⟨p.source, p.artifact, .ofVerdict a.object, .ofVerdict a.bitcode⟩

/-- The bitcode of the source of a plan: what the bitcode job makes, or the source itself. -/
def bitcodePath (p : Plan) : Path :=
  if p.bitcodeJob.isSome then p.artifact.bitcode else p.source

/-- The pair that a plan makes of its source if none of its jobs fails. -/
def pairing (p : Plan) : Pairing := ⟨p.bitcodePath, p.artifact.object⟩

/-- The object that a plan makes if its object job does not fail. -/
def newObject? (p : Plan) : Option Path :=
  if p.objectJob.isSome then some p.artifact.object else none

end Plan

/-! ## One plan -/

theorem takeVerdict_append {job : Option Job} {v : Option Verdict} (h : v.isSome = job.isSome)
    (rest : List Verdict) : takeVerdict job (v.toList ++ rest) = (v, rest) := by
  cases job <;> cases v
  case none.none => rfl
  case none.some => cases h
  case some.none => cases h
  case some.some => rfl

/-- The first plan takes the verdicts on its own jobs and leaves the rest. -/
theorem reports_cons {p : Plan} {a : Answer} (h : p.Answered a) (plans : List Plan)
    (rest : List Verdict) :
    reports (p :: plans) (a.verdicts ++ rest) = p.report a :: reports plans rest := by
  rw [Answer.verdicts, List.append_assoc]
  simp only [reports, takeVerdict_append h.1, takeVerdict_append h.2]
  rfl

/-- Verdicts enough for a job that a plan may hold begin with the one on it. -/
theorem exists_verdict_append (job : Option Job) (verdicts : List Verdict)
    (h : job.toList.length ≤ verdicts.length) :
    ∃ (v : Option Verdict) (rest : List Verdict), v.isSome = job.isSome
      ∧ verdicts = v.toList ++ rest ∧ verdicts.length = job.toList.length + rest.length := by
  cases job with
  | none => exact ⟨none, verdicts, rfl, rfl, (Nat.zero_add _).symm⟩
  | some _ =>
      obtain _ | ⟨v, rest⟩ := verdicts
      · cases h
      · exact ⟨some v, rest, rfl, rfl, Nat.add_comm _ _⟩

/-- Verdicts enough for a plan begin with an answer to it. -/
theorem exists_answer_append (p : Plan) (verdicts : List Verdict)
    (h : p.jobs.length ≤ verdicts.length) :
    ∃ a rest, p.Answered a ∧ verdicts = a.verdicts ++ rest
      ∧ verdicts.length = p.jobs.length + rest.length := by
  rw [Plan.jobs, List.length_append] at h ⊢
  obtain ⟨object, rest, hobject, rfl, hlength⟩ :=
    exists_verdict_append p.objectJob verdicts (by omega)
  obtain ⟨bitcode, rest, hbitcode, rfl, hlength'⟩ :=
    exists_verdict_append p.bitcodeJob rest (by omega)
  exact ⟨⟨object, bitcode⟩, rest, ⟨hobject, hbitcode⟩, (List.append_assoc _ _ _).symm, by omega⟩

theorem hasFailed_report (p : Plan) (a : Answer) :
    (p.report a).hasFailed = a.verdicts.any fun v => !v.isOk := by
  obtain ⟨_ | _ | _, _ | _ | _⟩ := a <;> rfl

theorem bitcodePath_report {p : Plan} {a : Answer} (h : p.Answered a) :
    (p.report a).bitcodePath = p.bitcodePath := by
  unfold Plan.bitcodePath
  rw [← h.2]
  obtain ⟨object, _ | _ | _⟩ := a <;> rfl

theorem newObject?_report {p : Plan} {a : Answer} (h : p.Answered a)
    (hok : ∀ v ∈ a.verdicts, v.isOk = true) : (p.report a).newObject? = p.newObject? := by
  unfold Plan.newObject?
  rw [← h.1]
  obtain ⟨_ | e | _, bitcode⟩ := a
  · rfl
  · exact absurd (hok (.error e) (by simp [Answer.verdicts])) (by simp [Except.isOk, Except.toBool])
  · rfl

theorem pairing?_report {p : Plan} {a : Answer} (h : p.Answered a)
    (hok : ∀ v ∈ a.verdicts, v.isOk = true) : (p.report a).pairing? = some p.pairing := by
  have hfailed : (p.report a).hasFailed = false := by
    rw [hasFailed_report, List.any_eq_false]
    intro v hv
    rw [hok v hv]
    decide
  unfold SourceReport.pairing? Plan.pairing
  rw [hfailed, bitcodePath_report h]
  rfl

/-! ## All plans -/

/-- **Every full list of verdicts is a list of answers**, one for each plan, and each report says
what the answer to its plan says. -/
theorem exists_answers (plans : List Plan) (verdicts : List Verdict)
    (h : verdicts.length = (plans.flatMap Plan.jobs).length) :
    ∃ answers, List.Forall₂ Plan.Answered plans answers
      ∧ verdicts = answers.flatMap Answer.verdicts
      ∧ reports plans verdicts = List.zipWith Plan.report plans answers := by
  induction plans generalizing verdicts with
  | nil =>
      rw [List.length_eq_zero_iff.1 h]
      exact ⟨[], .nil, rfl, rfl⟩
  | cons p plans ih =>
      rw [List.flatMap_cons, List.length_append] at h
      -- the answer to the first plan comes off, and what is left is full for the other plans
      obtain ⟨a, rest, ha, rfl, hrest⟩ := exists_answer_append p verdicts (by omega)
      obtain ⟨answers, hanswers, rfl, hreports⟩ := ih rest (by omega)
      refine ⟨a :: answers, .cons ha hanswers, rfl, ?_⟩
      rw [reports_cons ha, hreports]
      rfl

/-- **A report shows a failure exactly if some verdict is one.** -/
theorem hasFailures_reports {plans : List Plan} {verdicts : List Verdict}
    (h : verdicts.length = (plans.flatMap Plan.jobs).length) :
    hasFailures (reports plans verdicts) = verdicts.any fun v => !v.isOk := by
  obtain ⟨answers, hanswers, rfl, hreports⟩ := exists_answers plans verdicts h
  rw [hreports]
  clear h hreports
  induction hanswers with
  | nil => rfl
  | @cons p a plans answers _ _ ih =>
      rw [List.flatMap_cons, List.any_append, ← ih, ← hasFailed_report p a]
      rfl

/-- The bitcode paths of the reports are those of the plans, whatever failed. -/
theorem map_bitcodePath_reports {plans : List Plan} {verdicts : List Verdict}
    (h : verdicts.length = (plans.flatMap Plan.jobs).length) :
    (reports plans verdicts).map SourceReport.bitcodePath = plans.map Plan.bitcodePath := by
  obtain ⟨answers, hanswers, rfl, hreports⟩ := exists_answers plans verdicts h
  rw [hreports]
  clear h hreports
  induction hanswers with
  | nil => rfl
  | cons ha _ ih =>
      rw [List.zipWith_cons_cons, List.map_cons, List.map_cons, ih, bitcodePath_report ha]

theorem map_source_reports (plans : List Plan) (verdicts : List Verdict) :
    (reports plans verdicts).map SourceReport.source = plans.map Plan.source := by
  induction plans generalizing verdicts with
  | nil => rfl
  | cons p plans ih =>
      rw [reports, List.map_cons, List.map_cons, ih]

/-- If nothing failed, every source is paired and every object job made its object. -/
theorem pairings_and_newObjects_reports {plans : List Plan} {verdicts : List Verdict}
    (h : verdicts.length = (plans.flatMap Plan.jobs).length)
    (hok : ∀ v ∈ verdicts, v.isOk = true) :
    pairings (reports plans verdicts) = plans.map Plan.pairing
      ∧ newObjects (reports plans verdicts) = plans.filterMap Plan.newObject? := by
  obtain ⟨answers, hanswers, rfl, hreports⟩ := exists_answers plans verdicts h
  rw [hreports]
  clear h hreports
  induction hanswers with
  | nil => exact ⟨rfl, rfl⟩
  | cons ha _ ih =>
      rw [List.flatMap_cons, List.forall_mem_append] at hok
      obtain ⟨hpairings, hobjects⟩ := ih hok.2
      constructor
      · rw [List.zipWith_cons_cons, pairings, List.filterMap_cons, pairing?_report ha hok.1,
          List.map_cons, ← hpairings]
        rfl
      · rw [List.zipWith_cons_cons, newObjects, List.filterMap_cons, newObject?_report ha hok.1,
          List.filterMap_cons, ← hobjects]
        rfl

end TwinBuild.Replay
