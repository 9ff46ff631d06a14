import Mathlib.Algebra.GroupWithZero.Nat
import Mathlib.Data.List.DropRight
import Crosslink.Proofs.Session.Consistency
import Crosslink.Proofs.Session.Listing

/-!
# The reporter as a log

Issues are kept page by page, and pages come to have issues in any order. All that is asked about
issues is nevertheless told by the plain list of those that were reported since the last reset, also
where a strict policy made every report fail: the issue is recorded before the report fails.
-/

namespace Crosslink

/-! ## What a log tells -/

namespace IssueLog

/-- What a log answers is told by the issues in the order in which they were reported. -/
structure Tells (log : IssueLog) (told : List Issue) : Prop where
  issues : log.issues = told.mergeSort fun i j => i.sourceFile.le j.sourceFile
  forFile : ∀ file, log.forFile file = told.filter fun i => decide (i.sourceFile = file)
  hasIssues : log.hasIssues = true ↔ log.issues ≠ []
  counts : ∀ kind n,
    (kind, n) ∈ log.counts ↔ n = told.countP (fun i => decide (i.kind = kind)) ∧ n ≠ 0
  kinds : (log.counts.map (·.1)).Nodup
  sum : (log.counts.map (·.2)).sum = log.issues.length

variable {log : IssueLog} {told : List Issue}

theorem pairwise_issues (log : IssueLog) :
    log.issues.Pairwise fun i j => i.sourceFile.le j.sourceFile = true := by
  have hrefl : ∀ file : Path, file.le file = true := fun file => by
    simpa using Path.le_total file file
  have hfiles := @List.pairwise_mergeSort _ Path.le (fun _ _ _ => Path.le_trans) Path.le_total
    log.files
  rw [issues_eq, List.pairwise_flatMap]
  refine ⟨fun file _ => List.pairwise_of_forall_mem_list fun i hi j hj => ?_,
    hfiles.imp fun hle i hi j hj => ?_⟩
  · rw [sourceFile_of_mem_forFile hi, sourceFile_of_mem_forFile hj]
    exact hrefl file
  · rw [sourceFile_of_mem_forFile hi, sourceFile_of_mem_forFile hj]
    exact hle

/-- A log that holds some issues file by file lists them in the order of their files, and those of
one file as they were reported. -/
theorem issues_eq_mergeSort (hn : ∀ i ∈ told, i.sourceFile.IsNormal)
    (h : ∀ file, log.forFile file = told.filter fun i => decide (i.sourceFile = file)) :
    log.issues = told.mergeSort fun i j => i.sourceFile.le j.sourceFile := by
  have hsorted : (told.mergeSort fun i j => i.sourceFile.le j.sourceFile).Pairwise
      fun i j => i.sourceFile.le j.sourceFile = true :=
    @List.pairwise_mergeSort _ (fun i j : Issue => i.sourceFile.le j.sourceFile)
      (fun _ _ _ => Path.le_trans) (fun _ _ => Path.le_total _ _) told
  have hnormal : ∀ i ∈ log.issues, i.sourceFile.IsNormal := fun i hi => by
    rw [mem_issues, h] at hi
    exact hn i (List.mem_filter.mp hi).1
  refine Path.eq_of_filter_eq _ Path.le Path.le_antisymm hnormal log.pairwise_issues hsorted
    fun file => ?_
  rw [filter_issues, h,
    Path.filter_mergeSort (fun i : Issue => i.sourceFile) Path.le Path.le_trans Path.le_total]

theorem hasIssues_iff : log.hasIssues = true ↔ log.issues ≠ [] := by
  rw [hasIssues, List.any_eq_true, Ne, issues_eq_nil, not_forall]
  constructor
  · rintro ⟨g, hg, -⟩
    refine ⟨g.1, ?_⟩
    rw [forFile_of_mem hg]
    exact (log.own g hg).1
  · rintro ⟨file, hfile⟩
    obtain ⟨g, hg, -⟩ := List.mem_map.mp (mem_files.mpr hfile)
    exact ⟨g, hg, by simpa using (log.own g hg).1⟩

/-! ### Counting kinds -/

theorem mem_countKinds {is : List Issue} {kind : IssueKind} {n : Nat} :
    (kind, n) ∈ countKinds is ↔ n = is.countP (fun i => decide (i.kind = kind)) ∧ n ≠ 0 := by
  rw [countKinds, List.mem_filter, List.mem_map, List.countP_eq_length_filter]
  constructor
  · rintro ⟨⟨kind', -, he⟩, hn⟩
    cases he
    exact ⟨rfl, by simpa using hn⟩
  · rintro ⟨rfl, hn⟩
    exact ⟨⟨kind, kind.mem_all, rfl⟩, by simpa using hn⟩

theorem nodup_countKinds (is : List Issue) : ((countKinds is).map (·.1)).Nodup := by
  have hsub : ((countKinds is).map (·.1)).Sublist IssueKind.all := by
    have hall := (List.filter_sublist (p := fun c : IssueKind × Nat => c.2 != 0)
      (l := IssueKind.all.map fun k => (k, (is.filter fun i => i.kind = k).length))).map (·.1)
    rwa [List.map_map, List.map_id''] at hall
    exact fun _ => rfl
  exact hsub.nodup (by decide)

/-- Numbers that are zero add nothing. -/
theorem sum_filter_ne_zero (counts : List (IssueKind × Nat)) :
    ((counts.filter fun c => c.2 != 0).map (·.2)).sum = (counts.map (·.2)).sum := by
  induction counts with
  | nil => rfl
  | cons c rest ih =>
    by_cases hc : c.2 = 0
    · rw [List.filter_cons_of_neg (by simpa using hc), ih, List.map_cons, List.sum_cons, hc,
        Nat.zero_add]
    · rw [List.filter_cons_of_pos (by simpa using hc), List.map_cons, List.sum_cons, ih,
        List.map_cons, List.sum_cons]

/-- Every issue is counted under its kind and under no other. -/
theorem sum_countKinds (is : List Issue) : ((countKinds is).map (·.2)).sum = is.length := by
  rw [countKinds, sum_filter_ne_zero, List.map_map]
  induction is with
  | nil => rfl
  | cons i is ih =>
    simp only [IssueKind.all, List.map_cons, List.map_nil, List.sum_cons, List.sum_nil,
      Function.comp_apply, List.filter_cons, List.length_cons] at ih ⊢
    cases i.kind <;> simp <;> omega

/-- What a log holds file by file is all there is to tell. -/
theorem tells_of_forFile (hn : ∀ i ∈ told, i.sourceFile.IsNormal)
    (h : ∀ file, log.forFile file = told.filter fun i => decide (i.sourceFile = file)) :
    log.Tells told := by
  have hissues := issues_eq_mergeSort hn h
  refine ⟨hissues, h, hasIssues_iff, fun kind n => ?_, nodup_countKinds _, sum_countKinds _⟩
  rw [counts, mem_countKinds, hissues, (List.mergeSort_perm told _).countP_eq]

end IssueLog

/-! ## Calls of the reporter -/

namespace Session

/-- What a reporter is told to do. -/
inductive Call where
  | report (issue : Issue)
  | reset
  deriving DecidableEq, Repr

namespace Call

/-- The operation of the session. -/
def step : Call → Step
  | report i => .report i
  | reset => .reset

/-- The issue that is reported. -/
def issue? : Call → Option Issue
  | report i => some i
  | reset => none

/-- The issues that were reported since the last reset. -/
def told (calls : List Call) : List Issue :=
  (calls.rtakeWhile fun call => call.issue?.isSome).filterMap issue?

theorem told_report (calls : List Call) (i : Issue) :
    told (calls ++ [report i]) = told calls ++ [i] := by
  rw [told, List.rtakeWhile_concat_pos _ _ _ rfl, List.filterMap_append]
  rfl

theorem told_reset (calls : List Call) : told (calls ++ [reset]) = [] := by
  rw [told, List.rtakeWhile_concat_neg _ _ _ (by decide)]
  rfl

theorem mem_of_mem_told {calls : List Call} {i : Issue} (h : i ∈ told calls) :
    report i ∈ calls := by
  obtain ⟨call, hcall, hi⟩ := List.mem_filterMap.mp h
  cases call with
  | report j =>
    cases hi
    exact (List.rtakeWhile_suffix _ _).mem hcall
  | reset => cases hi

end Call

variable {policy : Policy} {s : Session}

theorem run_append (policy : Policy) (s : Session) (sts sts' : List Step) :
    run policy s (sts ++ sts') = run policy (run policy s sts) sts' := by
  induction sts generalizing s with
  | nil => rfl
  | cons st rest ih => exact ih (step policy s st).2

/-- A report records its issue, and fails if the policy is strict. -/
theorem step_report (policy : Policy) (s : Session) (i : Issue) :
    step policy s (.report i) =
      (if policy.strict then .error (.error (.buildAborted i)) else .ok .nothing,
        ⟨s.registry, s.issues.add i,
          [⟨if policy.strict then .error else .warning, i.describe⟩]⟩) := by
  rw [step, Step.action, report]
  cases policy.strict <;> rfl

/-- On each file the log has what was reported since the last reset. -/
theorem forFile_run_calls (hs : s.issues = .empty) (calls : List Call) (file : Path) :
    (run policy s (calls.map Call.step)).issues.forFile file =
      (Call.told calls).filter fun i => decide (i.sourceFile = file) := by
  induction calls using List.reverseRecOn with
  | nil => rw [List.map_nil, run, hs]; rfl
  | append_singleton calls call ih =>
    rw [List.map_append, run_append]
    cases call with
    | report i =>
      have hstep : (run policy (run policy s (calls.map Call.step))
          ([Call.report i].map Call.step)).issues =
          (run policy s (calls.map Call.step)).issues.add i :=
        congrArg (·.2.issues) (step_report policy _ i)
      rw [hstep, IssueLog.forFile_add, ih, Call.told_report, List.filter_append]
      congr 1
      by_cases h : i.sourceFile = file <;> simp [h]
    | reset =>
      rw [Call.told_reset]
      rfl

end Session

/-! ## The errors of reported issues -/

theorem Report.within_eq (arguments : Fields) (r : Report) :
    (Report.within arguments r).category = r.category ∧
      (Report.within arguments r).message = r.message := by
  rw [Report.within]
  generalize r.category.arguments = names
  induction names generalizing r with
  | nil => exact ⟨rfl, rfl⟩
  | cons a rest ih =>
    rw [List.foldl_cons]
    split
    · exact ih _
    · exact ih r

/-- The error of an issue is of its kind and says what the issue says. -/
theorem Issue.report_eq (i : Issue) :
    i.report.category = .issue i.kind ∧ i.report.message = i.message :=
  Report.within_eq _ _

namespace Session

variable {policy : Policy} {s : Session}

/-- After any reports and resets the log tells the issues that were reported since the last reset.
The next report records its issue behind them, and under a strict policy it fails with the error of
an ended build that is raised from the error of the issue's kind. -/
theorem run_calls_tells (hs : s.issues = .empty) {calls : List Call}
    (hn : ∀ i, .report i ∈ calls → i.sourceFile.IsNormal) :
    (run policy s (calls.map Call.step)).issues.Tells (Call.told calls) ∧
    ∀ i, i.sourceFile.IsNormal →
      let reported := step policy (run policy s (calls.map Call.step)) (.report i)
      reported.2.issues.Tells (Call.told calls ++ [i]) ∧
      (policy.strict = false → reported.1 = .ok .nothing) ∧
      (policy.strict = true → reported.1 = .error (.error (.buildAborted i)) ∧
        ∃ cause, (Error.buildAborted i).cause? = some cause ∧ cause.category = .issue i.kind ∧
          cause.message = i.message) := by
  have htold : ∀ {calls : List Call}, (∀ i, .report i ∈ calls → i.sourceFile.IsNormal) →
      (run policy s (calls.map Call.step)).issues.Tells (Call.told calls) := fun hn =>
    IssueLog.tells_of_forFile (fun i hi => hn i (Call.mem_of_mem_told hi)) (forFile_run_calls hs _)
  refine ⟨htold hn, fun i hi => ⟨?_, fun hstrict => ?_, fun hstrict => ?_⟩⟩
  · have hnext : ∀ j, .report j ∈ calls ++ [.report i] → j.sourceFile.IsNormal := fun j hj => by
      rcases List.mem_append.mp hj with hj | hj
      · exact hn j hj
      · cases List.mem_singleton.mp hj
        exact hi
    have hlast := htold hnext
    rw [List.map_append, run_append, Call.told_report] at hlast
    exact hlast
  · rw [step_report, hstrict]
    rfl
  · rw [step_report, hstrict]
    exact ⟨rfl, i.report, rfl, i.report_eq⟩

namespace Sample

/-- A page of the site without an identifier. -/
def unnamed (name : String) : Issue :=
  .ofPage .missingIdentifier "no identifier" ⟨.relative, ["content", name]⟩

/-- A link on a page of the site that leads nowhere. -/
def dead (name target : String) : Issue :=
  { unnamed name with kind := .missingReference, message := "no target", target := some target }

/-- Reports on three pages; the first one is forgotten. -/
def calls : List Call :=
  [.report (unnamed "c.md"), .reset, .report (dead "b.md" "x"), .report (unnamed "a.md"),
    .report (dead "b.md" "y")]

end Sample

theorem run_calls_tells_sample :
    (∀ i, .report i ∈ Sample.calls → i.sourceFile.IsNormal) ∧
    (run (Sample.policy true) .empty (Sample.calls.map Call.step)).issues.Tells
      [Sample.dead "b.md" "x", Sample.unnamed "a.md", Sample.dead "b.md" "y"] ∧
    (step (Sample.policy true) (run (Sample.policy true) .empty (Sample.calls.map Call.step))
      (.report (Sample.unnamed "c.md"))).1 =
        .error (.error (.buildAborted (Sample.unnamed "c.md"))) := by
  have hn : ∀ i, .report i ∈ Sample.calls → i.sourceFile.IsNormal := by
    intro i hi
    simp only [Sample.calls, List.mem_cons, List.not_mem_nil, or_false, Call.report.injEq,
      reduceCtorEq, false_or] at hi
    rcases hi with rfl | rfl | rfl | rfl <;> decide
  have hempty : empty.issues = .empty := rfl
  have hall := @run_calls_tells (Sample.policy true) _ hempty _ hn
  exact ⟨hn, hall.1, ((hall.2 (Sample.unnamed "c.md") (by decide)).2.2 rfl).1⟩

end Session

end Crosslink
