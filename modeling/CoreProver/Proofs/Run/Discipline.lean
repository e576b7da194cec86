import CoreProver.CommandLine.Execute
import CoreProver.Host.Machine
import CoreProver.Proofs.Run.Course

/-!
# The discipline of runs

A run examines the requests of a program in order and stops only after a fatal failure. So the error
that aborted it, the stage of its last examination, its being in order and the counts all tell the
same story, and the exit code of a check tells it too, but for a report that cannot be written. All
of this holds in whatever order backends finish.
-/

namespace CoreProver

variable {F : Type} [Foreign F]

theorem ProofOptions.isSome_skipReason?_iff (o : ProofOptions) :
    o.skipReason?.isSome = true ↔ ∃ reason, .skip reason ∈ o := by
  simp only [skipReason?, List.findSome?_isSome_iff]
  constructor
  · rintro ⟨option, hmem, h⟩
    cases option with
    | skip reason => exact ⟨reason, hmem⟩
    | _ => cases h
  · rintro ⟨reason, hmem⟩
    exact ⟨_, hmem, rfl⟩

/-- A request is not started exactly when one of its options is to skip it. -/
theorem Session.stage_eq_notStarted_iff_skip (s : Session F) (c : Constants) (b : Binding)
    (r : Request) :
    (s.examine c b r).stage = .notStarted ↔ ∃ reason, .skip reason ∈ r.options := by
  rw [Examination.stage_eq_notStarted_iff, ← r.options.isSome_skipReason?_iff]
  constructor
  · rintro ⟨reason, hending⟩
    cases ending_eq_iff.1 hending with
    | skipped h => exact Option.isSome_of_eq_some h
  · intro h
    obtain ⟨reason, hreason⟩ := Option.isSome_iff_exists.1 h
    exact ⟨reason, (Concludes.skipped hreason).ending_eq⟩

namespace Run

theorem isSome_aborted?_iff (run : Run) :
    run.aborted?.isSome = true ↔ ∃ x ∈ run, x.stage = .failedFatal := by
  simp only [aborted?, List.findSome?_isSome_iff, Examination.isSome_abort?_iff]

/-- A run that is not aborted is in order. -/
theorem isOk_iff (run : Run) : run.isOk = true ↔ run.aborted? = none := by
  simp only [isOk, Bool.and_eq_true, Option.isNone_iff_eq_none, List.all_eq_true,
    decide_eq_true_eq, and_iff_left_iff_imp]
  intro hnone x hx hfatal
  have hsome := run.isSome_aborted?_iff.2 ⟨x, hx, hfatal⟩
  simp [hnone] at hsome

/-- Every examination is counted once. -/
theorem length_eq_counts (run : Run) :
    run.length = run.count .succeeded + run.failures + run.count .notStarted := by
  induction run with
  | nil => rfl
  | cons x xs ih =>
    have hstage := x.stage_mem
    simp only [List.mem_cons, List.not_mem_nil, or_false] at hstage
    simp only [count, failures] at ih ⊢
    rcases hstage with h | h | h | h <;>
      simp [h, Stage.isFailure, ih] <;> omega

end Run

namespace Session.CourseWith

variable {s : Session F} {pools : Set Pool} {requests : List (Binding × Request)}
  {c : Constants} {run : Run}

/-- A course is aborted exactly when its last examination is a fatal failure. -/
theorem isSome_aborted?_iff_getLast? (h : s.CourseWith pools requests c run) :
    run.aborted?.isSome = true ↔ ∃ x, run.getLast? = some x ∧ x.stage = .failedFatal := by
  rw [Run.isSome_aborted?_iff]
  constructor
  · rintro ⟨x, hx, hfatal⟩
    obtain ⟨before, after, rfl⟩ := List.append_of_mem hx
    obtain ⟨b, r, pool, -, -, -, hafter⟩ := h.exists_request
    obtain rfl := hafter ((Examination.isSome_abort?_iff x).2 hfatal)
    exact ⟨x, by simp, hfatal⟩
  · rintro ⟨x, hx, hfatal⟩
    exact ⟨x, List.mem_of_getLast? hx, hfatal⟩

end Session.CourseWith

namespace CommandLine

/-- The arguments ask for a check with these options; the settings can be had, and the flags name
solvers. -/
structure Accepts (host : Host) (args : List String) (options : CheckOptions) (settings : Settings)
    (solvers : List Selector) : Prop where
  settings_eq : ∃ global, read args = .task global (.check options) ∧
    Settings.load host global.config host.workingDirectory = .ok settings
  solvers_eq : defaultSolvers options.solvers settings = .ok solvers

/-- The arguments ask for a check with these options, and the command gets as far as its run. The
run can go like this, with backends that finish in any order at each request, and then the command
has this result. -/
def ComesTo (host : Host) (args : List String) (options : CheckOptions) (run : Run)
    (result : Result) : Prop :=
  ∃ settings solvers program, Accepts host args options settings solvers ∧
    readProgram host options.path = .ok program ∧
    (checkSession host settings options solvers).AnyOrder program.requests .empty run ∧
    result = checkResult host settings options program run

/-- A check that executes gets to its run, in the order of its session. -/
theorem Accepts.comesTo_execute {host : Host} {args : List String} {options : CheckOptions}
    {settings : Settings} {solvers : List Selector}
    (h : Accepts host args options settings solvers) {program : Program}
    (hprogram : readProgram host options.path = .ok program) :
    ComesTo host args options ((checkSession host settings options solvers).run program)
        (execute host args).2 ∧
      (execute host args).1 = (execute host args).2.exitCode := by
  obtain ⟨⟨global, hread, hload⟩, hsolvers⟩ := h
  refine ⟨⟨settings, solvers, program, ⟨⟨global, hread, hload⟩, hsolvers⟩, hprogram,
    Session.anyOrder_run _ program, ?_⟩, ?_⟩
  · simp only [execute, hread, perform, hload, check, hsolvers, hprogram]
  · simp only [execute, hread]

/-- A run that is not aborted has no failed bindings to complain about. -/
theorem runFailure?_eq (run : Run) : runFailure? run = run.aborted?.map .aborted := by
  unfold runFailure?
  cases haborted : run.aborted? with
  | some e => rfl
  | none => simp [(run.isOk_iff).2 haborted]

/-- A check that comes to a run fails if the run is aborted or its report cannot be written. -/
theorem ComesTo.exitCode_ne_zero_iff {host : Host} {args : List String} {options : CheckOptions}
    {run : Run} {result : Result} (h : ComesTo host args options run result) :
    result.exitCode ≠ 0 ↔ run.aborted?.isSome = true ∨
      ∃ path why, options.report = some path ∧ host.write path = .error why := by
  obtain ⟨settings, solvers, program, -, -, -, rfl⟩ := h
  simp only [checkResult, runFailure?_eq, Option.isSome_iff_ne_none]
  cases hreport : options.report with
  | none => simp [Result.exitCode]
  | some path =>
    cases hwrite : host.write path with
    | error why => simp [Result.exitCode, hwrite]
    | ok _ => simp [Result.exitCode, hwrite]

end CommandLine

/-- Whatever backends and their selection do: the examinations of a run are, in order, those of the
first requests of the program, and each comes to one of four final stages, where exactly the skipped
ones are not started. Only the last can fail fatally; it does exactly when the run is aborted, and a
run that is not aborted goes through all requests. So a run is in order exactly when it is not
aborted, and the counts add up to its length. A check that comes to a run, in whatever order
backends finish at each request, exits with failure exactly when an examination fails fatally or the
report that was asked for cannot be written; a check that executes comes to one of these runs. -/
theorem Session.run_discipline (s : Session F) (p : Program) {run : Run}
    (hrun : s.Course p.requests .empty run) :
    (∀ (before : Run) x after, run = before ++ x :: after →
      ∃ b r pool, p.requests[before.length]? = some (b, r) ∧
        x = (s.withPool pool).examine before.constants b r ∧
        x.stage ∈ [.notStarted, .succeeded, .failedRecoverable, .failedFatal] ∧
        (x.stage = .notStarted ↔ ∃ reason, .skip reason ∈ r.options) ∧
        (x.stage = .failedFatal → after = [])) ∧
    (run.aborted?.isSome = true ↔ ∃ x, run.getLast? = some x ∧ x.stage = .failedFatal) ∧
    (run.aborted? = none → run.length = p.requests.length) ∧
    (run.isOk = true ↔ run.aborted? = none) ∧
    run.length = run.count .succeeded + run.failures + run.count .notStarted ∧
    (∀ host args options result, CommandLine.ComesTo host args options run result →
      (result.exitCode ≠ 0 ↔ (∃ x ∈ run, x.stage = .failedFatal) ∨
        ∃ path why, options.report = some path ∧ host.write path = .error why)) ∧
    ∀ host args options settings solvers program,
      CommandLine.Accepts host args options settings solvers →
      CommandLine.readProgram host options.path = .ok program →
      CommandLine.ComesTo host args options
          ((CommandLine.checkSession host settings options solvers).run program)
          (CommandLine.execute host args).2 ∧
        (CommandLine.execute host args).1 = (CommandLine.execute host args).2.exitCode := by
  refine ⟨?_, hrun.isSome_aborted?_iff_getLast?, hrun.length_eq_or_aborted.2, run.isOk_iff,
    run.length_eq_counts, ?_, ?_⟩
  · rintro before x after rfl
    obtain ⟨b, r, pool, -, hget, rfl, hafter⟩ := hrun.exists_request
    refine ⟨b, r, pool, hget, rfl, Examination.stage_mem _,
      stage_eq_notStarted_iff_skip _ _ _ _, ?_⟩
    exact fun hfatal => hafter ((Examination.isSome_abort?_iff _).2 hfatal)
  · intro host args options result hcomes
    rw [hcomes.exitCode_ne_zero_iff, run.isSome_aborted?_iff]
  · intro host args options settings solvers program haccepts hprogram
    exact haccepts.comesTo_execute hprogram

/-- A property that is put off, one that no backend settles, and the first one again. -/
def unsettledProperty : Program :=
  let bool : Ty := .con "Bool" []
  let postponed : Binding :=
    ⟨"later", ⟨"P.hs", 1, 1⟩, bool, .var ⟨"True", bool⟩, [.prove [.skip "slow"]]⟩
  ⟨none, [postponed, ⟨"now", ⟨"P.hs", 2, 1⟩, .arrow bool bool,
    .lam ⟨"x", bool⟩ (.var ⟨"x", bool⟩), [.prove []]⟩, postponed]⟩

theorem run_discipline_of_unsettledProperty :
    (undecidedSession.run unsettledProperty).map (·.stage) = [.notStarted, .failedFatal] ∧
    unsettledProperty.requests.length = 3 ∧
    (undecidedSession.run unsettledProperty).aborted?.isSome = true ∧
    (undecidedSession.run unsettledProperty).isOk = false := by
  have hstages : (undecidedSession.run unsettledProperty).map (·.stage) =
      [.notStarted, .failedFatal] := by decide
  obtain ⟨-, hlast, -, hok, -⟩ := undecidedSession.run_discipline unsettledProperty
    (undecidedSession.course_run unsettledProperty)
  have haborted := hlast.2 ⟨_, rfl, rfl⟩
  refine ⟨hstages, rfl, haborted, ?_⟩
  rw [← Bool.not_eq_true, hok, ← Option.not_isSome_iff_eq_none]
  exact not_not_intro haborted

/-- A machine with an empty program and a directory. -/
def emptyProgramMachine : Machine where
  nodes := [(["p.json"], .file "\x7b\"bindings\":[]\x7d"), (["out"], .directory)]
  workingDirectory := "/"
  programDirectories := []

/-- A check whose report is to be written onto a directory fails although nothing was examined. -/
theorem unwritable_report_fails_check :
    let args := ["check", "p.json", "--report", "out"]
    ∃ options run,
      CommandLine.ComesTo emptyProgramMachine.host args options run
        (CommandLine.execute emptyProgramMachine.host args).2 ∧
      (CommandLine.execute emptyProgramMachine.host args).1 ≠ 0 ∧
      ¬∃ x ∈ run, x.stage = .failedFatal := by
  intro args
  have hread : ((CommandLine.readProgram emptyProgramMachine.host "p.json").toOption.map
      fun p => p.requests.length) = some 0 := by decide +kernel
  obtain ⟨program, hsome, hnone⟩ := Option.map_eq_some_iff.1 hread
  have hprogram : CommandLine.readProgram emptyProgramMachine.host "p.json" = .ok program := by
    cases h : CommandLine.readProgram emptyProgramMachine.host "p.json" with
    | error e => simp [h, Except.toOption] at hsome
    | ok p => simpa [h, Except.toOption] using hsome
  have hrun (s : Session Empty) : s.run program = [] := by
    rw [Session.run, List.length_eq_zero_iff.1 hnone, Session.examineAll]
  have hload : Settings.load emptyProgramMachine.host none "/" = .ok .default := by rfl
  have haccepts : CommandLine.Accepts emptyProgramMachine.host args
      ⟨"p.json", [], false, false, some "out"⟩ .default _ :=
    ⟨⟨⟨none, false⟩, by decide, hload⟩, rfl⟩
  obtain ⟨hcomes, hcode⟩ := haccepts.comesTo_execute hprogram
  refine ⟨_, _, hcomes, ?_, by simp [hrun]⟩
  rw [hcode]
  exact hcomes.exitCode_ne_zero_iff.2 (.inr ⟨"out", .isADirectory, rfl, by rfl⟩)

end CoreProver
