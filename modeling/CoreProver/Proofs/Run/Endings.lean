import CoreProver.Run.Session
import Mathlib.Tactic.Common

/-!
# How requests end

`Concludes` lists the ways in which the examination of a request ends, one rule for each, with all
that has to be the case for it. An examination ends exactly by these rules, so that what is said of
its stage, its error or its verdict is a case distinction on the rule used.
-/

namespace CoreProver

variable {F : Type}

namespace Session

/-- The request is looked at: it is not skipped, and its binding is not rejected. -/
def Admits (s : Session F) (b : Binding) (r : Request) : Prop :=
  r.options.skipReason? = none ∧ s.provable b = true

/-- The request is looked at, and evaluating the body of its binding has this result. -/
structure Yields [Foreign F] (s : Session F) (c : Constants) (b : Binding) (r : Request)
    (result : Except Stop Obligation) : Prop where
  admits : s.Admits b r
  mode_ne : r.mode ≠ .constant
  result_eq : (s.prelude.obligation c b r.mode).1 = result

/-- The evaluation leads to an obligation that backends have to be asked about. -/
structure Poses [Foreign F] (s : Session F) (c : Constants) (b : Binding) (r : Request)
    (o : Obligation) : Prop where
  yields : s.Yields c b r (.ok o)
  not_trivial : ¬(r.mode = .safety ∧ o.goal = .bool true)

/-- The request, examined with these constants, has this ending. -/
inductive Concludes [Foreign F] (s : Session F) (c : Constants) (b : Binding) (r : Request) :
    Ending → Prop where
  | skipped {reason : String} (h : r.options.skipReason? = some reason) :
      Concludes s c b r (.skipped reason)
  | unprovable (hskip : r.options.skipReason? = none) (hb : s.provable b = false) :
      Concludes s c b r .unprovable
  | bound {kind : Kind} (ha : s.Admits b r) (hm : r.mode = .constant)
      (hk : s.prelude.constantKind b = .ok kind) : Concludes s c b r (.bound kind)
  | untyped {e : EvalError} (ha : s.Admits b r) (hm : r.mode = .constant)
      (hk : s.prelude.constantKind b = .error e) : Concludes s c b r (.uncovered e)
  | uncovered {e : EvalError} (h : s.Yields c b r (.error (.failed e))) :
      Concludes s c b r (.uncovered e)
  | crashed {crash : Crash} (h : s.Yields c b r (.error (.crashed crash))) :
      Concludes s c b r (.crashed crash)
  | trivial {o : Obligation} (h : s.Yields c b r (.ok o)) (hm : r.mode = .safety)
      (hgoal : o.goal = .bool true) : Concludes s c b r (.trivial o)
  | unselected {o : Obligation} {e : SelectionError} (h : s.Poses c b r o)
      (hp : s.pool (s.selectorsFor r) (s.isVerbose r) = .error e) :
      Concludes s c b r (.unselected o (s.selectorsFor r) e)
  | unasked {o : Obligation} (h : s.Poses c b r o)
      (hp : s.pool (s.selectorsFor r) (s.isVerbose r) = .ok []) :
      Concludes s c b r (.unasked o (s.selectorsFor r))
  | judged {o : Obligation} {backends : List Backend} {v : Verdict} (h : s.Poses c b r o)
      (hp : s.pool (s.selectorsFor r) (s.isVerbose r) = .ok backends)
      (hv : prove? o backends = some v) :
      Concludes s c b r (.judged o (s.selectorsFor r) v)

end Session

/-- Only a list without backends leaves an obligation without verdict. -/
theorem prove?_eq_none_iff (o : Obligation) (backends : List Backend) :
    prove? o backends = none ↔ backends = [] := by
  cases backends with
  | nil => simp [prove?, Verdict.ofAttempts?]
  | cons k ks => simp [prove?, Verdict.ofAttempts?]

namespace Session

variable [Foreign F] (s : Session F) (c : Constants) (b : Binding) (r : Request)

@[simp] theorem examine_binding : (s.examine c b r).binding = b := rfl

@[simp] theorem examine_mode : (s.examine c b r).mode = r.mode := rfl

@[simp] theorem examine_verbose : (s.examine c b r).verbose = s.isVerbose r := rfl

@[simp] theorem examine_lenient :
    (s.examine c b r).lenient = (r.options.warnIfFails || s.settings.warnIfFails) := rfl

theorem examine_ending : (s.examine c b r).ending = (s.conclude c b r).2 := rfl

/-- An obligation that is posed is handed to the backends that the selectors stand for. -/
theorem concludes_solve {o : Obligation} (h : s.Poses c b r o) :
    s.Concludes c b r (s.solve r o) := by
  unfold solve
  cases hp : s.pool (s.selectorsFor r) (s.isVerbose r) with
  | error e => simpa [hp] using Concludes.unselected h hp
  | ok backends =>
    cases hv : prove? o backends with
    | none =>
      obtain rfl := (prove?_eq_none_iff o backends).1 hv
      simpa [hp, hv] using Concludes.unasked h hp
    | some v => simpa [hp, hv] using Concludes.judged h hp hv

theorem concludes_settle {result : Except Stop Obligation} (h : s.Yields c b r result) :
    s.Concludes c b r (s.settle r result) := by
  cases result with
  | error stop =>
    cases stop with
    | failed e => exact .uncovered h
    | crashed crash => exact .crashed h
  | ok o =>
    by_cases ht : r.mode = .safety ∧ o.goal = .bool true
    · rw [settle, if_pos ht]
      exact .trivial h ht.1 ht.2
    · rw [settle, if_neg ht]
      exact s.concludes_solve c b r ⟨h, ht⟩

theorem concludes_ending : s.Concludes c b r (s.examine c b r).ending := by
  rw [examine_ending, conclude]
  cases hskip : r.options.skipReason? with
  | some reason => exact .skipped hskip
  | none =>
    cases hb : s.provable b with
    | false => exact .unprovable hskip hb
    | true =>
      by_cases hm : r.mode = .constant
      · cases hk : s.prelude.constantKind b with
        | ok kind => simpa [hm, hk] using Concludes.bound ⟨hskip, hb⟩ hm hk
        | error e => simpa [hm, hk] using Concludes.untyped ⟨hskip, hb⟩ hm hk
      · simpa [hm] using s.concludes_settle c b r ⟨⟨hskip, hb⟩, hm, rfl⟩

variable {s c b r}

theorem Yields.ending_eq {result : Except Stop Obligation} (h : s.Yields c b r result) :
    (s.examine c b r).ending = s.settle r result := by
  obtain ⟨⟨hskip, hb⟩, hm, rfl⟩ := h
  simp [examine_ending, conclude, hskip, hb, hm]

theorem Poses.ending_eq {o : Obligation} (h : s.Poses c b r o) :
    (s.examine c b r).ending = s.solve r o := by
  rw [h.yields.ending_eq, settle, if_neg h.not_trivial]

theorem Concludes.ending_eq {e : Ending} (h : s.Concludes c b r e) :
    (s.examine c b r).ending = e := by
  cases h with
  | skipped h => simp [examine_ending, conclude, h]
  | unprovable hskip hb => simp [examine_ending, conclude, hskip, hb]
  | bound ha hm hk => simp [examine_ending, conclude, ha.1, ha.2, hm, hk]
  | untyped ha hm hk => simp [examine_ending, conclude, ha.1, ha.2, hm, hk]
  | uncovered h => exact h.ending_eq
  | crashed h => exact h.ending_eq
  | trivial h hm hgoal => rw [h.ending_eq, settle, if_pos ⟨hm, hgoal⟩]
  | unselected h hp => simp [h.ending_eq, solve, hp]
  | unasked h hp => simp [h.ending_eq, solve, hp, prove?, Verdict.ofAttempts?]
  | judged h hp hv => simp [h.ending_eq, solve, hp, hv]

/-- Examinations end exactly by the rules. -/
theorem ending_eq_iff {e : Ending} : (s.examine c b r).ending = e ↔ s.Concludes c b r e :=
  ⟨fun h => h ▸ s.concludes_ending c b r, Concludes.ending_eq⟩

end Session

namespace Examination

/-- A failed proof leaves the run in one of two stages. -/
theorem failedStage_eq (x : Examination) :
    x.failedStage = .failedRecoverable ∧ x.lenient = true ∨
      x.failedStage = .failedFatal ∧ x.lenient = false := by
  unfold failedStage
  cases x.lenient <;> simp

/-- The four stages in which an examination can end, and what leads to the first two. -/
theorem stage_cases (x : Examination) :
    (x.stage = .notStarted ∧ ∃ reason, x.ending = .skipped reason) ∨
    (x.stage = .succeeded ∧
      ((∃ kind, x.ending = .bound kind) ∨ (∃ o, x.ending = .trivial o) ∨
        ∃ o selectors v, x.ending = .judged o selectors v ∧ v.isProved = true)) ∨
    x.stage = .failedRecoverable ∨ x.stage = .failedFatal := by
  have hfailed := x.failedStage_eq
  unfold stage
  cases x.ending with
  | judged o selectors v =>
    cases hv : v.isProved with
    | true => simp [hv]
    | false => rcases hfailed with ⟨h, -⟩ | ⟨h, -⟩ <;> simp [hv, h]
  | crashed crash => rcases hfailed with ⟨h, -⟩ | ⟨h, -⟩ <;> simp [h]
  | _ => simp

theorem stage_mem (x : Examination) :
    x.stage ∈ [Stage.notStarted, .succeeded, .failedRecoverable, .failedFatal] := by
  rcases x.stage_cases with ⟨h, -⟩ | ⟨h, -⟩ | h | h <;> simp [h]

theorem stage_eq_notStarted_iff (x : Examination) :
    x.stage = .notStarted ↔ ∃ reason, x.ending = .skipped reason := by
  constructor
  · intro hstage
    rcases x.stage_cases with ⟨-, hskipped⟩ | ⟨h, -⟩ | h | h
    · exact hskipped
    all_goals simp [hstage] at h
  · rintro ⟨reason, hending⟩
    simp [stage, hending]

/-- Requests succeed by binding a constant, without conditions, or by a proof. -/
theorem stage_eq_succeeded_iff (x : Examination) :
    x.stage = .succeeded ↔
      (∃ kind, x.ending = .bound kind) ∨ (∃ o, x.ending = .trivial o) ∨
        ∃ o selectors v, x.ending = .judged o selectors v ∧ v.isProved = true := by
  constructor
  · intro hstage
    rcases x.stage_cases with ⟨h, -⟩ | ⟨-, hsucceeds⟩ | h | h
    · simp [hstage] at h
    · exact hsucceeds
    · simp [hstage] at h
    · simp [hstage] at h
  · rintro (⟨kind, hending⟩ | ⟨o, hending⟩ | ⟨o, selectors, v, hending, hproved⟩)
    · simp [stage, hending]
    · simp [stage, hending]
    · simp [stage, hending, hproved]

/-- The examinations that end in a fatal failure are those that abort the run. -/
theorem isSome_abort?_iff (x : Examination) :
    x.abort?.isSome = true ↔ x.stage = .failedFatal := by
  unfold abort? stage failedStage
  cases x.ending with
  | judged o selectors v =>
    cases hv : v.isProved <;> cases x.lenient <;> simp [Ending.failure?, hv]
  | crashed crash => cases x.lenient <;> simp [Ending.failure?]
  | _ => simp [Ending.failure?]

end Examination

end CoreProver
