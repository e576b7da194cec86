import CoreProver.Proofs.Run.Discipline

/-!
# Failed proofs as warnings

A session can take failed proofs as mere warnings. Compared with the strict session, it makes the
same examinations with the same endings, only that none of them aborts because of a failed proof.
So the lenient run repeats the strict one, and goes on where that one gave up on a proof.
-/

namespace CoreProver

/-- Whether the run is aborted because of a failed proof. -/
def RunError.isProofFailed : RunError → Bool
  | .proofFailed .. => true
  | _ => false

namespace Examination

/-- The examination with a failed proof taken as a warning. -/
def relaxed (x : Examination) : Examination := { x with lenient := true }

/-- The proof failed: backends were asked in vain, or the evaluation crashed. -/
def ProofFails (x : Examination) : Prop :=
  (∃ crash, x.ending = .crashed crash) ∨
    ∃ o selectors v, x.ending = .judged o selectors v ∧ v.isProved = false

/-- A failed proof aborts a strict examination; whatever else goes wrong is no failed proof. -/
theorem exists_isProofFailed_iff (x : Examination) :
    (∃ e, x.abort? = some e ∧ e.isProofFailed = true) ↔ x.lenient = false ∧ x.ProofFails := by
  unfold abort? ProofFails
  cases x.ending with
  | judged o selectors v =>
    cases hv : v.isProved <;> cases x.lenient <;> simp [Ending.failure?, RunError.isProofFailed, hv]
  | crashed crash => cases x.lenient <;> simp [Ending.failure?, RunError.isProofFailed]
  | _ => simp [Ending.failure?, RunError.isProofFailed]

/-- A warning aborts nothing; other errors stay. -/
theorem abort?_relaxed (x : Examination) :
    x.relaxed.abort? = x.abort?.filter fun e => !e.isProofFailed := by
  unfold abort? relaxed
  cases x.ending with
  | judged o selectors v =>
    cases hv : v.isProved <;> cases x.lenient <;>
      simp [Ending.failure?, RunError.isProofFailed, Option.filter, hv]
  | crashed crash =>
    cases x.lenient <;> simp [Ending.failure?, RunError.isProofFailed, Option.filter]
  | _ => simp [Ending.failure?, RunError.isProofFailed, Option.filter]

/-- A strict examination whose proof fails differs from the warning in its stage alone. -/
theorem finding_relaxed_of_proofFails {x : Examination} (h : x.ProofFails) :
    x.relaxed.finding = { x.finding with stage := .failedRecoverable } := by
  have hstage : x.relaxed.stage = .failedRecoverable := by
    unfold stage
    rcases h with ⟨crash, hending⟩ | ⟨o, selectors, v, hending, hv⟩
    · simp [relaxed, hending, failedStage]
    · simp [relaxed, hending, failedStage, hv]
  unfold finding
  rw [hstage]
  rfl

/-- An examination that does not abort because of a failed proof is the same as a warning. -/
theorem finding_relaxed {x : Examination} (h : ¬(x.lenient = false ∧ x.ProofFails)) :
    x.relaxed.finding = x.finding := by
  have hstage : x.relaxed.stage = x.stage := by
    cases hlenient : x.lenient with
    | true => rw [relaxed, ← hlenient]
    | false =>
      have hfails : ¬ x.ProofFails := fun hfails => h ⟨hlenient, hfails⟩
      unfold stage relaxed
      cases hending : x.ending with
      | crashed crash => exact absurd (.inl ⟨crash, hending⟩) hfails
      | judged o selectors v =>
        cases hv : v.isProved with
        | true => simp [hv]
        | false => exact absurd (.inr ⟨o, selectors, v, hending, hv⟩) hfails
      | _ => rfl
  unfold finding
  rw [hstage]
  rfl

/-- Without a failed proof, the lenient examination is reported like the strict one. -/
theorem relaxed_of_not_isProofFailed {x : Examination}
    (h : ∀ e, x.abort? = some e → e.isProofFailed = false) :
    x.relaxed.finding = x.finding ∧ x.relaxed.abort? = x.abort? := by
  constructor
  · apply finding_relaxed
    rw [← exists_isProofFailed_iff]
    rintro ⟨e, he, hfailed⟩
    simp [h e he] at hfailed
  · rw [abort?_relaxed]
    cases habort : x.abort? with
    | none => rfl
    | some e => simp [Option.filter, h e habort]

end Examination

/-- A change of the examinations that keeps their errors keeps the error of the run. -/
theorem Run.aborted?_map {f : Examination → Examination} {run : Run}
    (h : ∀ x ∈ run, (f x).abort? = x.abort?) : Run.aborted? (run.map f) = run.aborted? := by
  induction run with
  | nil => rfl
  | cons x run ih =>
    have hrest := ih fun y hy => h y (List.mem_cons_of_mem x hy)
    rw [List.map_cons, aborted?_cons, aborted?_cons, h x List.mem_cons_self, hrest]

variable {F : Type}

namespace Session

/-- The session that takes failed proofs as warnings, or does not. -/
def warning (s : Session F) (warnIfFails : Bool) : Session F :=
  { s with settings := { s.settings with warnIfFails := warnIfFails } }

variable [Foreign F] (s : Session F)

/-- At one request, the lenient session does what the strict one does. -/
theorem examine_warning (c : Constants) (b : Binding) (r : Request) :
    (s.warning true).examine c b r = ((s.warning false).examine c b r).relaxed := by
  have hlenient : (r.options.warnIfFails || (s.warning true).settings.warnIfFails) = true := by
    simp [warning]
  unfold examine
  rw [hlenient]
  rfl

/-- What is examined after a run that was aborted because of a failed proof. -/
def resume (requests : List (Binding × Request)) (c : Constants) (run : Run) : Run :=
  if run.aborted?.any RunError.isProofFailed then
    s.examineAll (requests.drop run.length) (run.foldl (fun c x => x.constants c) c)
  else []

/-- The lenient session examines what the strict one does, and goes on with the requests that are
left when that one was aborted because of a failed proof. -/
theorem examineAll_warning (requests : List (Binding × Request)) (c : Constants) :
    (s.warning true).examineAll requests c =
      ((s.warning false).examineAll requests c).map Examination.relaxed ++
        (s.warning true).resume requests c ((s.warning false).examineAll requests c) := by
  induction requests generalizing c with
  | nil => rfl
  | cons request rest ih =>
    obtain ⟨b, r⟩ := request
    have hlenient := s.examine_warning c b r
    have hconstants : ((s.warning true).examine c b r).constants =
        ((s.warning false).examine c b r).constants := by rw [hlenient]; rfl
    have hrelaxed := congrArg Examination.abort? hlenient
    rw [Examination.abort?_relaxed] at hrelaxed
    cases habort : ((s.warning false).examine c b r).abort? with
    | none =>
      have hnone : ((s.warning true).examine c b r).abort? = none := by simp [hrelaxed, habort]
      rw [examineAll_of_goes_on habort, examineAll_of_goes_on hnone, hconstants, hlenient, ih,
        List.map_cons, List.cons_append]
      simp only [resume, Run.aborted?_cons, habort, Option.none_or, List.length_cons,
        List.drop_succ_cons, List.foldl_cons]
    | some e =>
      rw [examineAll_of_aborts habort]
      cases he : e.isProofFailed with
      | true =>
        -- here the runs part: the strict one is over, and the rest of the lenient one resumes it
        have hnone : ((s.warning true).examine c b r).abort? = none := by
          simp [hrelaxed, habort, Option.filter, he]
        rw [examineAll_of_goes_on hnone, hconstants, hlenient]
        simp [resume, Run.aborted?, habort, he]
      | false =>
        have hsome : ((s.warning true).examine c b r).abort? = some e := by
          simp [hrelaxed, habort, Option.filter, he]
        rw [examineAll_of_aborts hsome, hlenient]
        simp [resume, Run.aborted?, habort, he]

/-- No examination of the lenient session is aborted because of a failed proof. -/
theorem isProofFailed_of_warning (p : Program) {x : Examination} (hx : x ∈ (s.warning true).run p)
    {e : RunError} (he : x.abort? = some e) : e.isProofFailed = false := by
  obtain ⟨before, after, hrun⟩ := List.append_of_mem hx
  obtain ⟨b, r, pool, -, -, rfl, -⟩ := (hrun ▸ (s.warning true).course_run p).exists_request
  by_contra hfailed
  have hstrict := (Examination.exists_isProofFailed_iff _).1
    ⟨e, he, Bool.eq_true_of_not_eq_false hfailed⟩
  simp [withPool, warning] at hstrict

end Session

theorem Examination.ProofFails.constants_eq {x : Examination} (h : x.ProofFails) (c : Constants) :
    x.constants c = c := by
  unfold Examination.constants
  rcases h with ⟨crash, hending⟩ | ⟨o, selectors, v, hending, -⟩ <;> rw [hending]

/-- The strict run and the lenient run of the same session. If the strict one is not aborted, or
not because of a failed proof, the lenient one has the same findings and the same error. Otherwise
the lenient one has the same findings up to the failed proof, reports that as recoverable, and goes
on with the next request. The lenient run is never aborted because of a failed proof. -/
theorem Session.leniency_alters_failed_proofs [Foreign F] (s : Session F) (p : Program) :
    ((∀ e, ((s.warning false).run p).aborted? = some e → e.isProofFailed = false) →
      ((s.warning true).run p).map (·.finding) = ((s.warning false).run p).map (·.finding) ∧
      ((s.warning true).run p).aborted? = ((s.warning false).run p).aborted?) ∧
    (∀ e, ((s.warning false).run p).aborted? = some e → e.isProofFailed = true →
      ∃ (before before' : Run) (x x' : Examination),
        (s.warning false).run p = before ++ [x] ∧ x.ProofFails ∧
        (s.warning true).run p = before' ++ x' :: (s.warning true).examineAll
          (p.requests.drop (before.length + 1)) before.constants ∧
        before'.map (·.finding) = before.map (·.finding) ∧
        x'.finding = { x.finding with stage := .failedRecoverable }) ∧
    ∀ e, ((s.warning true).run p).aborted? = some e → e.isProofFailed = false := by
  have hcourse := (s.warning false).course_run p
  have hruns : (s.warning true).run p = ((s.warning false).run p).map Examination.relaxed ++
      (s.warning true).resume p.requests .empty ((s.warning false).run p) :=
    s.examineAll_warning p.requests .empty
  refine ⟨fun h => ?_, fun e he hfailed => ?_, fun e he => ?_⟩
  · have hresume : (s.warning true).resume p.requests .empty ((s.warning false).run p) = [] := by
      cases haborted : ((s.warning false).run p).aborted? with
      | none => simp [resume, haborted]
      | some e => simp [resume, haborted, h e haborted]
    have hsame : ∀ x ∈ (s.warning false).run p,
        x.relaxed.finding = x.finding ∧ x.relaxed.abort? = x.abort? := by
      intro x hx
      have hnot (e : RunError) (he : x.abort? = some e) : e.isProofFailed = false :=
        h e (hcourse.aborted?_eq_of_mem hx he)
      exact Examination.relaxed_of_not_isProofFailed hnot
    rw [hruns, hresume, List.append_nil, List.map_map]
    refine ⟨List.map_congr_left fun x hx => (hsame x hx).1, ?_⟩
    exact Run.aborted?_map fun x hx => (hsame x hx).2
  · obtain ⟨x, hx, hxe⟩ := List.exists_of_findSome?_eq_some he
    obtain ⟨before, after, hrun⟩ := List.append_of_mem hx
    rw [hrun] at hcourse
    obtain ⟨-, -, -, -, -, -, hlast⟩ := hcourse.exists_request
    obtain rfl := hlast (by rw [hxe]; rfl)
    have hfails : x.ProofFails := (x.exists_isProofFailed_iff.1 ⟨e, hxe, hfailed⟩).2
    have hsame : ∀ y ∈ before, y.relaxed.finding = y.finding := by
      intro y hy
      have hnone := hcourse.abort?_eq_none_of_mem hy
      exact (Examination.relaxed_of_not_isProofFailed (by simp [hnone])).1
    have hresume : (s.warning true).resume p.requests .empty ((s.warning false).run p) =
        (s.warning true).examineAll (p.requests.drop (before.length + 1))
          (Run.constants before) := by
      rw [resume, he, Option.any_some, if_pos hfailed, hrun, List.foldl_append, List.length_append]
      exact congrArg _ (hfails.constants_eq _)
    refine ⟨before, before.map Examination.relaxed, x, x.relaxed, hrun, hfails, ?_, ?_, ?_⟩
    · rw [hruns, hresume, hrun, List.map_append, List.append_assoc]
      rfl
    · rw [List.map_map]
      exact List.map_congr_left hsame
    · exact Examination.finding_relaxed_of_proofFails hfails
  · obtain ⟨x, hx, hxe⟩ := List.exists_of_findSome?_eq_some he
    exact s.isProofFailed_of_warning p hx hxe

theorem leniency_alters_unsettledProperty :
    ((undecidedSession.warning false).run unsettledProperty).map (·.stage) =
      [.notStarted, .failedFatal] ∧
    ((undecidedSession.warning true).run unsettledProperty).map (·.stage) =
      [.notStarted, .failedRecoverable, .notStarted] ∧
    ∃ before before' x x', (undecidedSession.warning false).run unsettledProperty = before ++ [x] ∧
      (undecidedSession.warning true).run unsettledProperty = before' ++ x' ::
        (undecidedSession.warning true).examineAll
          (unsettledProperty.requests.drop (before.length + 1)) (Run.constants before) ∧
      x'.finding = { x.finding with stage := .failedRecoverable } := by
  obtain ⟨-, hgoes, -⟩ := undecidedSession.leniency_alters_failed_proofs unsettledProperty
  obtain ⟨before, before', x, x', hstrict, -, hlenient, -, hfinding⟩ := hgoes _ rfl rfl
  exact ⟨by decide, by decide, before, before', x, x', hstrict, hlenient, hfinding⟩

end CoreProver
