import CoreProver.Proofs.Run.Leniency
import CoreProver.Proofs.Run.PrintedObligation
import CoreProver.Proofs.Run.Provenance

/-!
# Skipped requests

A run reports the requests that are to be skipped and does nothing else about them: leaving them out
of the program leaves the rest of the run as it is. The search for the obligation of a name does not
know of skipping. It takes every request as though it were not to be skipped, so that a constant is
in scope there also if the run skips it.
-/

namespace CoreProver

/-- Whether one of the options of the request is to skip it. -/
def Request.isSkipped (r : Request) : Bool := r.options.skipReason?.isSome

/-- The binding without the requests that are to be skipped. -/
def Binding.withoutSkipped (b : Binding) : Binding :=
  { b with requests := b.requests.filter fun r => !r.isSkipped }

/-- The program without the requests that are to be skipped. -/
def Program.withoutSkipped (p : Program) : Program :=
  { p with bindings := p.bindings.map Binding.withoutSkipped }

theorem Program.requests_withoutSkipped (p : Program) :
    p.withoutSkipped.requests = (p.requests.filter fun q => !q.2.isSkipped).map
      fun q => (q.1.withoutSkipped, q.2) := by
  have hasked (b : Binding) : b.withoutSkipped.asked =
      (b.asked.filter fun q => !q.2.isSkipped).map fun q => (q.1.withoutSkipped, q.2) := by
    simp only [Binding.asked, Binding.withoutSkipped, List.filter_map, List.map_map]
    rfl
  have hbindings (bindings : List Binding) :
      (bindings.map Binding.withoutSkipped).flatMap Binding.asked =
        ((bindings.flatMap Binding.asked).filter fun q => !q.2.isSkipped).map
          fun q => (q.1.withoutSkipped, q.2) := by
    induction bindings with
    | nil => rfl
    | cons b rest ih =>
      rw [List.map_cons, List.flatMap_cons, List.flatMap_cons, ih, hasked, List.filter_append,
        List.map_append]
  exact hbindings p.bindings

/-! ### Runs -/

/-- The examination as one of the binding without the requests that are to be skipped. -/
def Examination.withoutSkipped (x : Examination) : Examination :=
  { x with binding := x.binding.withoutSkipped }

variable {F : Type}

/-- What is not started does not abort the run, binds nothing and asks no backend. -/
theorem Session.inert_of_notStarted {s : Session F} {c : Constants} {x : Examination}
    (h : x.stage = .notStarted) :
    x.abort? = none ∧ x.constants c = c ∧ s.consultations x = [] := by
  obtain ⟨reason, hending⟩ := x.stage_eq_notStarted_iff.1 h
  simp [Examination.abort?, Examination.constants, consultations, hending, Ending.failure?]

/-- What is not started can be left out of a run, as far as its error and the backends that are
asked in it are concerned. -/
theorem Run.filter_started (run : Run) (s : Session F) :
    Run.aborted? (run.filter fun x => x.stage ≠ .notStarted) = run.aborted? ∧
      (run.filter fun x => x.stage ≠ .notStarted).flatMap s.consultations =
        run.flatMap s.consultations := by
  induction run with
  | nil => exact ⟨rfl, rfl⟩
  | cons x rest ih =>
    obtain ⟨haborted, hasked⟩ := ih
    by_cases hstage : x.stage = .notStarted
    · obtain ⟨hnone, -, hnobody⟩ := Session.inert_of_notStarted hstage (s := s) (c := .empty)
      rw [List.filter_cons_of_neg (by simp [hstage]), haborted, hasked, aborted?_cons, hnone,
        List.flatMap_cons, hnobody]
      exact ⟨rfl, rfl⟩
    · rw [List.filter_cons_of_pos (by simp [hstage]), aborted?_cons, aborted?_cons, haborted,
        List.flatMap_cons, List.flatMap_cons, hasked]
      exact ⟨rfl, rfl⟩

namespace Session

variable [Foreign F] {s : Session F} {c : Constants} {b : Binding} {r : Request}

/-- Exactly the requests that are to be skipped are not started. -/
theorem stage_examine_eq_notStarted_iff :
    (s.examine c b r).stage = .notStarted ↔ r.isSkipped = true := by
  rw [stage_eq_notStarted_iff_skip, Request.isSkipped, ProofOptions.isSome_skipReason?_iff]

/-- What is asked besides a request is of no interest to its examination. -/
theorem examine_withoutSkipped (hpolicy : s.provable b.withoutSkipped = s.provable b) :
    s.examine c b.withoutSkipped r = (s.examine c b r).withoutSkipped := by
  simp only [examine, conclude, hpolicy]
  rfl

/-- The requests that are left have the examinations that they had. -/
theorem examineAll_withoutSkipped (hpolicy : ∀ b, s.provable b.withoutSkipped = s.provable b)
    (requests : List (Binding × Request)) (c : Constants) :
    s.examineAll ((requests.filter fun q => !q.2.isSkipped).map
        fun q => (q.1.withoutSkipped, q.2)) c =
      ((s.examineAll requests c).filter fun x => x.stage ≠ .notStarted).map
        Examination.withoutSkipped := by
  induction requests generalizing c with
  | nil => rfl
  | cons request rest ih =>
    obtain ⟨b, r⟩ := request
    cases hskipped : r.isSkipped with
    | true =>
      have hstage : (s.examine c b r).stage = .notStarted :=
        stage_examine_eq_notStarted_iff.2 hskipped
      obtain ⟨hnone, hconstants, -⟩ := inert_of_notStarted hstage (s := s) (c := c)
      rw [examineAll_of_goes_on hnone, List.filter_cons_of_neg (by simp [hskipped]),
        List.filter_cons_of_neg (by simp [hstage]), hconstants, ih]
    | false =>
      have hstage : (s.examine c b r).stage ≠ .notStarted := by
        rw [ne_eq, stage_examine_eq_notStarted_iff, hskipped]
        simp
      have hexamine : s.examine c b.withoutSkipped r = (s.examine c b r).withoutSkipped :=
        examine_withoutSkipped (hpolicy b)
      have habort : (s.examine c b.withoutSkipped r).abort? = (s.examine c b r).abort? := by
        rw [hexamine]
        rfl
      rw [List.filter_cons_of_pos (by simp [hskipped]), List.map_cons]
      cases hnone : (s.examine c b r).abort? with
      | some e =>
        rw [examineAll_of_aborts hnone, examineAll_of_aborts (habort.trans hnone), hexamine,
          List.filter_cons_of_pos (by simp [hstage])]
        rfl
      | none =>
        have hconstants : (s.examine c b.withoutSkipped r).constants c =
            (s.examine c b r).constants c := by
          rw [hexamine]
          rfl
        rw [examineAll_of_goes_on hnone, examineAll_of_goes_on (habort.trans hnone), hconstants, ih,
          hexamine, List.filter_cons_of_pos (by simp [hstage]), List.map_cons]

/-- The run of the program without the requests that are to be skipped is the run of the program
without their examinations. -/
theorem run_withoutSkipped (hpolicy : ∀ b, s.provable b.withoutSkipped = s.provable b)
    (p : Program) :
    s.run p.withoutSkipped = ((s.run p).filter fun x => x.stage ≠ .notStarted).map
      Examination.withoutSkipped := by
  rw [run, p.requests_withoutSkipped]
  exact examineAll_withoutSkipped hpolicy p.requests .empty

end Session

/-- Let the policy look at names and types of bindings only. Then the requests that are to be
skipped can be left out of a program: the findings of its run, but for those on requests that are
not started, the error of the run, and the obligations handed to backends stay as they are, in the
same order. In every run the backends that are handed an obligation are those that are consulted
about it, and their attempts at it are the ones that are found. -/
theorem Session.skipped_requests_inert_in_run [Foreign F] {s : Session F}
    (hpolicy : ∀ b b' : Binding, b.name = b'.name → b.type = b'.type → s.provable b = s.provable b')
    (p : Program) :
    (s.run p.withoutSkipped).map (·.finding) =
      ((s.run p).map (·.finding)).filter (fun f => f.stage ≠ .notStarted) ∧
    (s.run p.withoutSkipped).aborted? = (s.run p).aborted? ∧
    (s.run p.withoutSkipped).flatMap s.consultations = (s.run p).flatMap s.consultations ∧
    ∀ program, ∀ x ∈ s.run program,
      (x.finding.attempts = (s.consultations x).map fun asked => asked.1.attempt asked.2) ∧
      ∃ c b r, x = s.examine c b r ∧
        ∀ k o, (k, o) ∈ s.consultations x ↔ s.Consults c b r k o := by
  have hrun := run_withoutSkipped (fun b => hpolicy b.withoutSkipped b rfl rfl) p
  obtain ⟨haborted, hasked⟩ := Run.filter_started (s.run p) s
  rw [hrun]
  refine ⟨?_, ?_, ?_, fun program x hx => ?_⟩
  · rw [List.map_map, List.filter_map]
    rfl
  · exact (Run.aborted?_map fun x _ => (rfl : x.withoutSkipped.abort? = x.abort?)).trans haborted
  · rw [List.flatMap_map, ← hasked]
    rfl
  · obtain ⟨c, b, r, rfl⟩ := exists_examine_of_mem_run hx
    exact ⟨attempts_eq_map_consultations, c, b, r, rfl, fun k o => mem_consultations_iff⟩

/-- A session that would reject a constant, were it not skipped. -/
def selectiveSession : Session Empty :=
  { undecidedSession with provable := fun b => b.name ≠ "other" }

theorem skipped_requests_inert_in_run_of_boundedByConstant :
    (selectiveSession.run boundedByConstant).map (·.stage) =
      [.succeeded, .notStarted, .failedRecoverable, .failedFatal] ∧
    ((selectiveSession.run boundedByConstant.withoutSkipped).map (·.finding)).map (·.stage) =
      [.succeeded, .failedRecoverable, .failedFatal] ∧
    ((selectiveSession.run boundedByConstant.withoutSkipped).flatMap
        selectiveSession.consultations).map (fun asked => (asked.1.name, asked.2.goal.text)) =
      [("z3", "false"), ("z3", "(bvsle l0_x u0_limit)")] ∧
    ∀ x ∈ selectiveSession.run boundedByConstant, x.finding.attempts =
      (selectiveSession.consultations x).map fun asked => asked.1.attempt asked.2 := by
  have hpolicy : ∀ b b' : Binding, b.name = b'.name → b.type = b'.type →
      selectiveSession.provable b = selectiveSession.provable b' := by
    intro b b' hname _
    simp only [selectiveSession, hname]
  obtain ⟨hfindings, -, hasked, hattempts⟩ :=
    Session.skipped_requests_inert_in_run hpolicy boundedByConstant
  rw [hfindings, hasked]
  exact ⟨by decide, by decide, by decide, fun x hx => (hattempts _ x hx).1⟩

/-! ### Printed obligations -/

/-- The binding counts as the other one in a search for another name: it has the same name, type and
location, and is to be a constant if the other one is. -/
structure Binding.CountsAs (b d : Binding) : Prop where
  name_eq : b.name = d.name
  type_eq : b.type = d.type
  location_eq : b.location = d.location
  constant_iff : .constant ∈ b.requests.map Request.mode ↔ .constant ∈ d.requests.map Request.mode

/-- A change of all bindings but those of a name. -/
def Binding.unlessNamed (name : String) (change : Binding → Binding) (b : Binding) : Binding :=
  if b.name = name then b else change b

theorem Binding.CountsAs.constantKind_eq {b d : Binding} (h : b.CountsAs d) (p : Prelude F) :
    p.constantKind b = p.constantKind d := by
  unfold Prelude.constantKind
  rw [h.type_eq, h.name_eq, h.location_eq]

/-- A search comes to the same end if the bindings before the first one of the name are exchanged
for others that count as they do. -/
theorem Prelude.obligationNamed_map_unlessNamed [Foreign F] (p : Prelude F) {name : String}
    {change : Binding → Binding} {bindings : List Binding}
    (h : ∀ b ∈ bindings.takeWhile (·.name ≠ name), (change b).CountsAs b) (c : Constants) :
    p.obligationNamed name (bindings.map (Binding.unlessNamed name change)) c =
      p.obligationNamed name bindings c := by
  induction bindings generalizing c with
  | nil => rfl
  | cons b rest ih =>
    rw [List.map_cons]
    by_cases hname : b.name = name
    · -- what stands behind the binding that is looked for is of no interest
      have hsame : b.unlessNamed name change = b := if_pos hname
      rw [hsame, obligationNamed, obligationNamed, if_pos hname, if_pos hname]
    · have hchanged : b.unlessNamed name change = change b := if_neg hname
      rw [List.takeWhile_cons_of_pos (by simpa using hname)] at h
      have hcounts : (change b).CountsAs b := h b List.mem_cons_self
      have hrest (c : Constants) := ih (fun d hd => h d (List.mem_cons_of_mem b hd)) c
      have hname' : (change b).name ≠ name := by rwa [hcounts.name_eq]
      rw [hchanged]
      by_cases hm : .constant ∈ b.requests.map Request.mode
      · have hm' := hcounts.constant_iff.2 hm
        cases hk : p.constantKind b with
        | ok kind =>
          have hk' := (hcounts.constantKind_eq p).trans hk
          rw [obligationNamed_cons_of_constant hname' hm' hk',
            obligationNamed_cons_of_constant hname hm hk, hcounts.name_eq, hrest]
        | error e =>
          have hk' := (hcounts.constantKind_eq p).trans hk
          rw [obligationNamed_cons_of_untyped hname' hm' hk',
            obligationNamed_cons_of_untyped hname hm hk, hcounts.name_eq]
      · have hm' : .constant ∉ (change b).requests.map Request.mode :=
          fun h => hm (hcounts.constant_iff.1 h)
        rw [obligationNamed_cons_of_not_constant hname' hm',
          obligationNamed_cons_of_not_constant hname hm, hrest]

/-- The options but those to skip the request. -/
def ProofOptions.unskipped (o : ProofOptions) : ProofOptions :=
  o.filter fun
    | .skip _ => false
    | _ => true

/-- The request without its options to skip it. -/
def Request.unskipped : Request → Request
  | .prove options => .prove options.unskipped
  | .checkSafety options => .checkSafety options.unskipped
  | .uninterpret => .uninterpret

/-- The binding with its requests as though they were not to be skipped. -/
def Binding.unskipped (b : Binding) : Binding :=
  { b with requests := b.requests.map Request.unskipped }

/-- Being skipped has no part in the mode. -/
theorem Request.mode_unskipped (r : Request) : r.unskipped.mode = r.mode := by
  cases r with
  | prove options =>
    have huninterpret : options.unskipped.uninterpret = options.uninterpret := by
      simp [ProofOptions.uninterpret, ProofOptions.unskipped]
    have hsafety : options.unskipped.safety = options.safety := by
      simp [ProofOptions.safety, ProofOptions.unskipped]
    rw [unskipped, mode, mode, huninterpret, hsafety]
  | checkSafety options => rfl
  | uninterpret => rfl

theorem Binding.countsAs_unskipped (b : Binding) : b.unskipped.CountsAs b where
  name_eq := rfl
  type_eq := rfl
  location_eq := rfl
  constant_iff := by
    have hmodes : b.unskipped.requests.map Request.mode = b.requests.map Request.mode := by
      rw [Binding.unskipped, List.map_map]
      exact List.map_congr_left fun r _ => r.mode_unskipped
    rw [hmodes]

/-- Every constant that a skipped request on the binding stands for is also asked for by a request
that is not skipped. -/
def Binding.AsksAnyway (b : Binding) : Prop :=
  (∃ r ∈ b.requests, r.isSkipped = true ∧ r.mode = .constant) →
    ∃ r ∈ b.requests, r.isSkipped = false ∧ r.mode = .constant

instance (b : Binding) : Decidable b.AsksAnyway := inferInstanceAs (Decidable (_ → _))

theorem Binding.AsksAnyway.countsAs {b : Binding} (h : b.AsksAnyway) :
    b.withoutSkipped.CountsAs b where
  name_eq := rfl
  type_eq := rfl
  location_eq := rfl
  constant_iff := by
    simp only [List.mem_map, withoutSkipped, List.mem_filter, Bool.not_eq_eq_eq_not, Bool.not_true]
    constructor
    · rintro ⟨r, ⟨hr, -⟩, hm⟩
      exact ⟨r, hr, hm⟩
    · rintro ⟨r, hr, hm⟩
      cases hskipped : r.isSkipped with
      | false => exact ⟨r, ⟨hr, hskipped⟩, hm⟩
      | true =>
        obtain ⟨r', hr', hkept, hm'⟩ := h ⟨r, hr, hskipped, hm⟩
        exact ⟨r', ⟨hr', hkept⟩, hm'⟩

/-- The program with all bindings changed but those of a name. -/
def Program.unlessNamed (p : Program) (name : String) (change : Binding → Binding) : Program :=
  { p with bindings := p.bindings.map (Binding.unlessNamed name change) }

/-- Options to skip requests on other bindings are ignored when the obligation of a name is printed:
the requests count as though they did not have them. So the requests that are to be skipped can be
left out there if this loses no constant before the first binding of the name. -/
theorem Prelude.printed_obligation_ignores_skipping [Foreign F] (p : Prelude F)
    (program : Program) (name : String) :
    p.obligationOf (program.unlessNamed name Binding.unskipped) name = p.obligationOf program name ∧
    ((∀ b ∈ program.bindings.takeWhile (·.name ≠ name), b.AsksAnyway) →
      p.obligationOf (program.unlessNamed name Binding.withoutSkipped) name =
        p.obligationOf program name) := by
  constructor
  · exact p.obligationNamed_map_unlessNamed (fun b _ => b.countsAs_unskipped) .empty
  · intro h
    exact p.obligationNamed_map_unlessNamed (fun b hb => (h b hb).countsAs) .empty

/-- A constant that is to be skipped, and a bound by it. -/
def postponedConstant : Program :=
  ⟨none, [numberBinding "limit" [.prove [.uninterpret, .skip "later"]], boundedBinding [.prove []]]⟩

/-- The same with another request for the constant, and one more that is to be skipped. -/
def constantAskedTwice : Program :=
  ⟨none, [numberBinding "limit" [.prove [.uninterpret, .skip "later"], .uninterpret],
    numberBinding "other" [.checkSafety [.skip "slow"]], boundedBinding [.prove []]]⟩

/-- With the requests that are to be skipped left out, the first program has no obligation to print;
with only the options left out, it has the one that it had. The second program has the same one in
any case. -/
theorem printed_obligation_ignores_skipping_of_postponedConstant :
    let standard : Prelude Empty := .standard
    ∃ o, o.goal.text = "(bvsle l0_x u0_limit)" ∧
      standard.obligationOf postponedConstant "bounded" = .ok (some o) ∧
      standard.obligationOf
        (postponedConstant.unlessNamed "bounded" Binding.unskipped) "bounded" = .ok (some o) ∧
      (∃ e, standard.obligationOf
        (postponedConstant.unlessNamed "bounded" Binding.withoutSkipped) "bounded" =
          .error (.failed e)) ∧
      (∀ b ∈ constantAskedTwice.bindings.takeWhile (·.name ≠ "bounded"), b.AsksAnyway) ∧
      standard.obligationOf
        (constantAskedTwice.unlessNamed "bounded" Binding.withoutSkipped) "bounded" =
          .ok (some o) := by
  intro standard
  have hpostponed := standard.printed_obligation_ignores_skipping postponedConstant "bounded"
  have htwice := standard.printed_obligation_ignores_skipping constantAskedTwice "bounded"
  have hasks : ∀ b ∈ constantAskedTwice.bindings.takeWhile (·.name ≠ "bounded"), b.AsksAnyway := by
    decide
  have hprinted : ∃ o, o.goal.text = "(bvsle l0_x u0_limit)" ∧
      standard.obligationOf postponedConstant "bounded" = .ok (some o) ∧
      standard.obligationOf constantAskedTwice "bounded" = .ok (some o) :=
    ⟨_, by decide, rfl, rfl⟩
  obtain ⟨o, hgoal, hfirst, hsecond⟩ := hprinted
  exact ⟨o, hgoal, hfirst, hpostponed.1.trans hfirst, ⟨_, rfl⟩, hasks,
    (htwice.2 hasks).trans hsecond⟩

end CoreProver
