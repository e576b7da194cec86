import CoreProver.Proofs.Run.Course

/-!
# Where successes come from

A proof that an examination comes to was given by a backend that was asked, about the obligation of
the binding; only safety checks without side conditions succeed without one, and no failure hides a
proof.
-/

namespace CoreProver

/-! ### Side conditions -/

namespace Term

theorem exists_nonzero_of_mem_divisionConditions {t u : Term} (h : u ∈ t.divisionConditions) :
    ∃ divisor, u = nonzero divisor := by
  induction t with
  | var v => simp [divisionConditions] at h
  | bool value => simp [divisionConditions] at h
  | int value kind => simp [divisionConditions] at h
  | unary op operand ih => exact ih h
  | binary op left right ihl ihr =>
    simp only [divisionConditions, List.mem_append] at h
    rcases h with (h | h) | h
    · split at h
      · exact ⟨right, List.mem_singleton.1 h⟩
      · simp at h
    · exact ihl h
    · exact ihr h
  | ite condition yes no ihc ihy ihn =>
    simp only [divisionConditions, List.mem_append] at h
    rcases h with (h | h) | h
    · exact ihc h
    · exact ihy h
    · exact ihn h

/-- A conjunction of side conditions is trivial only if there are none. -/
theorem all_safetyConditions_eq_true_iff (t : Term) :
    all t.safetyConditions = .bool true ↔ t.safetyConditions = [] := by
  refine ⟨fun h => ?_, fun h => by rw [h, all_nil]⟩
  cases hconditions : t.safetyConditions with
  | nil => rfl
  | cons u us =>
    -- a single condition is a comparison, more than one are joined by a conjunction at the end
    rw [hconditions, all] at h
    cases us.eq_nil_or_concat with
    | inl hnil =>
      have hmem : u ∈ t.safetyConditions := by simp [hconditions]
      obtain ⟨divisor, rfl⟩ :=
        exists_nonzero_of_mem_divisionConditions ((mem_distinct u _).1 hmem)
      simp [hnil, nonzero] at h
    | inr hconcat =>
      obtain ⟨init, last, rfl⟩ := hconcat
      simp at h

end Term

variable {F : Type} [Foreign F]

/-- The body of the binding comes down to a term without side conditions. -/
def Prelude.Unconditional (p : Prelude F) (c : Constants) (b : Binding) : Prop :=
  ∃ t state, Evaluates p.types (p.scope c b) .initial b.body (.scalar t) state ∧
    t.safetyConditions = []

/-- A safety check is trivial exactly when the body has no side conditions. -/
theorem Prelude.unconditional_iff (p : Prelude F) (c : Constants) (b : Binding) :
    p.Unconditional c b ↔ ∃ o, (p.obligation c b .safety).1 = .ok o ∧ o.goal = .bool true := by
  simp only [Unconditional, ← Term.all_safetyConditions_eq_true_iff]
  constructor
  · rintro ⟨t, state, ht, hgoal⟩
    have heq := (evalSafety_eq_ok_iff p.types b.body (p.scope c b) .initial state _).2 ⟨t, ht, rfl⟩
    exact ⟨_, congrArg Prod.fst heq, hgoal⟩
  · rintro ⟨o, ho, hgoal⟩
    obtain ⟨t, ht, rfl⟩ := (evalSafety_eq_ok_iff p.types b.body (p.scope c b) .initial
      (p.obligation c b .safety).2 o).1 (Prod.ext ho rfl)
    exact ⟨t, _, ht, hgoal⟩

/-! ### Attempts and verdicts -/

/-- The backend answers that the obligation holds. -/
def Backend.Proves (k : Backend) (o : Obligation) : Prop :=
  ∃ raw, k.check o = .answered ⟨.proved, raw⟩

theorem Attempt.isProved_iff (a : Attempt) : a.isProved = true ↔ a.kind = .proved := by
  unfold isProved kind
  cases a.outcome with
  | error fault => simp
  | ok response => cases hanswer : response.answer <;> simp [Answer.kind, hanswer]

theorem Backend.isProved_attempt_iff (k : Backend) (o : Obligation) :
    (k.attempt o).isProved = true ↔ k.Proves o := by
  unfold attempt Attempt.isProved Proves
  cases k.check o with
  | answered response =>
    obtain ⟨answer, raw⟩ := response
    simp
  | faulted fault => simp
  | crashed crash => simp

namespace Verdict

theorem adopted_mem (v : Verdict) : v.adopted ∈ v.attempts := List.get_mem ..

/-- A proof is adopted as soon as there is one. -/
theorem isProved_iff_of_ofAttempts? {attempts : List Attempt} {v : Verdict}
    (h : ofAttempts? attempts = some v) :
    v.isProved = true ↔ ∃ a ∈ attempts, a.isProved = true := by
  refine ⟨fun hv => ⟨v.adopted, attempts_of_ofAttempts? h ▸ v.adopted_mem, hv⟩, ?_⟩
  rintro ⟨a, ha, hproved⟩
  cases attempts with
  | nil => simp at ha
  | cons first rest =>
    simp only [ofAttempts?, Option.some.injEq] at h
    have hsome : ((first :: rest).findFinIdx? Attempt.isProved).isSome = true := by
      rw [List.isSome_findFinIdx?]
      exact List.any_eq_true.2 ⟨a, ha, hproved⟩
    obtain ⟨i, hi⟩ := Option.isSome_iff_exists.1 hsome
    subst h
    simp only [isProved, adopted, hi, Option.some_or, Option.getD_some]
    exact (List.findFinIdx?_eq_some_iff.1 hi).1

end Verdict

/-- A verdict is a proof as soon as one of the backends gave one. -/
theorem isProved_iff_of_prove? {o : Obligation} {backends : List Backend} {v : Verdict}
    (h : prove? o backends = some v) :
    v.isProved = true ↔ ∃ k ∈ backends, k.Proves o := by
  rw [Verdict.isProved_iff_of_ofAttempts? h]
  simp [Backend.isProved_attempt_iff]

/-! ### Examinations -/

/-- The attempts that a finding tells about. -/
def Finding.attempts (f : Finding) : List Attempt := (f.verdict.map Verdict.attempts).getD []

namespace Session

/-- The backend is one of those that are asked about the obligation of the request. -/
structure Consults (s : Session F) (c : Constants) (b : Binding) (r : Request) (k : Backend)
    (o : Obligation) : Prop where
  poses : s.Poses c b r o
  selected : ∃ backends, s.pool (s.selectorsFor r) (s.isVerbose r) = .ok backends ∧ k ∈ backends

/-- A backend that is asked about the obligation of the request proves it. -/
def Proven (s : Session F) (c : Constants) (b : Binding) (r : Request) : Prop :=
  ∃ k o, s.Consults c b r k o ∧ k.Proves o

variable {s : Session F} {c : Constants} {b : Binding} {r : Request}

theorem Consults.exists_verdict {k : Backend} {o : Obligation} (h : s.Consults c b r k o) :
    ∃ backends v, s.pool (s.selectorsFor r) (s.isVerbose r) = .ok backends ∧ k ∈ backends ∧
      prove? o backends = some v ∧
      (s.examine c b r).ending = .judged o (s.selectorsFor r) v := by
  obtain ⟨hposes, backends, hpool, hk⟩ := h
  have hsome : prove? o backends ≠ none := by
    rw [ne_eq, prove?_eq_none_iff]
    exact List.ne_nil_of_mem hk
  obtain ⟨v, hv⟩ := Option.ne_none_iff_exists'.1 hsome
  exact ⟨backends, v, hpool, hk, hv, (Concludes.judged hposes hpool hv).ending_eq⟩

/-- The backends that are asked in an examination, each with the obligation that it is handed, in
order. -/
def consultations (s : Session F) (x : Examination) : List (Backend × Obligation) :=
  match x.ending with
  | .judged o selectors _ =>
    match s.pool selectors x.verbose with
    | .ok backends => backends.map fun k => (k, o)
    | .error _ => []
  | _ => []

/-- A backend is asked about an obligation exactly when the two stand in the list. -/
theorem mem_consultations_iff {k : Backend} {o : Obligation} :
    (k, o) ∈ s.consultations (s.examine c b r) ↔ s.Consults c b r k o := by
  constructor
  · intro hmem
    have hends := s.concludes_ending c b r
    unfold consultations at hmem
    generalize (s.examine c b r).ending = e at hmem hends
    cases hends with
    | @judged o' backends v hposes hpool hv =>
      simp only [examine_verbose, hpool] at hmem
      obtain ⟨k', hk', heq⟩ := List.mem_map.1 hmem
      obtain ⟨rfl, rfl⟩ := Prod.mk.inj heq
      exact ⟨hposes, backends, hpool, hk'⟩
    | _ => simp at hmem
  · intro hconsults
    obtain ⟨backends, v, hpool, hk, -, hending⟩ := hconsults.exists_verdict
    rw [consultations, hending, examine_verbose]
    simp only [hpool]
    exact List.mem_map.2 ⟨k, hk, rfl⟩

/-- The attempts that are told about are those of the backends that are asked, in their order, each
at the obligation that it is handed. -/
theorem attempts_eq_map_consultations :
    (s.examine c b r).finding.attempts =
      (s.consultations (s.examine c b r)).map fun asked => asked.1.attempt asked.2 := by
  have hends := s.concludes_ending c b r
  unfold consultations
  simp only [Finding.attempts, Examination.finding, examine_verbose]
  generalize (s.examine c b r).ending = e at hends
  cases hends with
  | judged hposes hpool hv =>
    simp only [Ending.verdict?, hpool, List.map_map]
    exact Verdict.attempts_of_ofAttempts? hv
  | _ => rfl

/-- A request is proven exactly when it ends with the verdict that it is. -/
theorem proven_iff :
    s.Proven c b r ↔ ∃ o selectors v,
      (s.examine c b r).ending = .judged o selectors v ∧ v.isProved = true := by
  constructor
  · rintro ⟨k, o, hconsults, hproves⟩
    obtain ⟨backends, v, -, hk, hv, hending⟩ := hconsults.exists_verdict
    have hproved := (isProved_iff_of_prove? hv).2 ⟨k, hk, hproves⟩
    exact ⟨o, _, v, hending, hproved⟩
  · rintro ⟨o, selectors, v, hending, hproved⟩
    cases ending_eq_iff.1 hending with
    | judged hposes hpool hv =>
      obtain ⟨k, hk, hproves⟩ := (isProved_iff_of_prove? hv).1 hproved
      exact ⟨k, o, ⟨hposes, _, hpool, hk⟩, hproves⟩

/-- A safety check is trivial exactly when it is looked at and its body has no side conditions. -/
theorem exists_trivial_iff (hmode : r.mode = .safety) :
    (∃ o, (s.examine c b r).ending = .trivial o) ↔
      s.Admits b r ∧ s.prelude.Unconditional c b := by
  rw [Prelude.unconditional_iff, ← hmode]
  constructor
  · rintro ⟨o, hending⟩
    cases ending_eq_iff.1 hending with
    | trivial h _ hgoal => exact ⟨h.admits, o, h.result_eq, hgoal⟩
  · rintro ⟨hadmits, o, ho, hgoal⟩
    have hyields : s.Yields c b r (.ok o) := ⟨hadmits, by simp [hmode], ho⟩
    exact ⟨o, (Concludes.trivial hyields hmode hgoal).ending_eq⟩

/-- Evaluations that pose no obligation are settled without backends. -/
theorem settle_withPool (h : ¬ ∃ o, s.Poses c b r o) (pool : Pool)
    {result : Except Stop Obligation} (hresult : s.Yields c b r result) :
    (s.withPool pool).settle r result = s.settle r result := by
  cases result with
  | error stop => cases stop <;> rfl
  | ok o =>
    have htrivial : r.mode = .safety ∧ o.goal = .bool true := by
      by_contra hnot
      exact h ⟨o, hresult, hnot⟩
    rw [settle, settle, if_pos htrivial, if_pos htrivial]

/-- Backends matter only where an obligation is posed. -/
theorem examine_withPool (h : ¬ ∃ o, s.Poses c b r o) (pool : Pool) :
    (s.withPool pool).examine c b r = s.examine c b r := by
  have hconclude : (s.withPool pool).conclude c b r = s.conclude c b r := by
    unfold conclude
    cases hskip : r.options.skipReason? with
    | some reason => rfl
    | none =>
      cases hb : s.provable b with
      | false => simp [withPool, hb]
      | true =>
        by_cases hmode : r.mode = .constant
        · simp [withPool, hb, hmode]
        · have hyields : s.Yields c b r (s.prelude.obligation c b r.mode).1 :=
            ⟨⟨hskip, hb⟩, hmode, rfl⟩
          have hsettle := settle_withPool h pool hyields
          simpa [withPool, hb, hmode] using hsettle
  simp only [examine, hconclude]
  rfl

end Session

/-- The stage of an examination that came to a verdict is that of the verdict. -/
theorem Examination.stage_eq_succeeded_iff_isProved {x : Examination} {v : Verdict}
    (hv : x.ending.verdict? = some v) : x.stage = .succeeded ↔ v.isProved = true := by
  cases hending : x.ending with
  | judged o selectors w =>
    obtain rfl : w = v := by simpa [hending, Ending.verdict?] using hv
    simp [stage_eq_succeeded_iff, hending]
  | _ => simp [hending, Ending.verdict?] at hv

namespace Session

variable (s : Session F) (c : Constants) (b : Binding) (r : Request)

/-- The stage that an examination comes to is that which the backends justify. -/
structure Justified : Prop where
  /-- The attempts of a verdict are those of all backends that are asked. -/
  attempts : ∀ v, (s.examine c b r).ending.verdict? = some v →
    ∃ o backends, s.Poses c b r o ∧ s.pool (s.selectorsFor r) (s.isVerbose r) = .ok backends ∧
      v.attempts = backends.map fun k => k.attempt o
  /-- A property is established if there is a verdict and a backend proved the obligation. -/
  proof : r.mode = .proof → ((s.examine c b r).stage = .succeeded ↔
    (s.examine c b r).ending.verdict?.isSome = true ∧ s.Proven c b r)
  /-- Safety is also established if there is nothing to prove. -/
  safety : r.mode = .safety → ((s.examine c b r).stage = .succeeded ↔
    (s.Admits b r ∧ s.prelude.Unconditional c b) ∨ s.Proven c b r)
  /-- If there is nothing to prove, backends have no part in it. -/
  unasked : r.mode = .safety → s.prelude.Unconditional c b →
    (¬ ∃ k o, s.Consults c b r k o) ∧ (s.examine c b r).ending.verdict? = none ∧
      ∀ pool, (s.withPool pool).examine c b r = s.examine c b r
  /-- No proof is among the attempts of a failure. -/
  failed : (s.examine c b r).stage.isFailure = true →
    ∀ v, (s.examine c b r).ending.verdict? = some v → ∀ a ∈ v.attempts, a.kind ≠ .proved

variable {s c b r}

/-- A verdict is the one on the attempts of all backends that are asked. -/
theorem exists_prove?_eq {v : Verdict} (h : (s.examine c b r).ending.verdict? = some v) :
    ∃ o backends, s.Poses c b r o ∧ s.pool (s.selectorsFor r) (s.isVerbose r) = .ok backends ∧
      prove? o backends = some v := by
  have hends := s.concludes_ending c b r
  generalize (s.examine c b r).ending = e at h hends
  cases hends with
  | judged hposes hpool hv => exact ⟨_, _, hposes, hpool, hv.trans h⟩
  | _ => simp [Ending.verdict?] at h

theorem Proven.isSome_verdict? (h : s.Proven c b r) :
    (s.examine c b r).ending.verdict?.isSome = true := by
  obtain ⟨o, selectors, v, hending, -⟩ := proven_iff.1 h
  simp [hending, Ending.verdict?]

theorem not_poses_of_unconditional (hmode : r.mode = .safety)
    (h : s.prelude.Unconditional c b) : ¬ ∃ o, s.Poses c b r o := by
  obtain ⟨o, ho, hgoal⟩ := (s.prelude.unconditional_iff c b).1 h
  rintro ⟨o', hyields, hnot⟩
  have hresult := hyields.result_eq
  rw [hmode, ho] at hresult
  obtain rfl := Except.ok.inj hresult
  exact hnot ⟨hmode, hgoal⟩

/-- Every examination comes to the stage that the backends justify. -/
theorem justified (s : Session F) (c : Constants) (b : Binding) (r : Request) :
    s.Justified c b r where
  attempts v hv := by
    obtain ⟨o, backends, hposes, hpool, hprove⟩ := exists_prove?_eq hv
    exact ⟨o, backends, hposes, hpool, Verdict.attempts_of_ofAttempts? hprove⟩
  proof hmode := by
    rw [Examination.stage_eq_succeeded_iff, ← proven_iff]
    constructor
    · rintro (⟨kind, hending⟩ | ⟨o, hending⟩ | hproven)
      · cases ending_eq_iff.1 hending with
        | bound _ hconstant _ => simp [hmode] at hconstant
      · cases ending_eq_iff.1 hending with
        | trivial _ hsafety _ => simp [hmode] at hsafety
      · exact ⟨hproven.isSome_verdict?, hproven⟩
    · exact fun h => .inr (.inr h.2)
  safety hmode := by
    rw [Examination.stage_eq_succeeded_iff, ← proven_iff, exists_trivial_iff hmode]
    constructor
    · rintro (⟨kind, hending⟩ | h)
      · cases ending_eq_iff.1 hending with
        | bound _ hconstant _ => simp [hmode] at hconstant
      · exact h
    · exact .inr
  unasked hmode h := by
    have hnot := not_poses_of_unconditional hmode h
    refine ⟨fun ⟨_, o, hconsults⟩ => hnot ⟨o, hconsults.poses⟩, ?_, examine_withPool hnot⟩
    rw [Option.eq_none_iff_forall_ne_some]
    intro v hv
    obtain ⟨o, -, hposes, -⟩ := exists_prove?_eq hv
    exact hnot ⟨o, hposes⟩
  failed hfailure v hv a ha hkind := by
    obtain ⟨o, backends, -, -, hprove⟩ := exists_prove?_eq hv
    rw [Verdict.attempts_of_ofAttempts? hprove] at ha
    have hproved := (Verdict.isProved_iff_of_ofAttempts? hprove).2
      ⟨a, ha, a.isProved_iff.2 hkind⟩
    have hsucceeded := (Examination.stage_eq_succeeded_iff_isProved hv).2 hproved
    simp [hsucceeded, Stage.isFailure] at hfailure

end Session

end CoreProver
