import CoreProver.Proofs.Crashes
import CoreProver.Proofs.Run.Discipline
import CoreProver.Proofs.Run.Noninterference
import CoreProver.Proofs.Run.Provenance

/-!
# Printed obligations

The obligation of a binding can be printed without a run. For this the bindings before it are gone
through once more, by other rules than those of a run: nothing is asked of backends, and nothing is
skipped or rejected. Where a run skips and rejects nothing either, both go through the program with
the same tables of constants, so that what is printed is what a run hands to the backends.
-/

namespace CoreProver

/-- The requests on a binding. -/
def Binding.asked (b : Binding) : List (Binding × Request) := b.requests.map fun r => (b, r)

theorem mem_flatMap_asked {bindings : List Binding} {b : Binding} {r : Request} :
    (b, r) ∈ bindings.flatMap Binding.asked ↔ b ∈ bindings ∧ r ∈ b.requests := by
  simp only [List.mem_flatMap, Binding.asked, List.mem_map, Prod.mk.injEq]
  constructor
  · rintro ⟨d, hd, r', hr', rfl, rfl⟩
    exact ⟨hd, hr'⟩
  · rintro ⟨hb, hr⟩
    exact ⟨b, hb, r, hr, rfl, rfl⟩

/-- What is printed of an evaluation. -/
def Binding.printed (b : Binding) :
    Except Stop Obligation → Except ObligationStop (Option Obligation)
  | .ok o => .ok (some o)
  | .error (.failed e) => .error (.failed (.coverage b.name e))
  | .error (.crashed crash) => .error (.crashed crash)

/-- The names of bindings tell them apart, and each has one request at most, which is not
skipped. -/
structure Plain (bindings : List Binding) : Prop where
  nodup_names : (bindings.map (·.name)).Nodup
  length_requests : ∀ b ∈ bindings, b.requests.length ≤ 1
  not_skipped : ∀ b ∈ bindings, ∀ r ∈ b.requests, ∀ reason, .skip reason ∉ r.options

theorem Plain.tail {b : Binding} {rest : List Binding} (h : Plain (b :: rest)) : Plain rest where
  nodup_names := (List.nodup_cons.1 h.nodup_names).2
  length_requests := fun d hd => h.length_requests d (List.mem_cons_of_mem b hd)
  not_skipped := fun d hd => h.not_skipped d (List.mem_cons_of_mem b hd)

theorem Plain.name_ne {b d : Binding} {rest : List Binding} (h : Plain (b :: rest))
    (hd : d ∈ rest) : b.name ≠ d.name := by
  have hnot := (List.nodup_cons.1 h.nodup_names).1
  intro hname
  exact hnot (List.mem_map.2 ⟨d, hd, hname.symm⟩)

theorem Plain.skipReason?_eq_none {bindings : List Binding} (h : Plain bindings) {b : Binding}
    (hb : b ∈ bindings) {r : Request} (hr : r ∈ b.requests) : r.options.skipReason? = none := by
  rw [← Option.not_isSome_iff_eq_none, ProofOptions.isSome_skipReason?_iff]
  rintro ⟨reason, hmem⟩
  exact h.not_skipped b hb r hr reason hmem

theorem Plain.requests_cases {b : Binding} {rest : List Binding} (h : Plain (b :: rest)) :
    b.requests = [] ∨ ∃ r, b.requests = [r] ∧ r.options.skipReason? = none := by
  have hlength := h.length_requests b List.mem_cons_self
  cases hrequests : b.requests with
  | nil => exact .inl rfl
  | cons r others =>
    have hothers : others = [] := by
      rw [hrequests, List.length_cons] at hlength
      rw [← List.length_eq_zero_iff]
      omega
    have hnone := h.skipReason?_eq_none List.mem_cons_self (hrequests ▸ List.mem_cons_self)
    exact .inr ⟨r, by rw [hothers], hnone⟩

/-! ### One binding of the search -/

variable {F : Type} [Foreign F]

namespace Prelude

variable {p : Prelude F} {name : String} {b : Binding} {r : Request}

/-- At the binding that is looked for, its obligation is printed. -/
theorem obligationNamed_cons_self (hrequests : b.requests = [r]) (hm : r.mode ≠ .constant)
    (rest : List Binding) (c : Constants) :
    p.obligationNamed b.name (b :: rest) c = b.printed (p.obligation c b r.mode).1 := by
  have hfind : (b.requests.map Request.mode).find? (· ≠ .constant) = some r.mode := by
    simp [hrequests, hm]
  rw [obligationNamed, if_pos rfl, hfind]
  dsimp only
  cases (p.obligation c b r.mode).1 with
  | ok o => rfl
  | error stop => cases stop <;> rfl

/-- A binding of another name is passed over if it is not to be a constant. -/
theorem obligationNamed_cons_of_not_constant (hname : b.name ≠ name)
    (hm : .constant ∉ b.requests.map Request.mode) (rest : List Binding) (c : Constants) :
    p.obligationNamed name (b :: rest) c = p.obligationNamed name rest c := by
  rw [obligationNamed, if_neg hname, if_neg (by rwa [List.contains_iff_mem])]

/-- A binding of another name that is to be a constant becomes one. -/
theorem obligationNamed_cons_of_constant (hname : b.name ≠ name)
    (hm : .constant ∈ b.requests.map Request.mode) {kind : Kind} (hk : p.constantKind b = .ok kind)
    (rest : List Binding) (c : Constants) :
    p.obligationNamed name (b :: rest) c = p.obligationNamed name rest (c.bind b.name kind) := by
  rw [obligationNamed, if_neg hname, if_pos (by rwa [List.contains_iff_mem]), hk]

/-- A binding of another name that cannot be made a constant is the end of the search. -/
theorem obligationNamed_cons_of_untyped (hname : b.name ≠ name)
    (hm : .constant ∈ b.requests.map Request.mode) {e : EvalError}
    (hk : p.constantKind b = .error e) (rest : List Binding) (c : Constants) :
    p.obligationNamed name (b :: rest) c = .error (.failed (.coverage b.name e)) := by
  rw [obligationNamed, if_neg hname, if_pos (by rwa [List.contains_iff_mem]), hk]

end Prelude

/-! ### One binding of a run -/

namespace Session

variable {s : Session F} {c : Constants} {b : Binding} {r : Request}

/-- Only requests for constants change the table. -/
theorem constants_examine_of_mode_ne (hm : r.mode ≠ .constant) (c' : Constants) :
    (s.examine c b r).constants c' = c' := by
  have hends := s.concludes_ending c b r
  unfold Examination.constants
  generalize (s.examine c b r).ending = e at hends
  cases hends with
  | bound _ hconstant _ => exact absurd hconstant hm
  | _ => rfl

/-- Passing over a binding of another name, the search comes to the table that the run comes to, as
long as that goes on. -/
theorem obligationNamed_cons_eq {name : String} (hname : b.name ≠ name)
    (hrequests : b.requests = [r]) (ha : s.Admits b r)
    (hnone : (s.examine c b r).abort? = none) (rest : List Binding) :
    s.prelude.obligationNamed name (b :: rest) c =
      s.prelude.obligationNamed name rest ((s.examine c b r).constants c) := by
  by_cases hm : r.mode = .constant
  · have hconstant : .constant ∈ b.requests.map Request.mode := by simp [hrequests, hm]
    cases hk : s.prelude.constantKind b with
    | ok kind =>
      have hending := (Concludes.bound ha hm hk (c := c)).ending_eq
      rw [Prelude.obligationNamed_cons_of_constant hname hconstant hk, Examination.constants,
        hending]
      rfl
    | error e =>
      have hending := (Concludes.untyped ha hm hk (c := c)).ending_eq
      simp [Examination.abort?, hending] at hnone
  · have hconstant : .constant ∉ b.requests.map Request.mode := by
      simpa [hrequests] using Ne.symm hm
    rw [Prelude.obligationNamed_cons_of_not_constant hname hconstant,
      constants_examine_of_mode_ne hm]

/-- A request for a constant aborts with the error with which the search ends. -/
theorem obligationNamed_cons_eq_error {name : String} (hname : b.name ≠ name)
    (hrequests : b.requests = [r]) (ha : s.Admits b r) (hm : r.mode = .constant) {e : RunError}
    (he : (s.examine c b r).abort? = some e) (rest : List Binding) :
    s.prelude.obligationNamed name (b :: rest) c = .error (.failed e) := by
  have hconstant : .constant ∈ b.requests.map Request.mode := by simp [hrequests, hm]
  cases hk : s.prelude.constantKind b with
  | ok kind =>
    have hending := (Concludes.bound ha hm hk (c := c)).ending_eq
    simp [Examination.abort?, hending, Ending.failure?] at he
  | error error =>
    have hending := (Concludes.untyped ha hm hk (c := c)).ending_eq
    have hcoverage : RunError.coverage b.name error = e := by
      simpa [Examination.abort?, hending] using he
    rw [Prelude.obligationNamed_cons_of_untyped hname hconstant hk, hcoverage]

/-- Exactly the backends that the selectors stand for are handed the obligation, unless it is the
trivial one of a safety check. -/
theorem Yields.mem_consultations_iff {o : Obligation} (h : s.Yields c b r (.ok o)) {k : Backend}
    {o' : Obligation} :
    (k, o') ∈ s.consultations (s.examine c b r) ↔
      o' = o ∧ ¬(r.mode = .safety ∧ o.goal = .bool true) ∧
        ∃ backends, s.pool (s.selectorsFor r) (s.isVerbose r) = .ok backends ∧ k ∈ backends := by
  rw [Session.mem_consultations_iff]
  constructor
  · rintro ⟨⟨hyields, hposed⟩, hselected⟩
    obtain rfl := Except.ok.inj (hyields.result_eq.symm.trans h.result_eq)
    exact ⟨rfl, hposed, hselected⟩
  · rintro ⟨rfl, hposed, hselected⟩
    exact ⟨⟨h, hposed⟩, hselected⟩

namespace CourseWith

variable {pools : Set Pool} {bindings rest : List Binding} {run : Run} {x : Examination}

theorem binding_mem (h : s.CourseWith pools (bindings.flatMap Binding.asked) c run) (hx : x ∈ run) :
    x.binding ∈ bindings := by
  obtain ⟨before, after, rfl⟩ := List.append_of_mem hx
  obtain ⟨b, r, pool, -, hget, rfl, -⟩ := h.exists_request
  exact (mem_flatMap_asked.1 (List.mem_of_getElem? hget)).1

/-- An examination is that of the first binding, or it is made on a later one. In the latter case
the run went on past the first binding, and so does a search for a name other than its own, to the
same table. -/
theorem examined_here_or_later (hpolicy : ∀ b, s.provable b = true) (hplain : Plain (b :: rest))
    (h : s.CourseWith pools ((b :: rest).flatMap Binding.asked) c run) (hx : x ∈ run) :
    (∃ r pool, b.requests = [r] ∧ (s.withPool pool).Admits b r ∧
      x = (s.withPool pool).examine c b r) ∨
    x.binding ∈ rest ∧ ∃ c' xs, s.CourseWith pools (rest.flatMap Binding.asked) c' xs ∧ x ∈ xs ∧
      ∀ name, b.name ≠ name →
        s.prelude.obligationNamed name (b :: rest) c = s.prelude.obligationNamed name rest c' := by
  rcases hplain.requests_cases with hnil | ⟨r, hrequests, hskip⟩
  · have hrest : s.CourseWith pools (rest.flatMap Binding.asked) c run := by
      simpa [Binding.asked, hnil] using h
    refine .inr ⟨hrest.binding_mem hx, c, run, hrest, hx, fun name hname => ?_⟩
    exact Prelude.obligationNamed_cons_of_not_constant hname (by simp [hnil]) rest c
  · have hasked : (b :: rest).flatMap Binding.asked = (b, r) :: rest.flatMap Binding.asked := by
      simp [Binding.asked, hrequests]
    rw [hasked] at h
    cases h with
    | stopped pool _ h =>
      exact .inl ⟨r, pool, hrequests, ⟨hskip, hpolicy b⟩, List.mem_singleton.1 hx⟩
    | @next _ _ _ _ xs pool _ hnone hrest =>
      have ha : (s.withPool pool).Admits b r := ⟨hskip, hpolicy b⟩
      rcases List.mem_cons.1 hx with rfl | hx
      · exact .inl ⟨r, pool, hrequests, ha, rfl⟩
      · refine .inr ⟨hrest.binding_mem hx, _, xs, hrest, hx, fun name hname => ?_⟩
        exact obligationNamed_cons_eq (s := s.withPool pool) hname hrequests ha hnone rest

/-- What is printed for the name of a binding that is evaluated in the run is what the evaluation
came to. -/
theorem obligationNamed_eq_printed (hpolicy : ∀ b, s.provable b = true) (hplain : Plain bindings)
    (h : s.CourseWith pools (bindings.flatMap Binding.asked) c run) (hx : x ∈ run)
    (hm : x.mode ≠ .constant) :
    ∃ result, x.ending.outcome? = some result ∧
      s.prelude.obligationNamed x.binding.name bindings c = x.binding.printed result := by
  induction bindings generalizing c run with
  | nil =>
    cases h
    simp at hx
  | cons b rest ih =>
    rcases h.examined_here_or_later hpolicy hplain hx with
      ⟨r, pool, hrequests, ha, rfl⟩ | ⟨hmem, c', xs, hrest, hxs, hpass⟩
    · have hprinted := Prelude.obligationNamed_cons_self (p := s.prelude) hrequests hm rest c
      exact ⟨_, outcome?_examine_of_admits ha hm, hprinted⟩
    · rw [hpass x.binding.name (hplain.name_ne hmem)]
      exact ih hplain.tail hrest hxs

/-- Whatever is examined to be proved or to be checked is evaluated, and what this comes to is
printed. -/
theorem exists_yields (hpolicy : ∀ b, s.provable b = true) (hplain : Plain bindings)
    {before after : Run}
    (h : s.CourseWith pools (bindings.flatMap Binding.asked) .empty (before ++ x :: after))
    (hm : x.mode ≠ .constant) :
    ∃ r pool result, (bindings.flatMap Binding.asked)[before.length]? = some (x.binding, r) ∧
      x = (s.withPool pool).examine before.constants x.binding r ∧
      (s.withPool pool).Yields before.constants x.binding r result ∧
      s.prelude.obligationNamed x.binding.name bindings .empty = x.binding.printed result := by
  have hx : x ∈ before ++ x :: after := by simp
  obtain ⟨result, hresult, hprinted⟩ := h.obligationNamed_eq_printed hpolicy hplain hx hm
  obtain ⟨b, r, pool, -, hget, hexamine, -⟩ := h.exists_request
  obtain ⟨hb, hr⟩ := mem_flatMap_asked.1 (List.mem_of_getElem? hget)
  have hbinding : x.binding = b := by rw [hexamine, examine_binding]
  have hmode : r.mode ≠ .constant := by rwa [hexamine, examine_mode] at hm
  have hadmits : (s.withPool pool).Admits b r := ⟨hplain.skipReason?_eq_none hb hr, hpolicy b⟩
  have houtcome := outcome?_examine_of_admits (c := before.constants) hadmits hmode
  have heq : ((s.withPool pool).prelude.obligation before.constants b r.mode).1 = result := by
    rw [hexamine] at hresult
    exact Option.some.inj (houtcome.symm.trans hresult)
  rw [hbinding] at hprinted ⊢
  exact ⟨r, pool, result, hget, hexamine, ⟨hadmits, hmode, heq⟩, hprinted⟩

/-- For a name that is not found up to a binding that cannot be made a constant, the error of the
run is printed. -/
theorem obligationNamed_eq_error (hpolicy : ∀ b, s.provable b = true) {front back : List Binding}
    (hplain : Plain (front ++ x.binding :: back))
    (h : s.CourseWith pools ((front ++ x.binding :: back).flatMap Binding.asked) c run)
    (hx : x ∈ run) (hm : x.mode = .constant) {e : RunError} (he : x.abort? = some e) {name : String}
    (hname : ∀ b ∈ front ++ [x.binding], b.name ≠ name) :
    s.prelude.obligationNamed name (front ++ x.binding :: back) c = .error (.failed e) := by
  induction front generalizing c run with
  | nil =>
    have hne : x.binding.name ≠ name := hname x.binding (by simp)
    rcases h.examined_here_or_later hpolicy hplain hx with
      ⟨r, pool, hrequests, ha, hexamine⟩ | ⟨hmem, -⟩
    · rw [hexamine] at he hm
      exact obligationNamed_cons_eq_error (s := s.withPool pool) hne hrequests ha hm he back
    · exact absurd rfl (hplain.name_ne hmem)
  | cons b front ih =>
    have hne : b.name ≠ name := hname b (by simp)
    have hlater : x.binding ∈ front ++ x.binding :: back := by simp
    rw [List.cons_append] at h hplain ⊢
    rcases h.examined_here_or_later hpolicy hplain hx with
      ⟨r, pool, -, -, hexamine⟩ | ⟨-, c', xs, hrest, hxs, hpass⟩
    · have hhere : x.binding = b := by rw [hexamine, examine_binding]
      exact absurd (congrArg Binding.name hhere.symm) (hplain.name_ne hlater)
    · rw [hpass name hne]
      exact ih hplain.tail hrest hxs fun d hd => hname d (List.mem_cons_of_mem b hd)

end CourseWith

end Session

/-- What is printed is what is checked. In a session whose prelude does not crash and whose policy
accepts every binding, let a run of a plain program examine a binding to prove it or to check its
safety. Then the obligation that is printed for the name is the one that the run goes on with: a
safety check without conditions ends with it, any other obligation is handed to every backend that
the selectors stand for, and the attempts are what these make of it. Or the coverage error is
printed that aborts the run there. If a binding that cannot be made a constant aborts the run, its
error is printed for every name that is not found up to that binding. -/
theorem Session.printed_obligation_is_checked {s : Session F} (hprelude : s.prelude.CrashFree)
    (hpolicy : ∀ b, s.provable b = true) {p : Program} (hplain : Plain p.bindings) {run : Run}
    (hrun : s.Course p.requests .empty run) (name : String) :
    (∀ (before : Run) x after, run = before ++ x :: after → x.binding.name = name →
      x.mode ≠ .constant →
      (∃ o r pool, s.prelude.obligationOf p name = .ok (some o) ∧
        p.requests[before.length]? = some (x.binding, r) ∧
        x = (s.withPool pool).examine before.constants x.binding r ∧
        (x.ending = if x.mode = .safety ∧ o.goal = .bool true then .trivial o
          else (s.withPool pool).solve r o) ∧
        (∀ k o', (k, o') ∈ (s.withPool pool).consultations x ↔
          o' = o ∧ ¬(x.mode = .safety ∧ o.goal = .bool true) ∧
            ∃ backends, pool (s.selectorsFor r) (s.isVerbose r) = .ok backends ∧ k ∈ backends) ∧
        x.finding.attempts =
          ((s.withPool pool).consultations x).map fun asked => asked.1.attempt asked.2) ∨
      ∃ e, s.prelude.obligationOf p name = .error (.failed (.coverage name e)) ∧
        run.aborted? = some (.coverage name e) ∧ x.ending = .uncovered e ∧ after = []) ∧
    ∀ x ∈ run, x.mode = .constant → ∀ e, x.abort? = some e →
      run.aborted? = some e ∧ ∀ front back, p.bindings = front ++ x.binding :: back →
        name ∉ (front ++ [x.binding]).map (·.name) →
        s.prelude.obligationOf p name = .error (.failed e) := by
  refine ⟨?_, ?_⟩
  · rintro before x after rfl rfl hm
    obtain ⟨r, pool, result, hget, hexamine, hyields, hprinted⟩ :=
      hrun.exists_yields hpolicy hplain hm
    have hmode : x.mode = r.mode := by rw [hexamine, examine_mode]
    have hending : x.ending = (s.withPool pool).settle r result := by
      rw [hexamine, hyields.ending_eq]
    cases result with
    | ok o =>
      rw [settle, ← hmode] at hending
      refine .inl ⟨o, r, pool, hprinted, hget, hexamine, hending, fun k o' => ?_, ?_⟩
      · rw [hmode, hexamine]
        exact hyields.mem_consultations_iff
      · rw [hexamine]
        exact attempts_eq_map_consultations
    | error stop =>
      cases stop with
      | failed e =>
        have habort : x.abort? = some (.coverage x.binding.name e) := by
          simp [Examination.abort?, hending, settle]
        obtain ⟨-, -, -, -, -, -, hlast⟩ := hrun.exists_request
        have hafter : after = [] := hlast (Option.isSome_of_eq_some habort)
        have haborted := hrun.aborted?_eq_of_mem (by simp) habort
        exact .inr ⟨e, hprinted, haborted, hending, hafter⟩
      | crashed crash =>
        exact absurd hyields.result_eq (hprelude.obligation_ne_crashed _ _ r.mode crash)
  · intro x hx hm e he
    refine ⟨hrun.aborted?_eq_of_mem hx he, ?_⟩
    intro front back hsplit hname
    have hbefore : ∀ b ∈ front ++ [x.binding], b.name ≠ name := by
      intro b hb hbname
      exact hname (List.mem_map.2 ⟨b, hb, hbname⟩)
    rw [hsplit] at hplain
    have hrun' : s.Course ((front ++ x.binding :: back).flatMap Binding.asked) .empty run := by
      rw [← hsplit]
      exact hrun
    rw [Prelude.obligationOf, hsplit]
    exact hrun'.obligationNamed_eq_error hpolicy hplain hx hm he hbefore

/-- A constant, a bound by it, a function that cannot be made a constant, and a property that is not
reached. -/
def functionAsConstant : Program :=
  let int : Ty := .con "Int" []
  let bool : Ty := .con "Bool" []
  ⟨none, [numberBinding "limit" [.uninterpret], boundedBinding [.prove [.warnIfFails]],
    ⟨"step", ⟨"P.hs", 3, 1⟩, .arrow int int, .lam ⟨"x", int⟩ (.var ⟨"x", int⟩), [.uninterpret]⟩,
    ⟨"holds", ⟨"P.hs", 4, 1⟩, bool, .var ⟨"True", bool⟩, [.prove []]⟩]⟩

theorem plain_functionAsConstant : Plain functionAsConstant.bindings where
  nodup_names := by decide
  length_requests := by simp [functionAsConstant, numberBinding, boundedBinding]
  not_skipped := by simp [functionAsConstant, numberBinding, boundedBinding, Request.options]

theorem printed_obligation_is_checked_of_functionAsConstant :
    (undecidedSession.run functionAsConstant).map (·.stage) =
      [.succeeded, .failedRecoverable, .failedFatal] ∧
    (∃ x ∈ undecidedSession.run functionAsConstant, ∃ o r pool,
      undecidedSession.prelude.obligationOf functionAsConstant "bounded" = .ok (some o) ∧
      o.goal.text = "(bvsle l0_x u0_limit)" ∧
      x.ending = (undecidedSession.withPool pool).solve r o ∧
      ∀ k o', (k, o') ∈ (undecidedSession.withPool pool).consultations x → o' = o) ∧
    ∃ e, (undecidedSession.run functionAsConstant).aborted? = some e ∧
      undecidedSession.prelude.obligationOf functionAsConstant "holds" = .error (.failed e) := by
  have hchecked := undecidedSession.printed_obligation_is_checked Prelude.crashFree_standard
    (fun _ => rfl) plain_functionAsConstant (undecidedSession.course_run functionAsConstant)
  have hrun : ∃ first x last e, undecidedSession.run functionAsConstant = [first] ++ x :: [last] ∧
      x.binding.name = "bounded" ∧ x.mode = .proof ∧
      last.mode = .constant ∧ last.abort? = some e ∧
      functionAsConstant.bindings = functionAsConstant.bindings.take 2 ++ last.binding ::
        functionAsConstant.bindings.drop 3 ∧
      "holds" ∉ (functionAsConstant.bindings.take 2 ++ [last.binding]).map (·.name) :=
    ⟨_, _, _, _, rfl, rfl, rfl, rfl, rfl, rfl, by decide⟩
  have hbounded : ∃ o,
      undecidedSession.prelude.obligationOf functionAsConstant "bounded" = .ok (some o) ∧
      o.goal.text = "(bvsle l0_x u0_limit)" := ⟨_, rfl, by decide⟩
  obtain ⟨first, x, last, e, hrun, hname, hmode, hconstant, habort, hsplit, hholds⟩ := hrun
  refine ⟨by decide, ⟨x, by simp [hrun], ?_⟩, e, ?_⟩
  · rcases (hchecked "bounded").1 [first] x [last] hrun hname (by simp [hmode]) with
      ⟨o, r, pool, hprinted, -, -, hending, hasked, -⟩ | ⟨-, -, -, -, hlast⟩
    · obtain ⟨o', hprinted', hgoal⟩ := hbounded
      obtain rfl : o = o' := by simpa using hprinted.symm.trans hprinted'
      exact ⟨o, r, pool, hprinted, hgoal, by simpa [hmode] using hending,
        fun k o' hmem => ((hasked k o').1 hmem).1⟩
    · simp at hlast
  · obtain ⟨haborted, hprinted⟩ := (hchecked "holds").2 last (by simp [hrun]) hconstant e habort
    exact ⟨haborted, hprinted _ _ hsplit hholds⟩

end CoreProver
