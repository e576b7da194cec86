import CoreProver.Proofs.Json.Members
import CoreProver.Proofs.Run.Provenance

/-!
# Reports tell where successes come from

The verdict, the stage and the entry in the report agree: an entry speaks of a proof exactly if its
request succeeded with the help of backends, and what it says was adopted is one of the attempts.
-/

namespace CoreProver

theorem ResultKind.word_eq_proved_iff (k : ResultKind) : k.word = "proved" ↔ k = .proved := by
  cases k <;> simp [word]

theorem Stage.text_eq_succeeded_iff (s : Stage) : s.text = "succeeded" ↔ s = .succeeded := by
  cases s <;> simp [text]

/-- What readers find in an attempt. -/
theorem Attempt.member?_toJson (a : Attempt) (verbose : Bool) :
    (a.toJson verbose).member? "backend" = some (.ofText a.backend) ∧
    (a.toJson verbose).member? "result" = some (.ofText a.kind.word) := by
  unfold toJson
  have hnodup : ∀ (backend result detail : Json) (raw : Option String),
      (([("backend", backend), ("result", result), ("detail", detail)] ++
        Json.optionalText "raw" raw).map Prod.fst).Nodup := by
    intro _ _ _ raw
    cases raw <;> simp [Json.optionalText]
  simp only [Json.member?_ofMembers _ (hnodup _ _ _ _)]
  simp [List.lookup_cons]

theorem Finding.member?_toJson (f : Finding) :
    f.toJson.member? "state" = some (.ofText f.stage.text) ∧
    f.toJson.member? "adopted" = (f.verdict.map fun v => .ofText v.adopted.backend) ∧
    f.toJson.member? "result" = (f.verdict.map fun v => .ofText v.adopted.kind.word) ∧
    f.toJson.member? "attempts" = some (.array (f.attempts.map (Attempt.toJson f.verbose))) := by
  unfold toJson attempts
  -- the names are distinct whichever of the optional members are there
  have hnodup : ∀ (name location mode state solvers attempts : Json)
      (adopted result note : Option String),
      (([("name", name), ("location", location), ("mode", mode), ("state", state),
          ("solvers", solvers)] ++ Json.optionalText "adopted" adopted ++
        Json.optionalText "result" result ++ Json.optionalText "note" note ++
        [("attempts", attempts)]).map Prod.fst).Nodup := by
    intro _ _ _ _ _ _ adopted result note
    cases adopted <;> cases result <;> cases note <;> simp [Json.optionalText]
  simp only [Json.member?_ofMembers _ (hnodup _ _ _ _ _ _ _ _ _)]
  simp [List.lookup_append, List.lookup_cons, Function.comp_def]

theorem Run.member?_report (input : String) (moduleName : Option String) (run : Run) :
    (Run.report input moduleName run).member? "bindings" =
      some (.array (run.map fun x => x.finding.toJson)) := by
  unfold report
  rw [Json.member?_ofMembers]
  · simp [List.lookup_append, List.lookup_cons]
  · cases moduleName <;> cases run.aborted? <;> simp [Json.optionalText]

/-- An entry of a report and the attempts in it tell the same story. -/
structure Json.Coherent (entry : Json) (attempts : List Json) : Prop where
  attempts_eq : entry.member? "attempts" = some (.array attempts)
  proved_iff : entry.textMember? "result" = some "proved" ↔
    entry.textMember? "state" = some "succeeded" ∧ attempts ≠ []
  adopted_iff : (entry.member? "adopted").isSome = true ↔ attempts ≠ []
  /-- What was adopted is the backend of an attempt with the result of the entry. -/
  exists_adopted : ∀ adopted, entry.member? "adopted" = some adopted →
    ∃ name word, adopted.text? = some name ∧ entry.textMember? "result" = some word ∧
      ∃ a ∈ attempts, a.textMember? "backend" = some name ∧ a.textMember? "result" = some word

namespace Examination

/-- The entry of an examination agrees with its attempts. -/
theorem coherent_toJson (x : Examination) :
    x.finding.toJson.Coherent (x.finding.attempts.map (Attempt.toJson x.verbose)) := by
  obtain ⟨hstate, hadopted, hresult, hattempts⟩ := x.finding.member?_toJson
  have hverdict : x.finding.verdict = x.ending.verdict? := rfl
  rw [hverdict] at hadopted hresult
  cases hv : x.ending.verdict? with
  | none =>
    have hnil : x.finding.attempts = [] := by simp [Finding.attempts, hverdict, hv]
    rw [hv] at hadopted hresult
    refine ⟨hattempts, ?_, ?_, ?_⟩
    · simp [Json.textMember?, hresult, hnil]
    · simp [hadopted, hnil]
    · simp [hadopted]
  | some v =>
    have hall : x.finding.attempts = v.attempts := by simp [Finding.attempts, hverdict, hv]
    have hne : v.attempts ≠ [] := List.ne_nil_of_mem v.adopted_mem
    rw [hv] at hadopted hresult
    refine ⟨hattempts, ?_, ?_, ?_⟩
    · have hstage : x.finding.stage = x.stage := rfl
      simp [Json.textMember?, hresult, hstate, hall, hne, hstage, ResultKind.word_eq_proved_iff,
        Stage.text_eq_succeeded_iff, stage_eq_succeeded_iff_isProved hv, Verdict.isProved,
        Attempt.isProved_iff]
    · simp [hadopted, hall, hne]
    · intro adopted hsome
      obtain rfl : .ofText v.adopted.backend = adopted := by simpa [hadopted] using hsome
      obtain ⟨hbackend, hword⟩ := v.adopted.member?_toJson x.verbose
      refine ⟨_, v.adopted.kind.word, Json.text?_ofText _, ?_, v.adopted.toJson x.verbose, ?_, ?_⟩
      · simp [Json.textMember?, hresult]
      · rw [hall]
        exact List.mem_map_of_mem v.adopted_mem
      · simp [Json.textMember?, hbackend, hword]

end Examination

/-- Whatever backends and their selection do: at every place of a run, the examination comes to the
stage that the backends justify. In the report on the run, every entry has the stage of its
examination and agrees with the attempts in it. -/
theorem Session.success_provenance {F : Type} [Foreign F] (s : Session F) (p : Program) {run : Run}
    (hrun : s.Course p.requests .empty run) :
    (∀ (before : Run) x after, run = before ++ x :: after →
      ∃ b r pool, p.requests[before.length]? = some (b, r) ∧
        x = (s.withPool pool).examine before.constants b r ∧
        (s.withPool pool).Justified before.constants b r) ∧
    ∀ input moduleName, ∃ entries,
      (Run.report input moduleName run).member? "bindings" = some (.array entries) ∧
      List.Forall₂ (fun x entry => entry.textMember? "state" = some x.stage.text ∧
        entry.Coherent (x.finding.attempts.map (Attempt.toJson x.verbose))) run entries := by
  constructor
  · rintro before x after rfl
    obtain ⟨b, r, pool, -, hget, hx, -⟩ := hrun.exists_request
    exact ⟨b, r, pool, hget, hx, Session.justified ..⟩
  · intro input moduleName
    refine ⟨_, Run.member?_report input moduleName run, ?_⟩
    rw [List.forall₂_map_right_iff, List.forall₂_same]
    intro x _
    have hstate : x.finding.toJson.member? "state" = some (.ofText x.stage.text) :=
      x.finding.member?_toJson.1
    exact ⟨by simp [Json.textMember?, hstate], x.coherent_toJson⟩

/-- A session with a backend that never knows and one that proves everything. -/
def dividedSession : Session Empty where
  prelude := .standard
  pool := fun _ _ => .ok [⟨"z3", fun _ => .answered ⟨.unknown none, ""⟩⟩,
    ⟨"cvc5", fun _ => .answered ⟨.proved, "unsat"⟩⟩]
  provable := fun _ => true
  settings := ⟨[.allInstalled], false, false⟩

/-- A property whose safety is checked too. -/
def checkedProperty : Program :=
  let bool : Ty := .con "Bool" []
  ⟨none, [⟨"prop", ⟨"P.hs", 1, 1⟩, .arrow bool bool, .lam ⟨"x", bool⟩ (.var ⟨"x", bool⟩),
    [.prove [], .checkSafety []]⟩]⟩

theorem success_provenance_of_checkedProperty :
    (dividedSession.run checkedProperty).map (·.stage) = [.succeeded, .succeeded] ∧
    (∃ b r pool, r.mode = .proof ∧ (dividedSession.withPool pool).Proven .empty b r) ∧
    ∃ entry other, (Run.report "p.json" none (dividedSession.run checkedProperty)).member?
        "bindings" = some (.array [entry, other]) ∧
      entry.textMember? "result" = some "proved" ∧ (other.member? "adopted").isSome = false := by
  obtain ⟨x, y, hrun, hx, hy, hxs, hys⟩ : ∃ x y, dividedSession.run checkedProperty = [x, y] ∧
      x.stage = .succeeded ∧ y.stage = .succeeded ∧ x.finding.attempts.length = 2 ∧
      y.finding.attempts = [] := ⟨_, _, rfl, rfl, rfl, rfl, rfl⟩
  obtain ⟨hplaces, hreport⟩ := dividedSession.success_provenance checkedProperty
    (dividedSession.course_run checkedProperty)
  refine ⟨by simp [hrun, hx, hy], ?_, ?_⟩
  · obtain ⟨b, r, pool, hget, rfl, hjustified⟩ := hplaces [] x [y] hrun
    have hmode : r.mode = .proof := by
      obtain ⟨-, rfl⟩ := Prod.mk.inj (Option.some.inj hget)
      rfl
    exact ⟨b, r, pool, hmode, ((hjustified.proof hmode).1 hx).2⟩
  · obtain ⟨entries, hentries, hall⟩ := hreport "p.json" none
    rw [hrun] at hall hentries ⊢
    cases hall with
    | @cons _ entry _ _ hentry hall =>
      cases hall with
      | @cons _ other _ _ hother hall =>
        cases hall with
        | nil =>
          refine ⟨entry, other, hentries, hentry.2.proved_iff.2 ⟨?_, ?_⟩, ?_⟩
          · rw [hentry.1, hx]
            rfl
          · exact List.ne_nil_of_length_pos (by rw [List.length_map, hxs]; decide)
          · rw [← Bool.not_eq_true, hother.2.adopted_iff, hys]
            simp

/-- A binding without division whose safety is to be checked. -/
def divisionlessBinding (options : ProofOptions) : Binding :=
  let bool : Ty := .con "Bool" []
  ⟨"t", ⟨"P.hs", 1, 1⟩, bool, .var ⟨"True", bool⟩, [.checkSafety options]⟩

/-- There is nothing to prove for the safety of a binding without division; still its check does
not succeed if it is put off or if the binding is rejected. -/
theorem unconditional_safety_without_success :
    (∀ options,
      (Prelude.standard : Prelude Empty).Unconditional .empty (divisionlessBinding options)) ∧
    (∃ x, undecidedSession.run ⟨none, [divisionlessBinding [.skip "later"]]⟩ = [x] ∧
      x.mode = .safety ∧ x.stage = .notStarted) ∧
    ∃ x, { undecidedSession with provable := fun _ => false }.run
        ⟨none, [divisionlessBinding []]⟩ = [x] ∧
      x.mode = .safety ∧ x.stage = .failedFatal := by
  refine ⟨fun options => ?_, ⟨_, rfl, rfl, rfl⟩, ⟨_, rfl, rfl, rfl⟩⟩
  exact (Prelude.unconditional_iff ..).2 ⟨_, rfl, rfl⟩

end CoreProver
