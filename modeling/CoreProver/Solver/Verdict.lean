import CoreProver.Solver.Backend

/-!
# Verdicts

All backends of a request are asked, and their attempts are kept in the order in which they
finished. One attempt is adopted: the first proof, else the first answer, else the first attempt.
-/

namespace CoreProver

/-- Attempts in the order in which they finished, one of them adopted. -/
structure Verdict where
  attempts : List Attempt
  index : Fin attempts.length

namespace Verdict

def adopted (v : Verdict) : Attempt := v.attempts.get v.index

/-- Whether the adopted attempt is a proof. -/
def isProved (v : Verdict) : Bool := v.adopted.isProved

def answer? (v : Verdict) : Option Answer :=
  match v.adopted.outcome with
  | .ok response => some response.answer
  | .error _ => none

/-- The verdict on attempts that finished in this order, if there is any. -/
def ofAttempts? : List Attempt → Option Verdict
  | [] => none
  | first :: rest =>
    let attempts := first :: rest
    let best := (attempts.findFinIdx? Attempt.isProved).or
      (attempts.findFinIdx? Attempt.isAnswered)
    some ⟨attempts, best.getD ⟨0, Nat.succ_pos rest.length⟩⟩

theorem attempts_of_ofAttempts? {attempts : List Attempt} {v : Verdict}
    (h : ofAttempts? attempts = some v) : v.attempts = attempts := by
  cases attempts with
  | nil => simp [ofAttempts?] at h
  | cons first rest =>
    simp only [ofAttempts?, Option.some.injEq] at h
    exact h ▸ rfl

/-- There is a verdict as soon as there is an attempt. -/
theorem isSome_ofAttempts? (attempts : List Attempt) :
    (ofAttempts? attempts).isSome = !attempts.isEmpty := by
  cases attempts <;> rfl

end Verdict

/-- What users see when there is no backend to ask. -/
def noBackends : Diagnostic where
  message := "no solver backends were configured for this obligation"
  code := "sprove::orchestrator::no_backends"
  help := none

/-- The verdict of backends that finish in the given order; there is none without backends. -/
def prove? (o : Obligation) (backends : List Backend) : Option Verdict :=
  Verdict.ofAttempts? (backends.map (Backend.attempt · o))

end CoreProver
