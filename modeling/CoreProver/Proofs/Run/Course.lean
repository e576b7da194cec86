import CoreProver.Proofs.Run.Endings
import CoreProver.Proofs.RunSymbols
import CoreProver.Run.Report
import Mathlib.Data.Set.Basic

/-!
# The courses that a run can take

A run of a session asks the same pool at every request. Backends need not be so constant: one that
times out today may answer tomorrow, and those that are started together finish in any order. In a
`CourseWith` every examination has a pool of its own from a set of pools. A `Course` leaves the
pools open, so whatever backends and their selection do in a run, it takes one of the courses; an
`AnyOrder` has pools that select the same backends in another order. What is shown of all courses
holds in particular of the run with one pool.
-/

namespace CoreProver

theorem Run.aborted?_cons (x : Examination) (run : Run) :
    Run.aborted? (x :: run) = x.abort?.or run.aborted? := by
  simp only [aborted?, List.findSome?_cons]
  cases x.abort? <;> rfl

/-- The same backends are selected, or the selection fails in the same way. The backends may finish
in another order. -/
inductive SameSelection :
    Except SelectionError (List Backend) → Except SelectionError (List Backend) → Prop where
  | failed (e : SelectionError) : SameSelection (.error e) (.error e)
  | selected {backends backends' : List Backend} (h : backends.Perm backends') :
      SameSelection (.ok backends) (.ok backends')

namespace SameSelection

theorem refl : ∀ selection, SameSelection selection selection
  | .error e => .failed e
  | .ok backends => .selected (.refl backends)

theorem trans {x y z : Except SelectionError (List Backend)} (h : SameSelection x y)
    (h' : SameSelection y z) : SameSelection x z := by
  cases h with
  | failed e => exact h'
  | selected hperm =>
    cases h' with
    | selected hperm' => exact .selected (hperm.trans hperm')

end SameSelection

/-- The pool selects the same backends as another one. -/
def Pool.Reorders (pool other : Pool) : Prop :=
  ∀ selectors verbose, SameSelection (pool selectors verbose) (other selectors verbose)

theorem Pool.Reorders.refl (pool : Pool) : pool.Reorders pool := fun _ _ => .refl _

theorem Pool.Reorders.trans {a b c : Pool} (h : a.Reorders b) (h' : b.Reorders c) :
    a.Reorders c :=
  fun selectors verbose => (h selectors verbose).trans (h' selectors verbose)

variable {F : Type}

namespace Session

/-- The session with other backends. -/
def withPool (s : Session F) (pool : Pool) : Session F := { s with pool := pool }

variable [Foreign F]

/-- The examinations that requests can lead to. Each is made with the constants of those before it
and with any pool of the set; the first one that aborts is the last one. -/
inductive CourseWith (s : Session F) (pools : Set Pool) :
    List (Binding × Request) → Constants → Run → Prop where
  | done {c : Constants} : CourseWith s pools [] c []
  | stopped {b : Binding} {r : Request} {rest : List (Binding × Request)} {c : Constants}
      (pool : Pool) (hpool : pool ∈ pools)
      (h : ((s.withPool pool).examine c b r).abort?.isSome = true) :
      CourseWith s pools ((b, r) :: rest) c [(s.withPool pool).examine c b r]
  | next {b : Binding} {r : Request} {rest : List (Binding × Request)} {c : Constants}
      {xs : Run} (pool : Pool) (hpool : pool ∈ pools)
      (h : ((s.withPool pool).examine c b r).abort? = none)
      (hrest : CourseWith s pools rest (((s.withPool pool).examine c b r).constants c) xs) :
      CourseWith s pools ((b, r) :: rest) c ((s.withPool pool).examine c b r :: xs)

/-- The examinations that requests can lead to, whatever backends and their selection do. -/
abbrev Course (s : Session F) : List (Binding × Request) → Constants → Run → Prop :=
  s.CourseWith Set.univ

/-- The examinations that requests can lead to, in whatever order backends finish. -/
abbrev AnyOrder (s : Session F) : List (Binding × Request) → Constants → Run → Prop :=
  s.CourseWith {pool | pool.Reorders s.pool}

theorem examineAll_of_aborts {s : Session F} {b : Binding} {r : Request} {c : Constants}
    {e : RunError} (h : (s.examine c b r).abort? = some e) (rest : List (Binding × Request)) :
    s.examineAll ((b, r) :: rest) c = [s.examine c b r] := by
  rw [examineAll, if_pos (by rw [h]; rfl)]

/-- After an examination that does not abort, the next request is examined. -/
theorem examineAll_of_goes_on {s : Session F} {b : Binding} {r : Request} {c : Constants}
    (h : (s.examine c b r).abort? = none) (rest : List (Binding × Request)) :
    s.examineAll ((b, r) :: rest) c =
      s.examine c b r :: s.examineAll rest ((s.examine c b r).constants c) := by
  rw [examineAll, if_neg (by rw [h]; simp)]

/-- With one pool, the requests lead to one of the courses. -/
theorem courseWith_examineAll (s : Session F) {pools : Set Pool} (hs : s.pool ∈ pools)
    (requests : List (Binding × Request)) (c : Constants) :
    s.CourseWith pools requests c (s.examineAll requests c) := by
  induction requests generalizing c with
  | nil => exact .done
  | cons request rest ih =>
    obtain ⟨b, r⟩ := request
    cases habort : (s.examine c b r).abort? with
    | some e =>
      rw [examineAll_of_aborts habort]
      exact .stopped s.pool hs (Option.isSome_of_eq_some habort)
    | none =>
      rw [examineAll_of_goes_on habort]
      exact .next s.pool hs habort (ih _)

theorem course_run (s : Session F) (p : Program) : s.Course p.requests .empty (s.run p) :=
  s.courseWith_examineAll (Set.mem_univ _) p.requests .empty

theorem anyOrder_run (s : Session F) (p : Program) : s.AnyOrder p.requests .empty (s.run p) :=
  s.courseWith_examineAll (Pool.Reorders.refl s.pool) p.requests .empty

namespace CourseWith

variable {s : Session F} {pools : Set Pool} {requests : List (Binding × Request)}
  {c : Constants} {run : Run}

/-- An examination that is followed by others does not abort, and they take their course from
there. -/
theorem cons_inv {x : Examination} {xs : Run} (h : s.CourseWith pools requests c (x :: xs))
    (hxs : xs ≠ []) :
    ∃ b r rest, ∃ pool ∈ pools, requests = (b, r) :: rest ∧ x = (s.withPool pool).examine c b r ∧
      x.abort? = none ∧ s.CourseWith pools rest (x.constants c) xs := by
  cases h with
  | stopped pool hpool h => exact absurd rfl hxs
  | next pool hpool hnone hrest => exact ⟨_, _, _, pool, hpool, rfl, rfl, hnone, hrest⟩

/-- The examination at a place is that of the request at the place, made with the constants of the
examinations before it. If it aborts, it is the last one. -/
theorem exists_request {before after : Run} {x : Examination}
    (h : s.CourseWith pools requests c (before ++ x :: after)) :
    ∃ b r, ∃ pool ∈ pools, requests[before.length]? = some (b, r) ∧
      x = (s.withPool pool).examine (before.foldl (fun c x => x.constants c) c) b r ∧
      (x.abort?.isSome = true → after = []) := by
  induction before generalizing requests c with
  | nil =>
    cases h with
    | stopped pool hpool h => exact ⟨_, _, pool, hpool, rfl, rfl, fun _ => rfl⟩
    | next pool hpool h hrest => exact ⟨_, _, pool, hpool, rfl, rfl, by simp [h]⟩
  | cons y ys ih =>
    obtain ⟨-, -, rest, -, -, rfl, -, -, hrest⟩ := h.cons_inv (by simp)
    obtain ⟨b, r, pool, hpool, hget, hx, hafter⟩ := ih hrest
    exact ⟨b, r, pool, hpool, by simpa using hget, hx, hafter⟩

/-- A course goes on to the last request, unless an examination aborts it. -/
theorem length_eq_or_aborted (h : s.CourseWith pools requests c run) :
    run.length ≤ requests.length ∧ (run.aborted? = none → run.length = requests.length) := by
  induction h with
  | done => simp
  | stopped pool hpool h =>
    refine ⟨by simp, fun hnone => ?_⟩
    simp [Run.aborted?, Option.isSome_iff_ne_none.1 h] at hnone
  | next pool hpool h hrest ih =>
    simp only [Run.aborted?, List.findSome?_cons, h] at ih ⊢
    simpa using ih

theorem abort?_eq_none_of_mem {before after : Run} {x y : Examination}
    (h : s.CourseWith pools requests c (before ++ x :: after)) (hy : y ∈ before) :
    y.abort? = none := by
  obtain ⟨first, second, rfl⟩ := List.append_of_mem hy
  rw [List.append_assoc, List.cons_append] at h
  obtain ⟨-, -, -, -, -, -, hlast⟩ := h.exists_request
  by_contra habort
  simpa using hlast (Option.isSome_iff_ne_none.2 habort)

/-- The error of an examination in a course is what aborts it. -/
theorem aborted?_eq_of_mem (h : s.CourseWith pools requests c run) {x : Examination} (hx : x ∈ run)
    {e : RunError} (he : x.abort? = some e) : run.aborted? = some e := by
  induction h with
  | done => simp at hx
  | stopped pool _ _ =>
    obtain rfl := List.mem_singleton.1 hx
    rw [Run.aborted?_cons, he, Option.some_or]
  | next pool _ hnone _ ih =>
    rcases List.mem_cons.1 hx with rfl | hx
    · rw [hnone] at he
      cases he
    · rw [Run.aborted?_cons, hnone, Option.none_or, ih hx]

end CourseWith

end Session

end CoreProver
