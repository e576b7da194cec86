import CoreProver.Proofs.Run.Provenance
import Mathlib.Data.List.Perm.Basic
import Mathlib.Logic.Relation

/-!
# Backends that run side by side

Each backend gets a task of its own. A task asks its backend and then sends the attempt into a
channel that all tasks share; in between, other tasks may do either. The race is over when every
task has sent. Whatever the order was, the verdict on what the channel holds is a proof exactly when
some backend gave one.
-/

namespace CoreProver

/-- What is recorded of a consultation. -/
def Backend.record (k : Backend) (c : Consultation) : Attempt where
  backend := k.name
  outcome := match c with
    | .answered response => .ok response
    | .faulted fault => .error fault
    | .crashed crash => .error (.crashed k.name crash)

theorem Backend.record_check (k : Backend) (o : Obligation) : k.record (k.check o) = k.attempt o :=
  rfl

/-- The backend gives no answer: it faults or crashes. -/
def Backend.Fails (k : Backend) (o : Obligation) : Prop :=
  ∀ response, k.check o ≠ .answered response

theorem Backend.isAnswered_attempt_eq_false_iff (k : Backend) (o : Obligation) :
    (k.attempt o).isAnswered = false ↔ k.Fails o := by
  unfold attempt Attempt.isAnswered Fails
  cases k.check o with
  | answered response => simp [Except.isOk, Except.toBool]
  | faulted fault => simp [Except.isOk, Except.toBool]
  | crashed crash => simp [Except.isOk, Except.toBool]

namespace Race

/-- A task that has not sent its attempt. -/
inductive Task where
  /-- Its backend has not been asked. -/
  | spawned (k : Backend)
  /-- Its backend was asked and came to this. -/
  | returned (k : Backend) (c : Consultation)

def Task.backend : Task → Backend
  | spawned k => k
  | returned k _ => k

def Task.unasked? : Task → Option Backend
  | spawned k => some k
  | returned .. => none

end Race

/-- The tasks that go on, the questions asked so far, and the channel. -/
structure Race where
  tasks : List Race.Task
  asked : List (Backend × Obligation)
  channel : List Attempt

namespace Race

/-- A race in which nothing has happened. -/
def start (backends : List Backend) : Race := ⟨backends.map .spawned, [], []⟩

/-- One task does one thing. -/
inductive Step (o : Obligation) : Race → Race → Prop
  | ask (before after : List Task) (k : Backend) (asked : List (Backend × Obligation))
      (channel : List Attempt) :
      Step o ⟨before ++ .spawned k :: after, asked, channel⟩
        ⟨before ++ .returned k (k.check o) :: after, asked ++ [(k, o)], channel⟩
  | send (before after : List Task) (k : Backend) (c : Consultation)
      (asked : List (Backend × Obligation)) (channel : List Attempt) :
      Step o ⟨before ++ .returned k c :: after, asked, channel⟩
        ⟨before ++ after, asked, channel ++ [k.record c]⟩

/-- Any number of steps. -/
def Reaches (o : Obligation) : Race → Race → Prop := Relation.ReflTransGen (Step o)

/-- Every task has sent its attempt. -/
def Finished (r : Race) : Prop := r.tasks = []

/-- The verdict on the attempts in the channel. -/
def verdict? (r : Race) : Option Verdict := Verdict.ofAttempts? r.channel

/-! ### What every step keeps -/

/-- Nothing is lost and nothing is done twice: every backend's attempt is in the channel, or its
task goes on; every backend has been asked, or its task still will. -/
structure Conserves (o : Obligation) (backends : List Backend) (r : Race) : Prop where
  sent : ∃ order, r.channel = order.map (Backend.attempt · o) ∧
    (order ++ r.tasks.map Task.backend).Perm backends
  answers : ∀ k c, Task.returned k c ∈ r.tasks → c = k.check o
  asked : (r.asked ++ (r.tasks.filterMap Task.unasked?).map (·, o)).Perm (backends.map (·, o))

variable {o : Obligation} {backends : List Backend} {r r' : Race}

theorem conserves_start (o : Obligation) (backends : List Backend) :
    (start backends).Conserves o backends where
  sent := ⟨[], rfl, by simp [start, Function.comp_def, Task.backend]⟩
  answers := by simp [start]
  asked := by simp [start, List.filterMap_map, Function.comp_def, Task.unasked?]

theorem Step.conserves (hstep : Step o r r') (h : r.Conserves o backends) :
    r'.Conserves o backends := by
  cases hstep with
  | ask before after k asked channel =>
    obtain ⟨⟨order, hchannel, horder⟩, hanswers, hasked⟩ := h
    refine ⟨⟨order, hchannel, ?_⟩, ?_, ?_⟩
    · simpa [Task.backend] using horder
    · intro k' c hmem
      simp only [List.mem_append, List.mem_cons] at hmem
      rcases hmem with hmem | hmem | hmem
      · exact hanswers k' c (by simp [hmem])
      · cases hmem
        rfl
      · exact hanswers k' c (by simp [hmem])
    · -- the question moves from those to come to those asked
      refine List.Perm.trans ?_ hasked
      simp only [List.filterMap_append, List.filterMap_cons, Task.unasked?, List.map_append,
        List.map_cons, List.append_assoc, List.singleton_append]
      exact (List.perm_middle.symm).append_left asked
  | send before after k c asked channel =>
    obtain ⟨⟨order, hchannel, horder⟩, hanswers, hasked⟩ := h
    obtain rfl := hanswers k c (by simp)
    obtain rfl : channel = order.map (Backend.attempt · o) := hchannel
    refine ⟨⟨order ++ [k], ?_, ?_⟩, ?_, ?_⟩
    · simp only [List.map_append, List.map_singleton, k.record_check]
    · refine List.Perm.trans ?_ horder
      simp only [List.map_append, List.map_cons, Task.backend, List.append_assoc,
        List.singleton_append]
      exact (List.perm_middle.symm).append_left order
    · intro k' c hmem
      refine hanswers k' c ?_
      simp only [List.mem_append, List.mem_cons] at hmem ⊢
      exact hmem.imp_right .inr
    · simpa [List.filterMap_cons, Task.unasked?] using hasked

/-- By induction on its steps, a race conserves all the way. -/
theorem Reaches.conserves (h : Reaches o (start backends) r) : r.Conserves o backends := by
  induction h with
  | refl => exact conserves_start o backends
  | tail _ hstep ih => exact hstep.conserves ih

/-- When the race is over the channel holds every backend's attempt, in some order. -/
theorem Reaches.exists_order (h : Reaches o (start backends) r) (hfinished : r.Finished) :
    ∃ order : List Backend, order.Perm backends ∧ r.channel = order.map (Backend.attempt · o) := by
  obtain ⟨order, hchannel, horder⟩ := h.conserves.sent
  refine ⟨order, ?_, hchannel⟩
  simpa [show r.tasks = [] from hfinished] using horder

/-- When the race is over every backend has been asked once. -/
theorem Reaches.asked_perm (h : Reaches o (start backends) r) (hfinished : r.Finished) :
    r.asked.Perm (backends.map (·, o)) := by
  simpa [show r.tasks = [] from hfinished] using h.conserves.asked

/-- The tasks of a race can finish in any order: each asks and sends in its turn. -/
theorem exists_reaches_of_perm {order : List Backend} {r : Race}
    (h : (order.map Task.spawned).Perm r.tasks) :
    ∃ r', Reaches o r r' ∧ r'.Finished ∧
      r'.channel = r.channel ++ order.map (Backend.attempt · o) := by
  induction order generalizing r with
  | nil => exact ⟨r, .refl, List.perm_nil.1 h.symm, by simp⟩
  | cons k order ih =>
    obtain ⟨tasks, asked, channel⟩ := r
    have hmem : Task.spawned k ∈ tasks := h.subset (by simp)
    obtain ⟨before, after, rfl⟩ := List.append_of_mem hmem
    have hrest : (order.map Task.spawned).Perm (before ++ after) :=
      List.Perm.cons_inv (h.trans List.perm_middle)
    obtain ⟨r', hreaches, hfinished, hchannel⟩ :=
      ih (r := ⟨before ++ after, asked ++ [(k, o)], channel ++ [k.attempt o]⟩) hrest
    refine ⟨r', ?_, hfinished, ?_⟩
    · exact .head (.ask before after k asked channel) (.head (.send before after k _ _ _) hreaches)
    · simp [hchannel]

end Race

/-! ### The adopted attempt -/

namespace Verdict

/-- The adopted attempt is the first of those that are eligible. -/
def AdoptsFirst (v : Verdict) (eligible : Attempt → Bool) : Prop :=
  eligible v.adopted = true ∧ ∀ i < v.index, eligible (v.attempts.get i) = false

/-- The earliest proof is adopted, without one the earliest answer, without one the earliest
attempt. -/
structure AdoptsBest (v : Verdict) : Prop where
  proof : (∃ a ∈ v.attempts, a.isProved = true) → v.AdoptsFirst Attempt.isProved
  answer : (∀ a ∈ v.attempts, a.isProved = false) → (∃ a ∈ v.attempts, a.isAnswered = true) →
    v.AdoptsFirst Attempt.isAnswered
  fault : (∀ a ∈ v.attempts, a.isAnswered = false) → v.AdoptsFirst fun _ => true

/-- Searching among attempts finds the first one, or there is none. -/
theorem findFinIdx?_cases (attempts : List Attempt) (eligible : Attempt → Bool) :
    (∃ i, attempts.findFinIdx? eligible = some i ∧ eligible (attempts.get i) = true ∧
        ∀ j < i, eligible (attempts.get j) = false) ∨
      attempts.findFinIdx? eligible = none ∧ ∀ a ∈ attempts, eligible a = false := by
  cases h : attempts.findFinIdx? eligible with
  | some i =>
    obtain ⟨hi, hbefore⟩ := List.findFinIdx?_eq_some_iff.1 h
    exact .inl ⟨i, rfl, hi, fun j hj => by simpa using hbefore j hj⟩
  | none =>
    refine .inr ⟨rfl, fun a ha => ?_⟩
    simpa using List.findFinIdx?_eq_none_iff.1 h a ha

theorem adoptsBest_of_ofAttempts? {attempts : List Attempt} {v : Verdict}
    (h : ofAttempts? attempts = some v) : v.AdoptsBest := by
  cases attempts with
  | nil => simp [ofAttempts?] at h
  | cons first rest =>
    simp only [ofAttempts?, Option.some.injEq] at h
    rcases findFinIdx?_cases (first :: rest) Attempt.isProved with
      ⟨i, hfind, hi, hbefore⟩ | ⟨hfind, hnone⟩
    · -- a proof was found: the other two cases do not arise
      simp only [hfind, Option.some_or, Option.getD_some] at h
      subst h
      have hanswered := Attempt.isAnswered_of_isProved _ hi
      refine ⟨fun _ => ⟨hi, hbefore⟩, fun hall _ => ?_, fun hall => ?_⟩
      · rw [hall _ (List.get_mem _ i)] at hi
        cases hi
      · rw [hall _ (List.get_mem _ i)] at hanswered
        cases hanswered
    · have hproof : ∀ {a}, a ∈ first :: rest → a.isProved ≠ true := fun ha => by
        simp [hnone _ ha]
      rcases findFinIdx?_cases (first :: rest) Attempt.isAnswered with
        ⟨i, hfind', hi, hbefore⟩ | ⟨hfind', hnone'⟩
      · simp only [hfind, hfind', Option.none_or, Option.getD_some] at h
        subst h
        refine ⟨?_, fun _ _ => ⟨hi, hbefore⟩, fun hall => ?_⟩
        · rintro ⟨a, ha, hp⟩
          exact absurd hp (hproof ha)
        · rw [hall _ (List.get_mem _ i)] at hi
          cases hi
      · simp only [hfind, hfind', Option.none_or, Option.getD_none] at h
        subst h
        refine ⟨?_, ?_, fun _ => ?_⟩
        · rintro ⟨a, ha, hp⟩
          exact absurd hp (hproof ha)
        · rintro - ⟨a, ha, hans⟩
          rw [hnone' a ha] at hans
          cases hans
        · exact ⟨rfl, fun i hi => absurd hi (Nat.not_lt_zero _)⟩

theorem AdoptsBest.isAnswered_eq_false {v : Verdict} (h : v.AdoptsBest)
    (hfault : v.adopted.isAnswered = false) : ∀ a ∈ v.attempts, a.isAnswered = false := by
  intro a ha
  by_contra hans
  have hanswered : ∃ a ∈ v.attempts, a.isAnswered = true := ⟨a, ha, by simpa using hans⟩
  by_cases hproved : ∃ a ∈ v.attempts, a.isProved = true
  · have := Attempt.isAnswered_of_isProved _ (h.proof hproved).1
    simp [hfault] at this
  · have hnone : ∀ a ∈ v.attempts, a.isProved = false := by simpa using hproved
    have := (h.answer hnone hanswered).1
    simp [hfault] at this

end Verdict

/-! ### The verdict on a race -/

namespace Race

/-- What the verdict on a race that is over says about the backends that took part. -/
structure Settles (r : Race) (o : Obligation) (backends : List Backend) (v : Verdict) : Prop where
  asked_once : r.asked.Perm (backends.map (·, o))
  in_order : v.attempts = r.channel
  attempts_perm : v.attempts.Perm (backends.map (Backend.attempt · o))
  crash_recorded : ∀ k ∈ backends, ∀ crash, k.check o = .crashed crash →
    ⟨k.name, .error (.crashed k.name crash)⟩ ∈ v.attempts
  index_lt : v.index.val < backends.length
  adopts_best : v.AdoptsBest
  isProved_iff : v.isProved = true ↔ ∃ k ∈ backends, k.Proves o
  fault_adopted : v.adopted.isAnswered = false → ∀ k ∈ backends, k.Fails o

variable {o : Obligation} {backends order : List Backend} {r : Race}

/-- The verdict on a race is the one on the order in which its backends finished. -/
theorem verdict?_eq_prove? (h : r.channel = order.map (Backend.attempt · o)) :
    r.verdict? = prove? o order := by
  rw [verdict?, prove?, h]

theorem Reaches.exists_settles (h : Reaches o (start backends) r) (hfinished : r.Finished)
    (hne : backends ≠ []) : ∃ v, r.verdict? = some v ∧ r.Settles o backends v := by
  obtain ⟨order, horder, hchannel⟩ := h.exists_order hfinished
  have hprove := verdict?_eq_prove? hchannel
  have hsome : (prove? o order).isSome = true := by
    rw [prove?, Verdict.isSome_ofAttempts?]
    cases order with
    | nil => exact absurd (List.perm_nil.1 horder.symm) hne
    | cons k rest => rfl
  obtain ⟨v, hv⟩ := Option.isSome_iff_exists.1 hsome
  have hattempts : v.attempts = r.channel := by
    rw [Verdict.attempts_of_ofAttempts? hv, hchannel]
  have hperm : v.attempts.Perm (backends.map (Backend.attempt · o)) := by
    rw [hattempts, hchannel]
    exact horder.map _
  have hbest := Verdict.adoptsBest_of_ofAttempts? hv
  refine ⟨v, hprove.trans hv, h.asked_perm hfinished, hattempts, hperm, ?_, ?_, hbest, ?_, ?_⟩
  · intro k hk crash hcrash
    have hmem := hperm.symm.subset (List.mem_map_of_mem hk)
    rwa [← k.record_check, hcrash] at hmem
  · have hlength := hperm.length_eq
    rw [List.length_map] at hlength
    exact hlength ▸ v.index.isLt
  · rw [isProved_iff_of_prove? hv]
    simp only [horder.mem_iff]
  · intro hfault k hk
    rw [← k.isAnswered_attempt_eq_false_iff]
    exact hbest.isAnswered_eq_false hfault _ (hperm.symm.subset (List.mem_map_of_mem hk))

/-- Backends that run side by side can finish in any order. In every order the race comes to a
verdict that rests on one attempt of each backend and adopts the best of them, the earlier before
the later; whether it is a proof does not depend on the order. -/
theorem verdict_in_every_order (o : Obligation) {backends : List Backend} (hne : backends ≠ []) :
    (∀ order : List Backend, order.Perm backends →
      ∃ r, Reaches o (start backends) r ∧ r.Finished ∧ r.verdict? = prove? o order) ∧
    (∀ r, Reaches o (start backends) r → r.Finished →
      ∃ v, r.verdict? = some v ∧ r.Settles o backends v) ∧
    ∀ r r' v v', Reaches o (start backends) r → r.Finished → r.verdict? = some v →
      Reaches o (start backends) r' → r'.Finished → r'.verdict? = some v' →
      v.isProved = v'.isProved := by
  refine ⟨fun order horder => ?_, fun r h hfinished => h.exists_settles hfinished hne, ?_⟩
  · obtain ⟨r, hreaches, hfinished, hchannel⟩ :=
      exists_reaches_of_perm (o := o) (r := start backends) (horder.map Task.spawned)
    exact ⟨r, hreaches, hfinished, verdict?_eq_prove? hchannel⟩
  · intro r r' v v' h hfinished hv h' hfinished' hv'
    obtain ⟨w, hw, hsettles⟩ := h.exists_settles hfinished hne
    obtain ⟨w', hw', hsettles'⟩ := h'.exists_settles hfinished' hne
    obtain rfl : v = w := Option.some.inj (hv.symm.trans hw)
    obtain rfl : v' = w' := Option.some.inj (hv'.symm.trans hw')
    rw [Bool.eq_iff_iff, hsettles.isProved_iff, hsettles'.isProved_iff]

/-- A backend that proves, one that does not know, and one that crashes. -/
def unevenBackends : List Backend :=
  [⟨"cvc5", fun _ => .answered ⟨.proved, "unsat"⟩⟩,
    ⟨"yices", fun _ => .answered ⟨.unknown none, "unknown"⟩⟩,
    ⟨"boolector", fun _ => .crashed ⟨some "out of memory"⟩⟩]

theorem verdict_in_every_order_of_unevenBackends :
    unevenBackends ≠ [] ∧ ∃ r v,
      Reaches (.ofGoal [] (.bool true)) (start unevenBackends) r ∧ r.Finished ∧
      r.verdict? = some v ∧ v.attempts.map Attempt.kind = [.fault, .unknown, .proved] ∧
      v.index.val = 2 ∧ v.isProved = true ∧
      r.Settles (.ofGoal [] (.bool true)) unevenBackends v := by
  have hne : unevenBackends ≠ [] := by simp [unevenBackends]
  obtain ⟨hevery, hsettles, -⟩ := verdict_in_every_order (.ofGoal [] (.bool true)) hne
  obtain ⟨r, hreaches, hfinished, hverdict⟩ := hevery _ (List.reverse_perm unevenBackends)
  obtain ⟨v, hv, hr⟩ := hsettles r hreaches hfinished
  obtain rfl := Option.some.inj (hverdict.symm.trans hv)
  exact ⟨hne, r, _, hreaches, hfinished, hv, rfl, rfl, rfl, hr⟩

end Race

end CoreProver
