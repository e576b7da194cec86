import CoreProver.Proofs.RunSymbols

/-!
# What an obligation is quantified over

Evaluation allocates one variable for each abstraction. If no parameter occurs in what the scope
holds, the goal of a property is about these variables and about constants. Its obligation lists all
of the first, used or not, and then the constants in the order in which they occur first.
-/

namespace CoreProver

/-! ### Order of first occurrence -/

section distinct

variable {α : Type} [DecidableEq α]

theorem distinct_append_singleton (xs : List α) (a : α) :
    distinct (xs ++ [a]) = if a ∈ xs then distinct xs else distinct xs ++ [a] := by
  rw [distinct, appendNew_append]
  simp only [appendNew]
  change (if a ∈ distinct xs then distinct xs else distinct xs ++ [a]) = _
  simp only [mem_distinct]

/-- The elements of a list stand in the order of their first occurrences. -/
theorem pairwise_idxOf_distinct (xs : List α) :
    (distinct xs).Pairwise fun a b => xs.idxOf a < xs.idxOf b := by
  induction xs using List.reverseRecOn with
  | nil => exact .nil
  | append_singleton xs c ih =>
    have hfirst : (distinct xs).Pairwise fun a b => (xs ++ [c]).idxOf a < (xs ++ [c]).idxOf b := by
      refine ih.imp_of_mem fun {a b} ha hb hlt => ?_
      rw [List.idxOf_append_of_mem ((mem_distinct a xs).1 ha),
        List.idxOf_append_of_mem ((mem_distinct b xs).1 hb)]
      exact hlt
    rw [distinct_append_singleton]
    by_cases hc : c ∈ xs
    · rw [if_pos hc]
      exact hfirst
    · rw [if_neg hc, List.pairwise_append]
      refine ⟨hfirst, List.pairwise_singleton _ _, ?_⟩
      intro a ha b hb
      obtain rfl := List.mem_singleton.1 hb
      have ha' := (mem_distinct a xs).1 ha
      have hlt := List.idxOf_lt_length_of_mem ha'
      rw [List.idxOf_append_of_mem ha', List.idxOf_append_of_notMem hc]
      omega

/-- Repetitions may be dropped before or after elements are chosen. -/
theorem filter_distinct (p : α → Bool) (xs : List α) :
    (distinct xs).filter p = distinct (xs.filter p) := by
  induction xs using List.reverseRecOn with
  | nil => rfl
  | append_singleton xs c ih =>
    rw [distinct_append_singleton, List.filter_append]
    by_cases hc : c ∈ xs <;> by_cases hp : p c = true <;>
      simp [hc, hp, ih, distinct_append_singleton]

/-- Of elements that differ from one another, those that are new are added at the end. -/
theorem appendNew_eq_append_filter (seen : List α) {xs : List α} (h : xs.Nodup) :
    appendNew seen xs = seen ++ xs.filter fun a => a ∉ seen := by
  induction xs generalizing seen with
  | nil => simp [appendNew]
  | cons a rest ih =>
    obtain ⟨ha, hrest⟩ := List.nodup_cons.1 h
    by_cases hseen : a ∈ seen
    · simpa [appendNew, hseen] using ih seen hrest
    · have hsame : (rest.filter fun b => b ∉ seen ++ [a]) = rest.filter fun b => b ∉ seen := by
        refine List.filter_congr fun b hb => ?_
        have hne : b ≠ a := fun hba => ha (hba ▸ hb)
        simp [hne]
      simp only [appendNew, hseen, if_false, not_false_eq_true, decide_true,
        List.filter_cons_of_pos]
      rw [ih _ hrest, hsame, List.append_assoc, List.singleton_append]

end distinct

/-! ### Obligations -/

def SymVar.isConstant (v : SymVar) : Bool := v.origin = .constant

/-- No parameter occurs in the term. -/
def Term.ParameterFree (t : Term) : Prop := ∀ v ∈ t.occurrences, v.isConstant = true

/-- A table of constants over the prelude adds no parameters. -/
theorem Scope.addsScalars_constants {F : Type} {c : Constants}
    (hc : ∀ v ∈ c.vars, v.isConstant = true)
    (location : Option Location) :
    Scope.AddsScalars Term.ParameterFree
      (⟨[c.frame, Prelude.standard.globals], location⟩ : Scope F) := by
  refine ⟨[c.frame], rfl, ?_⟩
  intro f hf entry hentry
  obtain rfl := List.mem_singleton.1 hf
  obtain ⟨v, hv, rfl⟩ := List.mem_map.1 hentry
  refine ⟨.var v, rfl, fun w hw => ?_⟩
  obtain rfl := List.mem_singleton.1 hw
  exact hc w hv

theorem EvalState.Numbered.isConstant_eq_false {s : EvalState} (h : s.Numbered) {v : SymVar}
    (hv : v ∈ s.fresh) : v.isConstant = false := by
  simp [SymVar.isConstant, h.2 v hv]

variable {F : Type} [Foreign F]

section

variable {types : TypeTable} {scope : Scope F} {s s' : EvalState} {e : Expr} {goal : Term}
  (hscope : scope.AddsScalars Term.ParameterFree)

include hscope

theorem Evaluates.mem_fresh_or_isConstant (h : Evaluates types scope s e (.scalar goal) s')
    {v : SymVar} (hv : v ∈ goal.occurrences) : v ∈ s'.fresh ∨ v.isConstant = true := by
  have hadds : scope.AddsScalars
      fun t => ∀ v ∈ t.occurrences, v ∈ s'.fresh ∨ v.isConstant = true := by
    obtain ⟨inner, hframes, hinner⟩ := hscope
    refine ⟨inner, hframes, fun f hf entry hentry => ?_⟩
    obtain ⟨t, ht, hfree⟩ := hinner f hf entry hentry
    exact ⟨t, ht, fun v hv => .inr (hfree v hv)⟩
  obtain ⟨kinds, result, hfits⟩ := h.exists_fits (Term.stable_occurrences _) hadds
    (by simp +contextual [Term.occurrences])
  exact hfits.of_scalar.2.2 v hv

/-- The obligation of a scalar lists what was allocated, and then the constants of the scalar. -/
theorem Evaluates.vars_ofGoal (h : Evaluates types scope s e (.scalar goal) s')
    (hs : s.Numbered) :
    (Obligation.ofGoal s'.fresh goal).vars =
      s'.fresh ++ goal.freeVars.filter SymVar.isConstant := by
  have hnumbered := h.numbered hs
  have hnodup : goal.freeVars.Nodup := nodup_distinct _
  change appendNew s'.fresh goal.freeVars = _
  rw [appendNew_eq_append_filter _ hnodup]
  congr 1
  -- a variable of the goal is either allocated or a constant, so the new ones are the constants
  refine List.filter_congr fun v hv => ?_
  by_cases hfresh : v ∈ s'.fresh
  · simp [hfresh, hnumbered.isConstant_eq_false hfresh]
  · have hoccurs := (mem_distinct v _).1 hv
    have hconstant := (h.mem_fresh_or_isConstant hscope hoccurs).resolve_left hfresh
    simp [hfresh, hconstant]

end

/-- The variables that are quantified over are exactly the abstractions and the constants used. In a
scope over the prelude that adds no parameters, from every state: if an expression has a value, one
variable is allocated for each abstraction in it, from left to right and an abstraction before those
in its body, with consecutive numbers, the name of the binder and the kind of its type. An
obligation from the initial state lists these variables and then the constants of its goal in the
order of their first occurrences. No variable is listed twice, and all variables of the goal are. -/
theorem quantified_over_abstractions_and_constants (types : TypeTable) (scope : Scope F)
    (hscope : scope.AddsScalars Term.ParameterFree) (e : Expr) :
    (∀ s value s', eval types e scope s = (.ok value, s') →
      ∃ vars, s'.fresh = s.fresh ++ vars ∧
        List.Forall₂ types.Allocates (e.lambdas.zipIdx s.fresh.length) vars) ∧
    ∀ o s', evalProperty types e scope .initial = (.ok o, s') →
      List.Forall₂ types.Allocates (e.lambdas.zipIdx 0) s'.fresh ∧
      (∃ constants, o.vars = s'.fresh ++ constants ∧
        (∀ v, v ∈ constants ↔ v ∈ o.goal.occurrences ∧ v.isConstant = true) ∧
        constants.Pairwise fun v w => o.goal.occurrences.idxOf v < o.goal.occurrences.idxOf w) ∧
      o.vars.Nodup ∧ ∀ v ∈ o.goal.occurrences, v ∈ o.vars := by
  refine ⟨fun s value s' h => (Evaluates.of_eval h).exists_allocates, ?_⟩
  intro o s' h
  obtain ⟨goal, heval, -, rfl⟩ := (evalProperty_eq_ok_iff ..).1 h
  have hnumbered := heval.numbered EvalState.numbered_initial
  obtain ⟨vars, hfresh, hvars⟩ := heval.exists_allocates
  refine ⟨?_, ⟨goal.freeVars.filter SymVar.isConstant, ?_, ?_, ?_⟩, ?_, ?_⟩
  · rw [hfresh]
    exact hvars
  · exact heval.vars_ofGoal hscope EvalState.numbered_initial
  · simp [Term.freeVars, Obligation.ofGoal]
  · exact (pairwise_idxOf_distinct goal.occurrences).filter _
  · exact nodup_appendNew _ _ (List.Nodup.of_map _ hnumbered.nodup_ids)
  · intro v hv
    simp [Obligation.ofGoal, Term.freeVars, show v ∈ goal.occurrences from hv]

/-- That `x + c` equals `d + c`, where the first sum stands under an abstraction over `x`, and the
second one under an abstraction over a parameter that it does not use. -/
def sumsUnderAbstractions : Expr :=
  let t := Ty.con "Int8" []
  let sum (name : String) : Expr :=
    .app (.app (.methodAt "+" t) (.var ⟨name, t⟩)) (.var ⟨"c", t⟩)
  .app (.app (.methodAt "==" t) (.lam ⟨"x", t⟩ (sum "x"))) (.lam ⟨"y", t⟩ (sum "d"))

/-- Both parameters are quantified over, and each of the constants once. -/
theorem quantified_over_abstractions_and_constants_of_sumsUnderAbstractions :
    let constants : Constants :=
      ⟨[⟨0, "d", .signed 8, .constant⟩, ⟨1, "c", .signed 8, .constant⟩], by decide⟩
    let scope : Scope Empty := ⟨[constants.frame, Prelude.standard.globals], none⟩
    scope.AddsScalars Term.ParameterFree ∧
    ∃ o s', evalProperty Prelude.standardTypes sumsUnderAbstractions scope .initial = (.ok o, s') ∧
      o.goal.text = "(= (bvadd l0_x u1_c) (bvadd u0_d u1_c))" ∧
      List.Forall₂ Prelude.standardTypes.Allocates [(⟨"x", .con "Int8" []⟩, 0),
        (⟨"y", .con "Int8" []⟩, 1)] s'.fresh ∧
      (∃ used, o.vars = s'.fresh ++ used ∧
        used.Pairwise fun v w => o.goal.occurrences.idxOf v < o.goal.occurrences.idxOf w) ∧
      o.vars.map SymVar.symbol = ["l0_x", "l1_y", "u1_c", "u0_d"] ∧ o.vars.Nodup := by
  intro constants scope
  have hscope : scope.AddsScalars Term.ParameterFree :=
    Scope.addsScalars_constants (show ∀ v ∈ constants.vars, _ by decide) none
  refine ⟨hscope, _, _, rfl, by decide +kernel, ?_⟩
  obtain ⟨hvars, ⟨used, hlist, -, hpairwise⟩, hnodup, -⟩ :=
    (quantified_over_abstractions_and_constants Prelude.standardTypes scope hscope
      sumsUnderAbstractions).2 _ _ rfl
  exact ⟨hvars, ⟨used, hlist, hpairwise⟩, by decide +kernel, hnodup⟩

end CoreProver
