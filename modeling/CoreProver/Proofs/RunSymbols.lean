import CoreProver.Proofs.ConstantTable
import CoreProver.Proofs.Signatures
import CoreProver.Run.Session

/-!
# Symbols over a whole run

The table of constants at every point of a run is that of the keys bound up to there, and every
obligation is about parameters of its own and constants of the table. Parameters never share a
symbol. Constants do, exactly when the history of the table conflates them.
-/

namespace CoreProver

/-- The key that an examination binds. -/
def Examination.boundKey? (x : Examination) : Option Key :=
  match x.ending with
  | .bound kind => some ⟨x.binding.name, kind⟩
  | _ => none

namespace Run

def boundKeys (xs : Run) : List Key := xs.filterMap Examination.boundKey?

/-- The constants that are bound after these examinations. -/
def constants (xs : Run) : Constants := xs.foldl (fun c x => x.constants c) .empty

/-- The table at any point of a run is that of the keys bound before. -/
theorem constants_eq_ofKeys (xs : Run) : xs.constants = .ofKeys xs.boundKeys := by
  induction xs using List.reverseRecOn with
  | nil => rfl
  | append_singleton xs x ih =>
    have hstep : constants (xs ++ [x]) = x.constants (constants xs) := by simp [constants]
    have hkeys : boundKeys (xs ++ [x]) = boundKeys xs ++ x.boundKey?.toList := by
      rw [boundKeys, List.filterMap_append]
      cases hx : x.boundKey? <;> simp [boundKeys, hx]
    rw [hstep, hkeys, ih, Examination.constants, Examination.boundKey?]
    cases x.ending with
    | bound kind =>
      exact (Constants.ofKeys_append_singleton (boundKeys xs) ⟨x.binding.name, kind⟩).symm
    | _ => simp

end Run

variable {F : Type}

namespace Session

/-- Every examination is made with the constants of those before it. -/
theorem exists_examine_eq [Foreign F] {s : Session F} {requests : List (Binding × Request)}
    {c : Constants} {before after : Run} {x : Examination}
    (h : s.examineAll requests c = before ++ x :: after) :
    ∃ b r, (b, r) ∈ requests ∧
      x = s.examine (before.foldl (fun c x => x.constants c) c) b r := by
  induction requests generalizing c before with
  | nil => simp [examineAll] at h
  | cons request rest ih =>
    obtain ⟨b, r⟩ := request
    rw [examineAll] at h
    -- An aborting examination is the last one, so nothing can stand before it.
    by_cases habort : (s.examine c b r).abort?.isSome = true
    · rw [if_pos habort] at h
      cases before with
      | nil => exact ⟨b, r, List.mem_cons_self, (List.cons.inj h).1.symm⟩
      | cons y ys => simp at h
    · rw [if_neg habort] at h
      cases before with
      | nil => exact ⟨b, r, List.mem_cons_self, (List.cons.inj h).1.symm⟩
      | cons y ys =>
        obtain ⟨rfl, htail⟩ := List.cons.inj h
        obtain ⟨b', r', hmem, hx⟩ := ih htail
        exact ⟨b', r', List.mem_cons_of_mem _ hmem, hx⟩

theorem exists_examine_of_mem_run [Foreign F] {s : Session F} {program : Program}
    {x : Examination} (h : x ∈ s.run program) : ∃ c b r, x = s.examine c b r := by
  obtain ⟨before, after, hrun⟩ := List.append_of_mem h
  obtain ⟨b, r, -, hx⟩ := exists_examine_eq hrun
  exact ⟨_, b, r, hx⟩

/-- What an evaluation leads to keeps its obligation, whatever the backends say. -/
theorem obligation?_settle (s : Session F) (r : Request) (result : Except Stop Obligation) :
    (s.settle r result).obligation? = result.toOption := by
  cases result with
  | error stop => cases stop <;> rfl
  | ok o =>
    by_cases htrivial : r.mode = .safety ∧ o.goal = .bool true
    · rw [settle, if_pos htrivial]
      rfl
    · rw [settle, if_neg htrivial, solve]
      cases s.pool (s.selectorsFor r) (s.isVerbose r) with
      | error e => rfl
      | ok backends => cases hp : prove? o backends <;> simp [hp] <;> rfl

/-- The obligation of an examination is that of its binding. -/
theorem exists_obligation_eq [Foreign F] {s : Session F} {c : Constants} {b : Binding} {r : Request}
    {o : Obligation} (h : (s.examine c b r).ending.obligation? = some o) :
    ∃ state, s.prelude.obligation c b r.mode = (.ok o, state) := by
  simp only [examine, conclude] at h
  split at h
  · cases h
  · split at h
    · cases h
    · split at h
      · split at h <;> cases h
      · rcases hob : s.prelude.obligation c b r.mode with ⟨result, state⟩
        rw [hob] at h
        rw [obligation?_settle] at h
        cases result with
        | error stop => cases h
        | ok o' =>
          cases h
          exact ⟨state, rfl⟩

end Session

/-! ### The variables of an obligation -/

/-- The methods bring no variables of their own. -/
theorem Term.stable_occurrences (P : SymVar → Prop) :
    Term.Stable fun t => ∀ v ∈ t.occurrences, P v where
  bool := by simp [occurrences]
  int := by simp [occurrences]
  unary := fun m kind _ t _ ht v hv => ht v (m.occurrences_term kind t v hv)
  binary := fun m kind _ t u _ _ ht hu v hv => by
    rcases m.occurrences_term kind t u v hv with hv | hv
    · exact ht v hv
    · exact hu v hv

/-- Conditions for the divisions in a term are about its variables. -/
theorem Term.occurrences_divisionConditions {t u : Term} (hu : u ∈ t.divisionConditions)
    {v : SymVar} (hv : v ∈ u.occurrences) : v ∈ t.occurrences := by
  induction t with
  | var _ | bool _ | int _ _ => cases hu
  | unary op operand ih => exact ih hu
  | binary op left right ihl ihr =>
    simp only [divisionConditions, List.mem_append] at hu
    simp only [occurrences, List.mem_append]
    rcases hu with (hu | hu) | hu
    · obtain rfl : u = nonzero right := by
        cases hop : op.isPartial <;> simp_all
      exact .inr (by simpa [nonzero, occurrences] using hv)
    · exact .inl (ihl hu)
    · exact .inr (ihr hu)
  | ite condition yes no ihc ihy ihn =>
    simp only [divisionConditions, List.mem_append] at hu
    simp only [occurrences, List.mem_append]
    rcases hu with (hu | hu) | hu
    · exact .inl (.inl (ihc hu))
    · exact .inl (.inr (ihy hu))
    · exact .inr (ihn hu)

theorem Term.exists_of_mem_occurrences_all {ts : List Term} {v : SymVar}
    (hv : v ∈ (Term.all ts).occurrences) : ∃ t ∈ ts, v ∈ t.occurrences := by
  revert hv
  refine Term.all_induction (P := fun ts t => v ∈ t.occurrences → ∃ u ∈ ts, v ∈ u.occurrences)
    ?_ ?_ ?_ ts
  · exact fun h => nomatch h
  · exact fun t h => ⟨t, List.mem_singleton_self t, h⟩
  · intro ts t u ih h
    rcases List.mem_append.1 h with ht | hu
    · obtain ⟨w, hw, hvw⟩ := ih ht
      exact ⟨w, List.mem_append_left _ hw, hvw⟩
    · exact ⟨u, by simp, hu⟩

theorem Term.occurrences_all_safetyConditions {t : Term} {v : SymVar}
    (hv : v ∈ (Term.all t.safetyConditions).occurrences) : v ∈ t.occurrences := by
  obtain ⟨u, hu, hvu⟩ := exists_of_mem_occurrences_all hv
  exact occurrences_divisionConditions ((mem_distinct u _).1 hu) hvu

/-- A scope over the prelude in which constants with a property are bound. -/
theorem Prelude.addsScalars_scope {p : Prelude F} (hp : p.globals = Prelude.standard.globals)
    {Q : Term → Prop} {c : Constants} (hc : ∀ v ∈ c.vars, Q (.var v)) (b : Binding) :
    (p.scope c b).AddsScalars Q := by
  refine ⟨[c.frame], by simp [Prelude.scope, Scope.extendAll, Scope.moveTo, Scope.root, hp], ?_⟩
  intro f hf e he
  obtain rfl := List.mem_singleton.1 hf
  obtain ⟨v, hv, rfl⟩ := List.mem_map.1 he
  exact ⟨.var v, rfl, hc v hv⟩

variable [Foreign F]

/-- A binding with an obligation allocates one variable for each abstraction. -/
theorem Prelude.length_fresh_of_obligation {p : Prelude F} {c : Constants} {b : Binding}
    {mode : Mode} {o : Obligation} {s' : EvalState} (h : p.obligation c b mode = (.ok o, s')) :
    s'.fresh.length = b.body.lambdas.length := by
  have hevaluates : ∃ t, Evaluates p.types (p.scope c b) .initial b.body (.scalar t) s' := by
    unfold Prelude.obligation at h
    split at h
    · obtain ⟨t, ht, -⟩ := (evalSafety_eq_ok_iff ..).1 h
      exact ⟨t, ht⟩
    · obtain ⟨t, ht, -⟩ := (evalProperty_eq_ok_iff ..).1 h
      exact ⟨t, ht⟩
  obtain ⟨t, ht⟩ := hevaluates
  obtain ⟨vars, hvars, hlength⟩ := ht.exists_fresh_eq
  rw [hvars, ← hlength]
  rfl

section obligations

variable {p : Prelude F} (hp : p.globals = Prelude.standard.globals)

include hp

/-- The scalars of a binding are about parameters of its own and constants of the table. -/
theorem Evaluates.mem_fresh_or_mem_constants {types : TypeTable} {c : Constants} {b : Binding}
    {t : Term} {s' : EvalState} (h : Evaluates types (p.scope c b) .initial b.body (.scalar t) s')
    {v : SymVar} (hv : v ∈ t.occurrences) : v ∈ s'.fresh ∨ v ∈ c.vars := by
  have hscope : (p.scope c b).AddsScalars
      fun t => ∀ v ∈ t.occurrences, v ∈ s'.fresh ∨ v ∈ c.vars :=
    Prelude.addsScalars_scope hp (by simp +contextual [Term.occurrences]) b
  obtain ⟨kinds, result, hfits⟩ := h.exists_fits (Term.stable_occurrences _) hscope
    (by simp +contextual [Term.occurrences])
  exact hfits.of_scalar.2.2 v hv

/-- An obligation lists its parameters and then those constants of the table that it is about. -/
theorem Prelude.exists_ofGoal_eq {c : Constants} {b : Binding} {mode : Mode} {o : Obligation}
    {s' : EvalState} (h : p.obligation c b mode = (.ok o, s')) :
    s'.Numbered ∧ ∃ goal, o = .ofGoal s'.fresh goal ∧
      ∀ v ∈ goal.occurrences, v ∈ s'.fresh ∨ v ∈ c.vars := by
  unfold Prelude.obligation at h
  split at h
  · obtain ⟨t, ht, rfl⟩ := (evalSafety_eq_ok_iff ..).1 h
    refine ⟨ht.numbered EvalState.numbered_initial, _, rfl, fun v hv => ?_⟩
    exact ht.mem_fresh_or_mem_constants hp (Term.occurrences_all_safetyConditions hv)
  · obtain ⟨goal, hgoal, -, rfl⟩ := (evalProperty_eq_ok_iff ..).1 h
    refine ⟨hgoal.numbered EvalState.numbered_initial, goal, rfl, fun v hv => ?_⟩
    exact hgoal.mem_fresh_or_mem_constants hp hv

end obligations

theorem EvalState.Numbered.nodup_ids {s : EvalState} (h : s.Numbered) :
    (s.fresh.map SymVar.id).Nodup := by
  rw [h.1]
  exact List.nodup_range

/-- Variables of an obligation share a symbol exactly when they are conflated constants. -/
theorem Prelude.symbol_eq_iff_of_obligation {p : Prelude F}
    (hp : p.globals = Prelude.standard.globals) {keys : List Key} {b : Binding} {mode : Mode}
    {o : Obligation} {s' : EvalState} (h : p.obligation (.ofKeys keys) b mode = (.ok o, s')) :
    o.vars.Nodup ∧ ∀ v ∈ o.vars, ∀ w ∈ o.vars, v ≠ w →
      (v.symbol = w.symbol ↔
        (v ∈ (Constants.ofKeys keys).vars ∧ w ∈ (Constants.ofKeys keys).vars) ∧
          Conflated keys v w) := by
  obtain ⟨hnumbered, goal, rfl, hgoal⟩ := Prelude.exists_ofGoal_eq hp h
  refine ⟨nodup_appendNew _ _ (List.Nodup.of_map _ hnumbered.nodup_ids), ?_⟩
  have hplace : ∀ v ∈ (Obligation.ofGoal s'.fresh goal).vars,
      v ∈ s'.fresh ∧ v.origin = .parameter ∨
        v ∈ (Constants.ofKeys keys).vars ∧ v.origin = .constant := by
    intro v hv
    simp only [Obligation.ofGoal, mem_appendNew, Term.freeVars, mem_distinct] at hv
    rcases hv.elim .inl (hgoal v) with hfresh | htable
    · exact .inl ⟨hfresh, hnumbered.2 v hfresh⟩
    · exact .inr ⟨htable, ((Constants.mem_ofKeys_iff keys v).1 htable).1⟩
  intro v hv w hw hne
  constructor
  · intro hsymbol
    obtain ⟨horigin, hid, -⟩ := (SymVar.symbol_eq_iff v w).1 hsymbol
    rcases hplace v hv with ⟨hv', hvo⟩ | ⟨hv', hvo⟩
    · rcases hplace w hw with ⟨hw', -⟩ | ⟨-, hwo⟩
      · exact absurd (List.inj_on_of_nodup_map hnumbered.nodup_ids hv' hw' hid) hne
      · rw [hvo, hwo] at horigin
        cases horigin
    · rcases hplace w hw with ⟨-, hwo⟩ | ⟨hw', -⟩
      · rw [hvo, hwo] at horigin
        cases horigin
      · exact ⟨⟨hv', hw'⟩, (Constants.symbol_eq_iff_conflated hv' hw' hne).1 hsymbol⟩
  · rintro ⟨⟨hv', hw'⟩, hconflated⟩
    exact (Constants.symbol_eq_iff_conflated hv' hw' hne).2 hconflated

/-- The numbers of an obligation's variables stay below the number of examinations before it or of
abstractions in the body of its binding. So they have 32 bits while there are at most `2 ^ 32` of
either. -/
theorem Session.id_lt_of_mem_vars {s : Session F}
    (hs : s.prelude.globals = Prelude.standard.globals) {p : Program} {before after : Run}
    {x : Examination} (hrun : s.run p = before ++ x :: after) {o : Obligation}
    (ho : x.ending.obligation? = some o) {v : SymVar} (hv : v ∈ o.vars) :
    v.id < max before.length x.binding.body.lambdas.length := by
  obtain ⟨b, r, -, rfl⟩ := Session.exists_examine_eq hrun
  obtain ⟨state, hstate⟩ := Session.exists_obligation_eq ho
  obtain ⟨⟨hids, -⟩, goal, rfl, hgoal⟩ := Prelude.exists_ofGoal_eq hs hstate
  simp only [Obligation.ofGoal, mem_appendNew, Term.freeVars, mem_distinct] at hv
  rcases hv.elim .inl (hgoal v) with hfresh | htable
  · have hmem : v.id ∈ List.range state.fresh.length := hids ▸ List.mem_map_of_mem hfresh
    rw [Prelude.length_fresh_of_obligation hstate, List.mem_range] at hmem
    exact lt_max_of_lt_right hmem
  · change v ∈ before.constants.vars at htable
    rw [Run.constants_eq_ofKeys] at htable
    have hlt := Constants.id_lt_of_mem_ofKeys htable
    exact lt_max_of_lt_left (hlt.trans_le (List.length_filterMap_le _ _))

/-- At every point of a run, constants under different keys share a symbol exactly when the history
of the table conflates them. The next examination is made with that table, and different variables
of its obligation share a symbol exactly when they are such constants. -/
theorem Session.symbols_shared_iff_conflated {s : Session F}
    (hs : s.prelude.globals = Prelude.standard.globals) (p : Program) {before after : Run}
    (hrun : s.run p = before ++ after) :
    (∀ v ∈ before.constants.vars, ∀ w ∈ before.constants.vars, v.key ≠ w.key →
      (v.symbol = w.symbol ↔ Conflated before.boundKeys v w)) ∧
    ∀ x rest, after = x :: rest →
      (∃ b r, (b, r) ∈ p.requests ∧ x = s.examine before.constants b r) ∧
      ∀ o, x.ending.obligation? = some o →
        o.vars.Nodup ∧ ∀ v ∈ o.vars, ∀ w ∈ o.vars, v ≠ w →
          (v.symbol = w.symbol ↔
            (v ∈ before.constants.vars ∧ w ∈ before.constants.vars) ∧
              Conflated before.boundKeys v w) := by
  refine ⟨?_, ?_⟩
  · rw [Run.constants_eq_ofKeys]
    intro v hv w hw hkey
    exact Constants.symbol_eq_iff_conflated hv hw fun h => hkey (congrArg SymVar.key h)
  · rintro x rest rfl
    obtain ⟨b, r, hmem, hx⟩ := Session.exists_examine_eq hrun
    refine ⟨⟨b, r, hmem, hx⟩, fun o ho => ?_⟩
    rw [hx] at ho
    obtain ⟨state, hstate⟩ := Session.exists_obligation_eq ho
    change s.prelude.obligation before.constants b r.mode = _ at hstate
    rw [Run.constants_eq_ofKeys] at hstate ⊢
    exact Prelude.symbol_eq_iff_of_obligation hs hstate

/-- A session with a backend that never knows. -/
def undecidedSession : Session Empty where
  prelude := .standard
  pool := fun _ _ => .ok [⟨"z3", fun _ => .answered ⟨.unknown none, ""⟩⟩]
  provable := fun _ => true
  settings := ⟨[.allInstalled], false, false⟩

/-- A constant that is bound twice, one with a similar name, and the property that they are
equal. -/
def reboundConstant : Program :=
  let int : Ty := .con "Int" []
  let constant (name : String) (requests : List Request) : Binding :=
    ⟨name, ⟨"P.hs", 1, 1⟩, int, .var ⟨"zero", int⟩, requests⟩
  let equation : Expr := .app (.app (.methodAt "==" int) (.var ⟨"a'", int⟩)) (.var ⟨"a_", int⟩)
  ⟨none, [constant "a'" [.uninterpret, .uninterpret], constant "a_" [.uninterpret],
    ⟨"prop", ⟨"P.hs", 3, 1⟩, .con "Bool" [], equation, [.prove []]⟩]⟩

theorem symbols_shared_of_reboundConstant :
    ∃ (before : Run) (x : Examination) (o : Obligation),
      undecidedSession.run reboundConstant = before ++ [x] ∧
      before.boundKeys = [⟨"a'", .signed 64⟩, ⟨"a'", .signed 64⟩, ⟨"a_", .signed 64⟩] ∧
      x.ending.obligation? = some o ∧ o.goal.text = "(= u1_a_ u1_a_)" ∧
      ∃ v ∈ o.vars, ∃ w ∈ o.vars, v.key ≠ w.key ∧ Conflated before.boundKeys v w := by
  let v : SymVar := ⟨1, "a'", .signed 64, .constant⟩
  let w : SymVar := ⟨1, "a_", .signed 64, .constant⟩
  let o : Obligation := ⟨[v, w], .binary .eq (.var v) (.var w)⟩
  let before : Run := (undecidedSession.run reboundConstant).take 3
  have hrun : ∃ x, undecidedSession.run reboundConstant = before ++ [x] ∧
      x.ending.obligation? = some o := ⟨_, rfl, rfl⟩
  obtain ⟨x, hrun, ho⟩ := hrun
  refine ⟨before, x, o, hrun, rfl, ho, by decide, v, by simp [o], w, by simp [o], by decide, ?_⟩
  have hpoint := Session.symbols_shared_iff_conflated rfl reboundConstant hrun
  have hshared := (hpoint.2 x [] rfl).2 o ho
  exact ((hshared.2 v (by simp [o]) w (by simp [o]) (by decide)).1 (by decide)).2

end CoreProver
