import CoreProver.Proofs.Failures
import CoreProver.Proofs.Signatures
import CoreProver.Run.Session
import Mathlib.Data.Set.Basic

/-!
# Where crashes come from

Evaluation has no crashes of its own: it applies functions that the scope holds, or that these
return, to values of the same provenance. If no such call crashes, then no evaluation does.
-/

namespace CoreProver

variable {F : Type}

/-- The scalars are values of the set, and calls lead from values of the set to values of the
set. -/
structure Value.Closed [Foreign F] (S : Set (Value F)) : Prop where
  scalar : ∀ t, .scalar t ∈ S
  call : ∀ op arg value, .function op ∈ S → arg ∈ S → op.call arg = .ok value → value ∈ S

/-- No call crashes that applies a value of the set to one of the set. -/
structure Value.CrashFree [Foreign F] (S : Set (Value F)) : Prop extends Value.Closed S where
  ne_crashed : ∀ op arg crash, .function op ∈ S → arg ∈ S → op.call arg ≠ .error (.crashed crash)

/-- The values of the scope are in the set. -/
def Scope.Within (scope : Scope F) (S : Set (Value F)) : Prop :=
  ∀ f ∈ scope.frames, ∀ e ∈ f, e.2 ∈ S

namespace Scope.Within

variable {scope : Scope F} {S : Set (Value F)}

theorem extend (h : scope.Within S) (key : Key) {value : Value F} (hvalue : value ∈ S) :
    (scope.extend key value).Within S := by
  intro f hf e he
  rcases List.mem_cons.1 hf with rfl | hf
  · rw [List.mem_singleton.1 he]
    exact hvalue
  · exact h f hf e he

theorem moveTo (h : scope.Within S) (location : Location) : (scope.moveTo location).Within S := h

theorem lookup? (h : scope.Within S) {key : Key} {value : Value F}
    (hv : scope.lookup? key = some value) : value ∈ S := by
  obtain ⟨f, hf, hfv⟩ := List.exists_of_findSome?_eq_some hv
  obtain ⟨e, he, rfl⟩ := Option.map_eq_some_iff.1 hfv
  exact h f hf e (List.mem_of_find?_eq_some he)

end Scope.Within

variable [Foreign F]

/-- No value of the scope crashes, whatever it and the functions that it returns are applied to, as
long as the arguments come from the scope too. -/
def Scope.CrashFree (scope : Scope F) : Prop := ∃ S, Value.CrashFree S ∧ scope.Within S

/-- No value of the prelude crashes on what comes from the prelude. -/
def Prelude.CrashFree (p : Prelude F) : Prop :=
  ∃ S, Value.CrashFree S ∧ ∀ e ∈ p.globals, e.2 ∈ S

/-! ### The prelude of programs -/

/-- A function that wants a scalar refuses what it does not take. -/
theorem Value.map_expect_ne_crashed {α : Type} (function : String) (kind : Kind) (v : Value F)
    (f : Term → α) (crash : Crash) : (v.expect function kind).map f ≠ .error (.crashed crash) := by
  cases v with
  | scalar t => by_cases hk : t.kind = kind <;> simp [expect, hk, Except.map]
  | function op => simp [expect, Except.map]

/-- The value is a scalar or builds terms from scalars. -/
def Value.IsNative : Value F → Prop
  | .scalar _ | .function (.unary ..) | .function (.binary ..) => True
  | .function (.foreign _) => False

/-- Functions that build terms do not crash, and return such functions. -/
theorem Value.crashFree_isNative : Value.CrashFree {v : Value F | v.IsNative} where
  scalar _ := trivial
  call := by
    rintro (⟨name, kind, f⟩ | ⟨name, kind, f⟩ | f) arg value hop - h
    · obtain ⟨t, -, -, rfl⟩ := Operation.call_unary_eq_ok_iff.1 h
      trivial
    · obtain ⟨t, -, -, rfl⟩ := Operation.call_binary_eq_ok_iff.1 h
      trivial
    · exact hop.elim
  ne_crashed := by
    rintro (⟨name, kind, f⟩ | ⟨name, kind, f⟩ | f) arg crash hop -
    · exact arg.map_expect_ne_crashed name kind _ crash
    · exact arg.map_expect_ne_crashed name kind _ crash
    · exact hop.elim

theorem Prelude.crashFree_standard : (Prelude.standard : Prelude F).CrashFree :=
  ⟨_, Value.crashFree_isNative, Prelude.forall_standard (fun _ => trivial) (fun _ _ _ => trivial)
    (fun _ _ _ => trivial) (fun _ _ _ => trivial)⟩

/-! ### Evaluation -/

/-- Evaluation keeps to a closed set of values. -/
theorem Evaluates.mem_of_closed {S : Set (Value F)} (hS : Value.Closed S) {types : TypeTable}
    {scope : Scope F} {s s' : EvalState} {e : Expr} {value : Value F}
    (h : Evaluates types scope s e value s') (hscope : scope.Within S) : value ∈ S := by
  induction h with
  | var _ hv => exact hscope.lookup? hv
  | typeApp _ ih => exact ih hscope
  | method _ hm =>
    obtain ⟨key, hv⟩ := exists_lookup?_of_methodValue?_eq_some hm
    exact hscope.lookup? hv
  | app _ _ _ _ hc ihf iha => exact hS.call _ _ _ (ihf hscope) (iha hscope) hc
  | lam _ _ ih => exact ih (hscope.extend _ (hS.scalar _))
  | tick _ ih => exact ih (hscope.moveTo _)

/-- In a scope without crashes, no evaluation fails by one: the only rule that could do so is for
the call of a function, and the function and its argument are values of the scope. -/
theorem Fails.ne_crashed {S : Set (Value F)} (hS : Value.CrashFree S) {types : TypeTable}
    {scope : Scope F} {s s' : EvalState} {e : Expr} {stop : Stop}
    (h : Fails types scope s e stop s') (hscope : scope.Within S) (crash : Crash) :
    stop ≠ .crashed crash := by
  induction h with
  | raised h =>
    cases h with
    | crashed _ _ hf harg hc =>
      have hop := hf.mem_of_closed hS.toClosed hscope
      have hmem := harg.mem_of_closed hS.toClosed hscope
      exact absurd hc (hS.ne_crashed _ _ _ hop hmem)
    | _ => simp
  | typeApp _ ih | function _ _ _ ih | argument _ _ _ _ ih => exact ih hscope
  | lam _ _ ih => exact ih (hscope.extend _ (hS.scalar _))
  | tick _ ih => exact ih (hscope.moveTo _)

theorem eval_ne_crashed (types : TypeTable) (e : Expr) {scope : Scope F} (hscope : scope.CrashFree)
    (s : EvalState) (crash : Crash) : (eval types e scope s).1 ≠ .error (.crashed crash) := by
  rcases h : eval types e scope s with ⟨stop | value, s'⟩
  · obtain ⟨S, hS, hwithin⟩ := hscope
    simpa using (Fails.of_eval h).ne_crashed hS hwithin crash
  · simp

theorem evalScalar_ne_crashed (types : TypeTable) (e : Expr) {scope : Scope F}
    (hscope : scope.CrashFree) (s : EvalState) (crash : Crash) :
    (evalScalar types e scope s).1 ≠ .error (.crashed crash) := by
  have heval := eval_ne_crashed types e hscope s crash
  unfold evalScalar
  generalize eval types e scope s = outcome at heval ⊢
  rcases outcome with ⟨stop | ⟨t⟩ | ⟨op⟩, s₁⟩
  · simpa using heval
  · simp
  · simp [Scope.fail]

/-- Constants are scalars, so that the scope of a binding has no crashes if the prelude has none. -/
theorem Prelude.CrashFree.scope {p : Prelude F} (h : p.CrashFree) (c : Constants) (b : Binding) :
    (p.scope c b).CrashFree := by
  obtain ⟨S, hS, hglobals⟩ := h
  refine ⟨S, hS, fun f hf e he => ?_⟩
  rcases List.mem_cons.1 hf with rfl | hf
  · obtain ⟨v, -, rfl⟩ := List.mem_map.1 he
    exact hS.scalar _
  · obtain rfl := List.mem_singleton.1 hf
    exact hglobals e he

/-- With a prelude without crashes, every binding has an obligation or a coverage error. -/
theorem Prelude.CrashFree.obligation_ne_crashed {p : Prelude F} (h : p.CrashFree) (c : Constants)
    (b : Binding) (mode : Mode) (crash : Crash) :
    (p.obligation c b mode).1 ≠ .error (.crashed crash) := by
  have hscalar := evalScalar_ne_crashed p.types b.body (h.scope c b) .initial crash
  unfold Prelude.obligation evalSafety evalProperty
  generalize evalScalar p.types b.body (p.scope c b) .initial = outcome at hscalar ⊢
  rcases outcome with ⟨stop | t, s₁⟩
  · cases mode <;> simpa using hscalar
  · cases mode <;> by_cases hk : t.kind = .bool <;> simp [hk, Scope.fail]

end CoreProver
