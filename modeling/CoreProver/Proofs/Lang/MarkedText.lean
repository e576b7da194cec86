import CoreProver.Lang.Printer
import CoreProver.Proofs.Coverage
import CoreProver.Proofs.Markers

/-!
# Markers in texts

A rendered expression does not show where its markers are. The one place where rendering looks at
the shape of a part is the argument of an application, and there a type is written as any other part
is.
-/

namespace CoreProver

namespace Expr

/-- A type argument is written in the same way whether its shape is seen or not. -/
theorem render_app (position : Position) (function argument : Expr) :
    (Expr.app function argument).render position =
      parenthesized position.bracketsApplications
        (function.render .side ++ " " ++ argument.render .argument) := by
  cases argument with
  | type t =>
    have hat : (" @" : String) = " " ++ "@" := rfl
    rw [render, render, hat, String.append_assoc, String.append_assoc, String.append_assoc]
  | _ => rfl

mutual

theorem render_unmarked : ∀ (e : Expr) (position : Position),
    e.unmarked.render position = e.render position
  | .app function argument, position => by
    rw [unmarked, render_app, render_app, render_unmarked function, render_unmarked argument]
  | .lam binder body, position => by simp [unmarked, render, render_unmarked body]
  | .letIn binder bound body, position => by
    simp [unmarked, render, render_unmarked bound, render_unmarked body]
  | .letRec [] body, position => by simp [unmarked, unmarkedGroup, render, render_unmarked body]
  | .letRec ((binder, bound) :: group) body, position => by
    simp [unmarked, unmarkedGroup, render, render_unmarked bound, renderGroup_unmarked group,
      render_unmarked body]
  | .cases scrutinee binder t [], position => by
    simp [unmarked, unmarkedAlternatives, render, render_unmarked scrutinee]
  | .cases scrutinee binder t (.mk pattern binders body :: alternatives), position => by
    simp [unmarked, unmarkedAlternatives, render, renderAlternative, render_unmarked scrutinee,
      render_unmarked body, renderAlternatives_unmarked alternatives]
  | .cast body c, position => by simp [unmarked, render, render_unmarked body]
  | .tick location body, position => by simp [unmarked, render, render_unmarked body]
  | .var _, _ | .lit _, _ | .type _, _ | .coercion _, _ => by rw [unmarked]

theorem renderGroup_unmarked : ∀ group : List (Var × Expr),
    renderGroup (unmarkedGroup group) = renderGroup group
  | [] => by rw [unmarkedGroup]
  | (binder, bound) :: group => by
    simp [unmarkedGroup, renderGroup, render_unmarked bound, renderGroup_unmarked group]

theorem renderAlternatives_unmarked : ∀ alternatives : List Alternative,
    renderAlternatives (unmarkedAlternatives alternatives) = renderAlternatives alternatives
  | [] => by rw [unmarkedAlternatives]
  | .mk pattern binders body :: alternatives => by
    simp [unmarkedAlternatives, renderAlternatives, renderAlternative, render_unmarked body,
      renderAlternatives_unmarked alternatives]

end

/-! ### No marker is left -/

theorem unmarked_ne_tick (location : Location) (body : Expr) :
    ∀ e : Expr, e.unmarked ≠ .tick location body
  | .tick _ e => by
    rw [unmarked]
    exact unmarked_ne_tick location body e
  | .var _ | .lit _ | .app .. | .lam .. | .letIn .. | .letRec .. | .cases .. | .cast ..
  | .type _ | .coercion _ => by simp [unmarked]

theorem exists_of_mem_unmarkedGroup {v : Var} {bound : Expr} :
    ∀ {group : List (Var × Expr)}, (v, bound) ∈ unmarkedGroup group →
      ∃ e : Expr, bound = e.unmarked
  | (_, e) :: group, h => by
    rw [unmarkedGroup] at h
    rcases List.mem_cons.1 h with h | h
    · exact ⟨e, congrArg Prod.snd h⟩
    · exact exists_of_mem_unmarkedGroup h

theorem exists_of_mem_unmarkedAlternatives {pattern : Pattern} {binders : List Var} {body : Expr} :
    ∀ {alternatives : List Alternative},
      .mk pattern binders body ∈ unmarkedAlternatives alternatives → ∃ e : Expr, body = e.unmarked
  | .mk _ _ e :: alternatives, h => by
    rw [unmarkedAlternatives] at h
    rcases List.mem_cons.1 h with h | h
    · exact ⟨e, (Alternative.mk.inj h).2.2⟩
    · exact exists_of_mem_unmarkedAlternatives h

/-- The parts of an expression without markers have none either. -/
theorem HasPart.exists_unmarked {part : Expr} {p q : Place} :
    ∀ {e : Expr}, e.unmarked.HasPart p part q → ∃ e' : Expr, part = e'.unmarked
  | .tick _ e, h => HasPart.exists_unmarked (e := e) h
  | .app f a, h => by
    cases h with
    | function => exact ⟨f, rfl⟩
    | argument => exact ⟨a, rfl⟩
  | .lam _ body, h => by
    cases h with
    | lam => exact ⟨body, rfl⟩
  | .letIn _ bound body, h => by
    cases h with
    | letBound => exact ⟨bound, rfl⟩
    | letBody => exact ⟨body, rfl⟩
  | .letRec _ body, h => by
    cases h with
    | groupBound hmem => exact exists_of_mem_unmarkedGroup hmem
    | groupBody => exact ⟨body, rfl⟩
  | .cases e .., h => by
    cases h with
    | scrutinee => exact ⟨e, rfl⟩
    | alternative hmem => exact exists_of_mem_unmarkedAlternatives hmem
  | .cast body _, h => by
    cases h with
    | cast => exact ⟨body, rfl⟩
  | .var _, h | .lit _, h | .type _, h | .coercion _, h => nomatch h

theorem StandsIn.exists_unmarked {sub e : Expr} {place p : Place}
    (h : sub.StandsIn place e.unmarked p) : ∃ e' : Expr, sub = e'.unmarked := by
  generalize he : e.unmarked = whole at h
  induction h generalizing e with
  | whole => exact ⟨e, he.symm⟩
  | inside hpart _ ih =>
    subst he
    obtain ⟨e', rfl⟩ := hpart.exists_unmarked
    exact ih rfl

/-- Markers are invisible. At each position an expression has the same text as without its markers,
among whose subexpressions, at whatever depth, there is no marker any more. -/
theorem texts_show_no_markers (e : Expr) :
    (∀ position, e.unmarked.render position = e.render position) ∧
      ∀ location body place p, ¬ (Expr.tick location body).StandsIn place e.unmarked p := by
  refine ⟨e.render_unmarked, fun location body place p h => ?_⟩
  obtain ⟨e', he'⟩ := h.exists_unmarked
  exact unmarked_ne_tick location body e' he'.symm

/-- A type argument behind a marker is written as a bare one. -/
theorem texts_show_no_markers_of_typeArgument :
    let here : Location := ⟨"P.hs", 1, 5⟩
    let marked := Expr.app (.var ⟨"f", .con "T" []⟩) (.tick here (.type (.con "Maybe" [.var "a"])))
    marked.text = "f @(Maybe a)" ∧ marked.unmarked.text = "f @(Maybe a)" := by
  intro here marked
  have htext : marked.text = "f @(Maybe a)" := by decide
  exact ⟨htext, ((texts_show_no_markers marked).1 .top).trans htext⟩

end Expr

end CoreProver
