/-!
# Lists without repetition

The elements of a list in order of first occurrence.
-/

namespace CoreProver

/-- The elements of a list in order of first occurrence, added to those of `seen`. -/
def appendNew {α : Type} [DecidableEq α] (seen : List α) : List α → List α
  | [] => seen
  | a :: rest => appendNew (if a ∈ seen then seen else seen ++ [a]) rest

/-- The elements of a list in order of first occurrence. -/
def distinct {α : Type} [DecidableEq α] (xs : List α) : List α := appendNew [] xs

/-- Nothing is lost and nothing is invented. -/
@[simp] theorem mem_appendNew {α : Type} [DecidableEq α] (x : α) (seen xs : List α) :
    x ∈ appendNew seen xs ↔ x ∈ seen ∨ x ∈ xs := by
  induction xs generalizing seen with
  | nil => simp [appendNew]
  | cons a rest ih =>
    by_cases h : a ∈ seen
    · simp only [appendNew, h, if_true, ih, List.mem_cons]
      constructor
      · rintro (hs | hr)
        · exact .inl hs
        · exact .inr (.inr hr)
      · rintro (hs | rfl | hr)
        · exact .inl hs
        · exact .inl h
        · exact .inr hr
    · simp [appendNew, h, ih, or_assoc]

@[simp] theorem mem_distinct {α : Type} [DecidableEq α] (x : α) (xs : List α) :
    x ∈ distinct xs ↔ x ∈ xs := by
  simp [distinct]

theorem nodup_appendNew {α : Type} [DecidableEq α] (seen xs : List α) (h : seen.Nodup) :
    (appendNew seen xs).Nodup := by
  induction xs generalizing seen with
  | nil => exact h
  | cons a rest ih =>
    by_cases ha : a ∈ seen
    · simpa [appendNew, ha] using ih seen h
    · simp only [appendNew, ha, if_false]
      apply ih
      rw [List.nodup_append]
      refine ⟨h, by simp, ?_⟩
      intro x hx y hy
      rw [List.mem_singleton.1 hy]
      exact fun e => ha (e ▸ hx)

theorem nodup_distinct {α : Type} [DecidableEq α] (xs : List α) : (distinct xs).Nodup :=
  nodup_appendNew [] xs List.nodup_nil

end CoreProver
