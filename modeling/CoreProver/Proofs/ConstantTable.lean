import CoreProver.Proofs.Symbols
import CoreProver.Run.Constants
import Mathlib.Data.List.Induction
import Mathlib.Data.List.Nodup
import Mathlib.Data.List.Perm.Basic

/-!
# The table of constants and its history

Which constants the table holds, and under which numbers, follows from the keys that were bound, in
order. A constant has the number of different keys bound before it. So two constants have the same
number exactly when every key bound from the first of them up to the second had been bound before:
binding a key again takes a new number without making the table larger.
-/

namespace CoreProver

section distinct

variable {α : Type} [DecidableEq α]

theorem length_le_length_appendNew (seen xs : List α) :
    seen.length ≤ (appendNew seen xs).length := by
  induction xs generalizing seen with
  | nil => exact Nat.le_refl _
  | cons a rest ih =>
    have hstep := ih (if a ∈ seen then seen else seen ++ [a])
    by_cases ha : a ∈ seen
    · simpa [appendNew, ha] using hstep
    · simp only [ha, if_false, List.length_append, List.length_singleton] at hstep
      simp only [appendNew, ha, if_false]
      omega

/-- A list gets longer exactly by elements that it does not have. -/
theorem length_appendNew_eq_iff (seen xs : List α) :
    (appendNew seen xs).length = seen.length ↔ ∀ a ∈ xs, a ∈ seen := by
  induction xs generalizing seen with
  | nil => simp [appendNew]
  | cons a rest ih =>
    by_cases ha : a ∈ seen
    · simp [appendNew, ha, ih]
    · have hlonger := length_le_length_appendNew (seen ++ [a]) rest
      simp only [List.length_append, List.length_singleton] at hlonger
      have hne : (appendNew seen (a :: rest)).length ≠ seen.length := by
        simp only [appendNew, ha, if_false]
        omega
      simp [hne, ha]

theorem length_distinct_le (xs : List α) : (distinct xs).length ≤ xs.length :=
  (List.subperm_of_subset (nodup_distinct xs) fun a ha => (mem_distinct a xs).1 ha).length_le

theorem appendNew_append (seen xs ys : List α) :
    appendNew seen (xs ++ ys) = appendNew (appendNew seen xs) ys := by
  induction xs generalizing seen with
  | nil => rfl
  | cons a rest ih => exact ih _

theorem length_distinct_append_eq_iff (xs ys : List α) :
    (distinct (xs ++ ys)).length = (distinct xs).length ↔ ∀ a ∈ ys, a ∈ xs := by
  have hlength := length_appendNew_eq_iff (distinct xs) ys
  simp only [mem_distinct] at hlength
  rwa [distinct, appendNew_append]

end distinct

namespace Constants

/-- The table after these keys were bound, in order. -/
def ofKeys (keys : List Key) : Constants := keys.foldl (fun c k => c.bind k.name k.kind) .empty

theorem ofKeys_append_singleton (keys : List Key) (k : Key) :
    ofKeys (keys ++ [k]) = (ofKeys keys).bind k.name k.kind := by
  simp [ofKeys]

theorem mem_bind_iff (c : Constants) (k : Key) (v : SymVar) :
    v ∈ (c.bind k.name k.kind).vars ↔
      v = ⟨c.vars.length, k.name, k.kind, .constant⟩ ∨ v ∈ c.vars ∧ v.key ≠ k := by
  obtain ⟨name, kind⟩ := k
  simp [bind]

theorem mem_keys_ofKeys (keys : List Key) (k : Key) :
    k ∈ (ofKeys keys).vars.map SymVar.key ↔ k ∈ keys := by
  induction keys using List.reverseRecOn with
  | nil => simp [ofKeys, empty]
  | append_singleton keys last ih =>
    rw [ofKeys_append_singleton, List.mem_append, List.mem_singleton, ← ih]
    simp only [List.mem_map, mem_bind_iff]
    constructor
    · rintro ⟨v, rfl | ⟨hv, -⟩, rfl⟩
      · exact .inr rfl
      · exact .inl ⟨v, hv, rfl⟩
    · by_cases hk : k = last
      · exact fun _ => ⟨_, .inl rfl, hk.symm⟩
      · rintro (⟨v, hv, rfl⟩ | h)
        · exact ⟨v, .inr ⟨hv, hk⟩, rfl⟩
        · exact absurd h hk

/-- The table is as large as the number of different keys. -/
theorem length_ofKeys (keys : List Key) : (ofKeys keys).vars.length = (distinct keys).length := by
  have hperm : ((ofKeys keys).vars.map SymVar.key).Perm (distinct keys) := by
    rw [List.perm_ext_iff_of_nodup (ofKeys keys).nodup_keys (nodup_distinct keys)]
    intro k
    rw [mem_keys_ofKeys, mem_distinct]
  simpa using hperm.length_eq

/-- A constant of the table was bound last where the number of different keys before it is its
own. -/
theorem mem_ofKeys_iff (keys : List Key) (v : SymVar) :
    v ∈ (ofKeys keys).vars ↔
      v.origin = .constant ∧ ∃ before after, keys = before ++ v.key :: after ∧ v.key ∉ after ∧
        v.id = (distinct before).length := by
  induction keys using List.reverseRecOn with
  | nil => simp [ofKeys, empty]
  | append_singleton keys last ih =>
    rw [ofKeys_append_singleton, mem_bind_iff, length_ofKeys, ih]
    constructor
    · rintro (rfl | ⟨⟨horigin, before, after, rfl, hafter, hid⟩, hne⟩)
      · exact ⟨rfl, keys, [], rfl, List.not_mem_nil, rfl⟩
      · exact ⟨horigin, before, after ++ [last], by simp, by simp [hafter, hne], hid⟩
    · rintro ⟨horigin, before, after, hkeys, hafter, hid⟩
      rcases List.eq_nil_or_concat after with rfl | ⟨after, last', rfl⟩
      · obtain ⟨rfl, hlast⟩ := List.append_inj' hkeys rfl
        obtain rfl : last = v.key := by simpa using hlast
        obtain ⟨id, name, kind, origin⟩ := v
        left
        simp_all [SymVar.key]
      · have hsplit : keys ++ [last] = (before ++ v.key :: after) ++ [last'] := by simpa using hkeys
        obtain ⟨hkeys', hlast⟩ := List.append_inj' hsplit rfl
        obtain rfl : last = last' := by simpa using hlast
        simp only [List.concat_eq_append, List.mem_append, List.mem_singleton, not_or] at hafter
        exact .inr ⟨⟨horigin, before, after, hkeys', hafter.1, hid⟩, hafter.2⟩

/-- A constant has a smaller number than there were bindings. -/
theorem id_lt_of_mem_ofKeys {keys : List Key} {v : SymVar} (hv : v ∈ (ofKeys keys).vars) :
    v.id < keys.length := by
  obtain ⟨-, before, after, rfl, -, hid⟩ := (mem_ofKeys_iff keys v).1 hv
  have hle := length_distinct_le before
  rw [hid, List.length_append, List.length_cons]
  omega

/-- The number of a constant, read off the place where its key was bound last. -/
theorem id_eq_of_mem_ofKeys {keys before after : List Key} {v : SymVar}
    (hv : v ∈ (ofKeys keys).vars) (hkeys : keys = before ++ v.key :: after)
    (hafter : v.key ∉ after) : v.id = (distinct before).length := by
  let u : SymVar := ⟨(distinct before).length, v.name, v.kind, .constant⟩
  have hu : u ∈ (ofKeys keys).vars :=
    (mem_ofKeys_iff keys u).2 ⟨rfl, before, after, hkeys, hafter, rfl⟩
  have heq : v = u := List.inj_on_of_nodup_map (ofKeys keys).nodup_keys hv hu rfl
  rw [heq]

end Constants

/-- From where the first key was bound last up to where the second was, only keys were bound that
had been bound before. -/
def OnlyRebound (keys : List Key) (first second : Key) : Prop :=
  ∃ before between after, keys = before ++ first :: (between ++ second :: after) ∧
    first ∉ between ++ second :: after ∧ second ∉ after ∧ ∀ k ∈ first :: between, k ∈ before

/-- Nothing else is left of the names of two constants, and they have one number. -/
def Conflated (keys : List Key) (v w : SymVar) : Prop :=
  v.decoration = w.decoration ∧
    (OnlyRebound keys v.key w.key ∨ OnlyRebound keys w.key v.key)

theorem OnlyRebound.id_eq {keys : List Key} {v w : SymVar} (h : OnlyRebound keys v.key w.key)
    (hv : v ∈ (Constants.ofKeys keys).vars) (hw : w ∈ (Constants.ofKeys keys).vars) :
    v.id = w.id := by
  obtain ⟨before, between, after, hkeys, hfirst, hsecond, hold⟩ := h
  have hkeys' : keys = (before ++ v.key :: between) ++ w.key :: after := by simpa using hkeys
  rw [Constants.id_eq_of_mem_ofKeys hv hkeys hfirst,
    Constants.id_eq_of_mem_ofKeys hw hkeys' hsecond]
  exact ((length_distinct_append_eq_iff before (v.key :: between)).2 hold).symm

/-- If the first constant was bound before the second, they have one number only through keys that
were bound again. -/
theorem onlyRebound_of_id_eq {keys before between after : List Key} {v w : SymVar}
    (hv : v ∈ (Constants.ofKeys keys).vars) (hw : w ∈ (Constants.ofKeys keys).vars)
    (hkeys : keys = before ++ v.key :: (between ++ w.key :: after))
    (hfirst : v.key ∉ between ++ w.key :: after) (hsecond : w.key ∉ after) (hid : v.id = w.id) :
    OnlyRebound keys v.key w.key := by
  have hkeys' : keys = (before ++ v.key :: between) ++ w.key :: after := by simpa using hkeys
  rw [Constants.id_eq_of_mem_ofKeys hv hkeys hfirst,
    Constants.id_eq_of_mem_ofKeys hw hkeys' hsecond] at hid
  exact ⟨before, between, after, hkeys, hfirst, hsecond,
    (length_distinct_append_eq_iff before (v.key :: between)).1 hid.symm⟩

namespace Constants

/-- Two constants of the table have the same number exactly when only keys were bound again from the
one to the other. -/
theorem id_eq_iff {keys : List Key} {v w : SymVar} (hv : v ∈ (ofKeys keys).vars)
    (hw : w ∈ (ofKeys keys).vars) (hne : v.key ≠ w.key) :
    v.id = w.id ↔ OnlyRebound keys v.key w.key ∨ OnlyRebound keys w.key v.key := by
  constructor
  · intro hid
    obtain ⟨-, before, after, hkeys, hafter, -⟩ := (mem_ofKeys_iff keys v).1 hv
    obtain ⟨-, before', after', hkeys', hafter', -⟩ := (mem_ofKeys_iff keys w).1 hw
    -- One of the two was bound last behind the other.
    rcases List.append_eq_append_iff.1 (hkeys.symm.trans hkeys') with
      ⟨middle, hbefore, hmiddle⟩ | ⟨middle, hbefore, hmiddle⟩
    · cases middle with
      | nil => exact absurd (List.cons.inj hmiddle).1 hne
      | cons k between =>
        obtain ⟨rfl, rfl⟩ := List.cons.inj hmiddle
        exact .inl (onlyRebound_of_id_eq hv hw hkeys hafter hafter' hid)
    · cases middle with
      | nil => exact absurd (List.cons.inj hmiddle).1.symm hne
      | cons k between =>
        obtain ⟨rfl, rfl⟩ := List.cons.inj hmiddle
        exact .inr (onlyRebound_of_id_eq hw hv hkeys' hafter' hafter hid.symm)
  · rintro (h | h)
    · exact h.id_eq hv hw
    · exact (h.id_eq hw hv).symm

/-- Different constants of the table share a symbol exactly when they are conflated. -/
theorem symbol_eq_iff_conflated {keys : List Key} {v w : SymVar} (hv : v ∈ (ofKeys keys).vars)
    (hw : w ∈ (ofKeys keys).vars) (hne : v ≠ w) : v.symbol = w.symbol ↔ Conflated keys v w := by
  have hkey : v.key ≠ w.key :=
    fun h => hne (List.inj_on_of_nodup_map (ofKeys keys).nodup_keys hv hw h)
  have hv' := ((mem_ofKeys_iff keys v).1 hv).1
  have hw' := ((mem_ofKeys_iff keys w).1 hw).1
  rw [SymVar.symbol_eq_iff, id_eq_iff hv hw hkey, hv', hw', Conflated]
  simp [and_comm]

end Constants

end CoreProver
