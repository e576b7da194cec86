import CoreProver.Scope

/-!
# Unknown constants

Bindings that are not interpreted stand for unknown constants in the bindings after them.
-/

namespace CoreProver

/-- The key under which a variable is bound. -/
def SymVar.key (v : SymVar) : Key := ⟨v.name, v.kind⟩

/-- The constants bound so far, the latest first. No two have the same name and kind. -/
structure Constants where
  vars : List SymVar
  nodup_keys : (vars.map SymVar.key).Nodup

namespace Constants

def empty : Constants := ⟨[], List.nodup_nil⟩

/-- Bind a constant, in place of one of the same name and kind. It takes the number of the
constants before it. Numbers have no bound, but they are smaller than the number of bindings so far
(`id_lt_of_mem_ofKeys`), so the first `2 ^ 32` of them stay within 32 bits. -/
def bind (c : Constants) (name : String) (kind : Kind) : Constants where
  vars := ⟨c.vars.length, name, kind, .constant⟩ :: c.vars.filter fun v => v.key ≠ ⟨name, kind⟩
  nodup_keys := by
    rw [List.map_cons, List.nodup_cons]
    refine ⟨?_, (List.filter_sublist.map _).nodup c.nodup_keys⟩
    intro h
    obtain ⟨v, hv, hkey⟩ := List.mem_map.1 h
    exact of_decide_eq_true (List.mem_filter.1 hv).2 hkey

/-- The constants as values. -/
def frame {F : Type} (c : Constants) : Frame F := c.vars.map fun v => (v.key, .scalar (.var v))

end Constants

end CoreProver
