import CoreProver.Lang.Location
import CoreProver.Value

/-!
# Scopes

A name may stand for several values, one for each kind. A scope is a stack of frames with the
current source location; looking up starts at the innermost frame.
-/

namespace CoreProver

/-- What values are bound under. -/
structure Key where
  name : String
  kind : Kind
  deriving Repr, DecidableEq

/-- Values by key; the first one under a key counts. -/
abbrev Frame (F : Type) := List (Key × Value F)

variable {F : Type}

namespace Frame

/-- Bind a value, whatever was bound under the key before. -/
def insert (f : Frame F) (key : Key) (value : Value F) : Frame F :=
  (key, value) :: f.filter (fun e => e.1 ≠ key)

def lookup? (f : Frame F) (key : Key) : Option (Value F) :=
  (f.find? fun e => e.1 = key).map Prod.snd

@[simp] theorem lookup?_insert_self (f : Frame F) (key : Key) (value : Value F) :
    (f.insert key value).lookup? key = some value := by
  simp [insert, lookup?]

theorem lookup?_insert_of_ne (f : Frame F) (key other : Key) (value : Value F) (h : other ≠ key) :
    (f.insert key value).lookup? other = f.lookup? other := by
  simp only [insert, lookup?]
  rw [List.find?_cons_of_neg (by simpa using fun e => h e.symm), List.find?_filter]
  congr 2
  funext e
  by_cases he : e.1 = other <;> simp [he, h]

end Frame

/-- Frames, innermost first, and the current location. -/
structure Scope (F : Type) where
  frames : List (Frame F)
  location : Option Location

namespace Scope

def root (globals : Frame F) : Scope F := ⟨[globals], none⟩

/-- An inner scope with one more value. -/
def extend (s : Scope F) (key : Key) (value : Value F) : Scope F :=
  { s with frames := [(key, value)] :: s.frames }

def extendAll (s : Scope F) (f : Frame F) : Scope F := { s with frames := f :: s.frames }

/-- The same values at another location. -/
def moveTo (s : Scope F) (location : Location) : Scope F := { s with location := some location }

/-- The value bound under a key in the innermost frame that has one. -/
def lookup? (s : Scope F) (key : Key) : Option (Value F) := s.frames.findSome? (Frame.lookup? · key)

@[simp] theorem location_extend (s : Scope F) (key : Key) (value : Value F) :
    (s.extend key value).location = s.location := rfl

@[simp] theorem location_extendAll (s : Scope F) (f : Frame F) :
    (s.extendAll f).location = s.location := rfl

@[simp] theorem location_moveTo (s : Scope F) (l : Location) : (s.moveTo l).location = some l := rfl

@[simp] theorem lookup?_moveTo (s : Scope F) (l : Location) (key : Key) :
    (s.moveTo l).lookup? key = s.lookup? key := rfl

@[simp] theorem lookup?_extend_self (s : Scope F) (key : Key) (value : Value F) :
    (s.extend key value).lookup? key = some value := by
  simp [extend, lookup?, Frame.lookup?]

theorem lookup?_extend_of_ne (s : Scope F) (key other : Key) (value : Value F) (h : other ≠ key) :
    (s.extend key value).lookup? other = s.lookup? other := by
  simp [extend, lookup?, Frame.lookup?, Ne.symm h]

end Scope

end CoreProver
