import CoreProver.Text.Blank
import CoreProver.Text.Search

/-!
# Solver engines

The engines that can be asked, and the selectors by which a request, a flag or the settings file
names them.
-/

namespace CoreProver

/-- A supported SMT solver. -/
inductive Engine where
  | z3
  | cvc4
  | cvc5
  | yices
  | boolector
  | bitwuzla
  | mathsat
  deriving Repr, DecidableEq, Inhabited

namespace Engine

/-- All engines, in the order in which they are listed everywhere. -/
def all : List Engine := [z3, cvc4, cvc5, yices, boolector, bitwuzla, mathsat]

theorem mem_all (e : Engine) : e ∈ all := by cases e <;> decide

def name : Engine → String
  | z3 => "z3"
  | cvc4 => "cvc4"
  | cvc5 => "cvc5"
  | yices => "yices"
  | boolector => "boolector"
  | bitwuzla => "bitwuzla"
  | mathsat => "mathsat"

theorem name_injective {a b : Engine} (h : a.name = b.name) : a = b := by
  revert h
  cases a <;> cases b <;> decide

/-- The program that runs an engine. -/
def executable : Engine → String
  | yices => "yices-smt2"
  | e => e.name

/-- The engine with exactly this name. -/
def named? (s : String) : Option Engine := all.find? (fun e => e.name == s)

/-- The engine that a user means, whatever the letter case and the blanks around the name. -/
def ofText? (s : String) : Option Engine :=
  named? (String.ofList (Text.lowerAscii (Text.trim s.toList)))

/-- The names of all engines, for messages. -/
def listing : String := ", ".intercalate (all.map name)

end Engine

/-- A text that names no engine. -/
structure UnknownEngine where
  text : String
  deriving Repr, DecidableEq

def UnknownEngine.message (e : UnknownEngine) : String :=
  "unknown solver `" ++ e.text ++ "` (expected one of: " ++ Engine.listing ++ ")"

def Engine.parse (s : String) : Except UnknownEngine Engine :=
  match Engine.ofText? s with
  | some e => .ok e
  | none => .error ⟨s⟩

/-- Which engines to ask about one binding. -/
inductive Selector where
  | engine (e : Engine)
  | allInstalled
  deriving Repr, DecidableEq

namespace Selector

def text : Selector → String
  | engine e => e.name
  | allInstalled => "all installed solvers"

/-- Read a selector: `any` and `all` ask every installed engine, other texts name one. -/
def parse (s : String) : Except UnknownEngine Selector :=
  let word := String.ofList (Text.lowerAscii (Text.trim s.toList))
  if word = "any" ∨ word = "all" then .ok .allInstalled else (Engine.parse s).map .engine

end Selector

end CoreProver
