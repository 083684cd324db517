import Stencil.Assoc
import Stencil.Pipe.Collection
import Stencil.Pipe.Numeric
import Stencil.Pipe.Temporal
import Stencil.Pipe.Textual

/-!
The pipes that a template may name: a closed set of standard ones, and extensions, none of which takes the name of a
standard pipe. Absence flows past standard pipes and past extensions unless these are to see it.
-/

namespace Stencil

inductive StandardPipe where
  | size
  | first
  | last
  | reversed
  | slice
  | take
  | takeLast
  | filter
  | map
  | maxNum
deriving DecidableEq

namespace StandardPipe

def all : List StandardPipe := [.size, .first, .last, .reversed, .slice, .take, .takeLast, .filter, .map, .maxNum]

def name : StandardPipe → String
  | .size => "size"
  | .first => "first"
  | .last => "last"
  | .reversed => "reversed"
  | .slice => "slice"
  | .take => "take"
  | .takeLast => "takeLast"
  | .filter => "filter"
  | .map => "map"
  | .maxNum => "maxNum"

def ofName? (name : String) : Option StandardPipe := all.find? fun p => p.name = name

theorem ofName_eq_some_iff {p : StandardPipe} {name : String} : ofName? name = some p ↔ p.name = name := by
  constructor
  · intro h
    simpa using List.find?_some h
  · rintro rfl
    cases p <;> rfl

def body : StandardPipe → Pipe
  | .size => Pipe.size
  | .first => Pipe.first
  | .last => Pipe.last
  | .reversed => Pipe.reversed
  | .slice => Pipe.slice
  | .take => Pipe.take
  | .takeLast => Pipe.takeLast
  | .filter => Pipe.filter
  | .map => Pipe.map
  | .maxNum => Pipe.maxNum

def run (p : StandardPipe) : Pipe := p.body.passingAbsence

end StandardPipe

structure PipeSet where
  ns : String
  pipes : List (String × Pipe)

def PipeSet.qualified (s : PipeSet) : List (String × Pipe) :=
  (Assoc.ofList s.pipes).map fun (name, p) => (s.ns ++ "." ++ name, p)

structure Registry where
  extensions : List (String × Pipe)

namespace Registry

def empty : Registry := ⟨[]⟩

/-- Refuses the name of a standard pipe. -/
def ofExtensions (entries : List (String × Pipe)) : Result Registry :=
  match entries.find? fun e => (StandardPipe.ofName? e.1).isSome with
  | some (name, _) => .error (.refused (.reservedPipe name))
  | none => .ok ⟨Assoc.ofList entries⟩

def withPipe (r : Registry) (name : String) (p : Pipe) (passesAbsence : Bool) : Result Registry :=
  ofExtensions (Assoc.put name (if passesAbsence then p.passingAbsence else p) r.extensions)

/-- A qualified name has a dot and is no standard pipe's. -/
def withSet (r : Registry) (s : PipeSet) : Registry :=
  ⟨s.qualified.foldl (fun known (name, p) => Assoc.put name p.passingAbsence known) r.extensions⟩

def find? (r : Registry) (name : String) : Option Pipe :=
  match StandardPipe.ofName? name with
  | some p => some p.run
  | none => r.extensions.lookup name

def has (r : Registry) (name : String) : Bool := (r.find? name).isSome

def apply (r : Registry) (name : String) (args : List Value) (v : Value) : Result Value :=
  match r.find? name with
  | some p => p args v
  | none => .error (.unknownPipe name)

def names (r : Registry) : List String := r.extensions.map Prod.fst

def describe (r : Registry) : String :=
  "PipeRegistry(" ++ toString StandardPipe.all.length ++ " default, " ++ toString r.extensions.length ++
    " extension pipes)"

def numberPipes : PipeSet :=
  ⟨"number", [("toNumber", Pipe.toNumber), ("round", Pipe.round), ("sum", Pipe.sum), ("minNum", Pipe.minNum),
    ("currency", Pipe.currency)]⟩

def textPipes : PipeSet :=
  ⟨"string", [("upperCase", Pipe.upperCase), ("lowerCase", Pipe.lowerCase), ("capitalize", Pipe.capitalize),
    ("trim", Pipe.trim), ("split", Pipe.split), ("join", Pipe.join), ("prepend", Pipe.prepend),
    ("append", Pipe.append)]⟩

def datePipes (now : Calendar.Moment) : PipeSet :=
  ⟨"date", [("formatDate", Pipe.formatDate now.date), ("daysAfter", Pipe.daysAfter now),
    ("daysFromNow", Pipe.daysFromNow now)]⟩

def standardAt (now : Calendar.Moment) : Registry :=
  ((empty.withSet numberPipes).withSet textPipes).withSet (datePipes now)

def standard (today : Calendar.Date) : Registry := standardAt (.midnight today)

end Registry

end Stencil
