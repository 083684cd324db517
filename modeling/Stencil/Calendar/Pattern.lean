/-!
Date patterns: runs of letters that stand for the parts of a date. A pattern is cut into its parts from left to right,
the longest letter run first, and each part has a code letter of the date format.
-/

namespace Stencil.Calendar

inductive Part where
  | year
  | monthName
  | weekdayName
  | shortMonthName
  | shortWeekdayName
  | shortYear
  | month
  | day
  | hour
  | halfHour
  | minute
  | second
  | half
  | offset
  | zone
deriving DecidableEq

namespace Part

def letters : Part → List Char
  | .year => ['y', 'y', 'y', 'y']
  | .monthName => ['M', 'M', 'M', 'M']
  | .weekdayName => ['E', 'E', 'E', 'E']
  | .shortMonthName => ['M', 'M', 'M']
  | .shortWeekdayName => ['E', 'E', 'E']
  | .shortYear => ['y', 'y']
  | .month => ['M', 'M']
  | .day => ['d', 'd']
  | .hour => ['H', 'H']
  | .halfHour => ['h', 'h']
  | .minute => ['m', 'm']
  | .second => ['s', 's']
  | .half => ['a']
  | .offset => ['Z']
  | .zone => ['z']

def code : Part → Char
  | .year => 'Y'
  | .monthName => 'B'
  | .weekdayName => 'A'
  | .shortMonthName => 'b'
  | .shortWeekdayName => 'a'
  | .shortYear => 'y'
  | .month => 'm'
  | .day => 'd'
  | .hour => 'H'
  | .halfHour => 'I'
  | .minute => 'M'
  | .second => 'S'
  | .half => 'p'
  | .offset => 'z'
  | .zone => 'Z'

/-- No part comes after one with fewer letters. -/
def all : List Part :=
  [.year, .monthName, .weekdayName, .shortMonthName, .shortWeekdayName, .shortYear, .month, .day, .hour, .halfHour,
    .minute, .second, .half, .offset, .zone]

def leading? (cs : List Char) : Option Part := all.find? fun p => p.letters.isPrefixOf cs

end Part

inductive Piece where
  | part (p : Part)
  | plain (c : Char)
deriving DecidableEq

namespace Piece

def source : Piece → List Char
  | .part p => p.letters
  | .plain c => [c]

def format : Piece → List Char
  | .part p => ['%', p.code]
  | .plain c => [c]

end Piece

/-- The pieces of a pattern; a character that starts no part stands for itself. -/
def pieces : List Char → List Piece
  | [] => []
  | c :: cs =>
    match Part.leading? (c :: cs) with
    | some p => .part p :: pieces (cs.drop (p.letters.length - 1))
    | none => .plain c :: pieces cs
termination_by cs => cs.length
decreasing_by
  all_goals simp only [List.length_cons, List.length_drop]
  all_goals omega

def formatOfPattern (pattern : String) : String :=
  String.ofList ((pieces pattern.toList).flatMap Piece.format)

end Stencil.Calendar
