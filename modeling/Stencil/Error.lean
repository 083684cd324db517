import Stencil.Text.Quoted

namespace Stencil

inductive Malformation where
  | unterminated
  | missingKey
  | emptyNamespace
  | missingName
  | missingPipe
  | openArguments (pipe : String)
deriving DecidableEq

inductive DocumentFault where
  | byteOrderMark
  | value
  | propertyName
  | colon
  | comma
  | openString
  | controlCharacter
  | badEscape
  | badCodePoint
  | extraText
deriving DecidableEq

inductive ConfigKind where
  | keys
  | templateSet
deriving DecidableEq

inductive Refusal where
  | emptySeparator
  | notWhole (text : String)
  | tooManyDigits (count : Nat)
  | tooManyDigitsToWrite
  | zeroStep
  | offsetTooLarge
  | notAnObject (kind : ConfigKind) (name : String)
  | missingTemplates (name : String)
  | reservedPipe (name : String)
  /-- Raised by a function of the embedding program. -/
  | custom (message : String)
deriving DecidableEq

inductive Overflow where
  | wholeNumber
  | rounded
deriving DecidableEq

inductive Error where
  | malformed (cause : Malformation) (position : Nat) (template : String)
  | invalidQuery (expression : String)
  | unknownPipe (name : String)
  | cyclicDelegation (chain : List String)
  | notFound (kind : ConfigKind) (name : String)
  | refused (cause : Refusal)
  | overflow (cause : Overflow)
  | malformedDocument (fault : DocumentFault) (line column position : Nat)
  | wrongType
  | missingAttribute
  | missingEntry
  | outOfRange
  | notSupported
  | unknownReference
deriving DecidableEq

abbrev Result := Except Error

def Malformation.message : Malformation → String
  | .unterminated => "Unterminated expression"
  | .missingKey => "Missing key reference"
  | .emptyNamespace => "Empty key namespace"
  | .missingName => "Missing key name"
  | .missingPipe => "Missing pipe name"
  | .openArguments pipe => "Unterminated argument list for pipe '" ++ pipe ++ "'"

def DocumentFault.message : DocumentFault → String
  | .byteOrderMark => "Unexpected UTF-8 BOM (decode using utf-8-sig)"
  | .value => "Expecting value"
  | .propertyName => "Expecting property name enclosed in double quotes"
  | .colon => "Expecting ':' delimiter"
  | .comma => "Expecting ',' delimiter"
  | .openString => "Unterminated string starting at"
  | .controlCharacter => "Invalid control character at"
  | .badEscape => "Invalid \\escape"
  | .badCodePoint => "Invalid \\uXXXX escape"
  | .extraText => "Extra data"

def ConfigKind.title : ConfigKind → String
  | .keys => "Keys"
  | .templateSet => "Template set"

/-- A quoted text is cut after this many characters. -/
def shownLiteral : Nat := 200

def digitLimit : String := "Exceeds the limit (4300 digits) for integer string conversion"

def Refusal.message : Refusal → String
  | .emptySeparator => "empty separator"
  | .notWhole text =>
    "invalid literal for int() with base 10: " ++ String.ofList ((Text.quoted text.toList).take shownLiteral)
  | .tooManyDigits count =>
    digitLimit ++ ": value has " ++ toString count ++ " digits; use sys.set_int_max_str_digits() to increase the limit"
  | .tooManyDigitsToWrite => digitLimit ++ "; use sys.set_int_max_str_digits() to increase the limit"
  | .zeroStep => "slice step cannot be zero"
  | .offsetTooLarge =>
    "offset must be a timedelta strictly between -timedelta(hours=24) and timedelta(hours=24)."
  | .notAnObject kind name => kind.title ++ " config '" ++ name ++ "' must be a JSON object"
  | .missingTemplates name => "Template set '" ++ name ++ "' missing required 'templates' field"
  | .reservedPipe name => "Pipe '" ++ name ++ "' is a default pipe and cannot be replaced"
  | .custom message => message

def Overflow.message : Overflow → String
  | .wholeNumber => "int too large to convert to float"
  | .rounded => "rounded value too large to represent"

/-- The message that readers see; the last six causes have none. -/
def Error.message : Error → String
  | .malformed cause position template =>
    cause.message ++ " at position " ++ toString position ++ " in " ++ Text.quote template
  | .invalidQuery expression => "Invalid JSONPath " ++ Text.quote expression
  | .unknownPipe name => "Unknown pipe: " ++ name
  | .cyclicDelegation chain => "Cyclic key delegation: " ++ String.intercalate " -> " chain
  | .notFound kind name => kind.title ++ " config not found: " ++ name
  | .refused cause => cause.message
  | .overflow cause => cause.message
  | .malformedDocument fault line column position =>
    fault.message ++ ": line " ++ toString line ++ " column " ++ toString column ++
      " (char " ++ toString position ++ ")"
  | .wrongType => ""
  | .missingAttribute => ""
  | .missingEntry => ""
  | .outOfRange => ""
  | .notSupported => ""
  | .unknownReference => ""

end Stencil
