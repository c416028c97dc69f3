import TypedDocument.Document.Basic
import TypedDocument.Text.Quoted

/-!
# Offences against a schema

An error says at which field a document departs from its schema and how. The field is given by its dotted path, with
list elements addressed as `name[index]`; the document itself has the empty path.
-/

namespace TypedDocument

/-- What can be wrong with a value or a mapping. -/
inductive Offence where
  | nullNotAllowed
  | wrongType (expected : String) (actual : ValueType)
  | belowMinimum (value min : Number)
  | notANumber
  | aboveMaximum (value max : Number)
  | wrongLength (length expected : Nat)
  | tooShort (minLen : Nat)
  | tooLong (maxLen : Nat)
  | patternMismatch (value pattern : String)
  | tooFewElements (count minLen : Nat)
  | tooManyElements (count maxLen : Nat)
  | noMatchingElement
  | undefinedField
  | missingField
  | missingTypeKey (type : KeyType)

/-- An offence and the path of the field it concerns. -/
structure ValidationError where
  field : String
  offence : Offence

namespace ValidationError

/-- How messages name a field. -/
def label (field : String) : String := if field.isEmpty then "<document>" else field

/-- A message that starts with the name of a field. -/
def about (field text : String) : String := "field " ++ label field ++ ": " ++ text

def message (e : ValidationError) : String :=
  match e.offence with
  | .nullNotAllowed => about e.field "value cannot be null"
  | .wrongType expected actual =>
    about e.field ("value has wrong type " ++ actual.name ++ ", expected " ++ expected)
  | .belowMinimum value min => about e.field ("value " ++ value.text ++ " is smaller than " ++ min.text)
  | .notANumber => about e.field "NaN cannot be checked against bounds"
  | .aboveMaximum value max => about e.field ("value " ++ value.text ++ " is larger than " ++ max.text)
  | .wrongLength length expected =>
    about e.field ("value should have length " ++ toString expected ++ ", got " ++ toString length)
  | .tooShort n => about e.field ("value is shorter than min length " ++ toString n)
  | .tooLong n => about e.field ("value is longer than max length " ++ toString n)
  | .patternMismatch value pattern =>
    about e.field ("value " ++ Quoted.encode value ++ " does not match /" ++ pattern ++ "/")
  | .tooFewElements count n =>
    about e.field ("list has too few elements (" ++ toString count ++ " < " ++ toString n ++ ")")
  | .tooManyElements count n =>
    about e.field ("list has too many elements (" ++ toString count ++ " > " ++ toString n ++ ")")
  | .noMatchingElement => about e.field "value matches none of the listed fields"
  | .undefinedField => "field '" ++ e.field ++ "' not defined in schema"
  | .missingField => "field '" ++ e.field ++ "' is missing"
  | .missingTypeKey type => about e.field ("at least one key of type " ++ type.name ++ " is required")

end ValidationError

end TypedDocument
