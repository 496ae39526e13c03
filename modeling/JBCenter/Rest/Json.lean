import JBCenter.Rest.Core

/-! Parsed JSON, as far as the checks of a request look into it. -/
namespace JBCenter.Rest

/-- A number of a parsed document. Of a number that is not an integer the checks read nothing more. -/
inductive Number where
  | integer (value : Int)
  | negativeZero
  | other
  deriving DecidableEq

/-- A parsed document; the keys of an object are distinct, as the parser leaves them. -/
inductive Json where
  | null
  | boolean (value : Bool)
  | number (value : Number)
  | text (value : String)
  | array (items : List Json)
  | object (fields : List (String × Json))

abbrev JsonFields := List (String × Json)

namespace Json

/-- What `Number.isSafeInteger` accepts, and its value: the negative zero is zero to every comparison. -/
def safeInteger : Json → Option Int
  | .number (.integer value) => if isSafeInteger value then some value else none
  | .number .negativeZero => some 0
  | _ => none

def text? : Json → Option String
  | .text value => some value
  | _ => none

def number? : Json → Option Number
  | .number value => some value
  | _ => none

end Json

def JsonFields.field (fields : JsonFields) (key : String) : Option Json := fields.lookup key

/-- `Object.keys(input).some((key) => ![…].includes(key))` -/
def JsonFields.unknownKey (fields : JsonFields) (allowed : List String) : Bool :=
  fields.any (fun entry => entry.1 ∉ allowed)

def JsonFields.text (fields : JsonFields) (key : String) : Option String := (fields.field key).bind Json.text?

def JsonFields.number (fields : JsonFields) (key : String) : Option Number := (fields.field key).bind Json.number?

end JBCenter.Rest
