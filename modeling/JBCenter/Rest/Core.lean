import Mathlib.Algebra.GroupWithZero.Nat
import JBCenter.Base.Fallible

/-! What every REST store shares: its errors, its actors, and the shapes its checks
read off strings and numbers. Numbers are integers, since every checked number must be a
safe integer; strings are compared character by character, as JavaScript compares them. -/
namespace JBCenter.Rest

/-- A structured detail of an error: the step it names, or the text a provider sent. -/
inductive ErrorDetails where
  | stepIndex (index : Int)
  | text (value : String)
  deriving DecidableEq

structure RestError where
  status : Nat
  code : String
  message : String
  details : Option ErrorDetails := none
  deriving DecidableEq

structure RestActor where
  accountId : String
  principalId : String
  deriving DecidableEq

/-- A JSON value that the stores copy and compare but never read, as its canonical text. -/
abbrev Payload := String

def maxSafeInteger : Int := 9007199254740991

/-- What `Number.isSafeInteger` accepts. -/
def isSafeInteger (value : Int) : Bool := -maxSafeInteger ≤ value && value ≤ maxSafeInteger

/-- As `toLowerCase`, which the code applies to hexadecimal text only. -/
def toLowerCase (text : String) : String := String.ofList (text.toList.map Char.toLower)

/-- A character in a range of a regular expression, by code point. -/
def inRange (first last c : Char) : Bool := first.toNat ≤ c.toNat && c.toNat ≤ last.toNat

def isDigit (c : Char) : Bool := inRange '0' '9' c

def isHexDigit (c : Char) : Bool := isDigit c || inRange 'a' 'f' c || inRange 'A' 'F' c

/-- Matches `/^0x[0-9a-fA-F]{n}$/`. -/
def isHex (digits : Nat) (text : String) : Bool :=
  match text.toList with
  | '0' :: 'x' :: rest => rest.length == digits && rest.all isHexDigit
  | _ => false

theorem isHex_ofList (digits : Nat) (rest : List Char) :
    isHex digits (String.ofList ('0' :: 'x' :: rest)) = (rest.length == digits && rest.all isHexDigit) := by
  rw [isHex, String.toList_ofList]
  rfl

theorem isHex_replicate (digits : Nat) {digit : Char} (hexadecimal : isHexDigit digit = true) :
    isHex digits (String.ofList ('0' :: 'x' :: List.replicate digits digit)) = true := by
  rw [isHex_ofList, List.length_replicate, BEq.rfl, Bool.true_and, List.all_eq_true]
  intro c member
  rw [List.eq_of_mem_replicate member, hexadecimal]

/-- Matches `/^0x[0-9a-f]{n}$/`. -/
def isLowerHex (digits : Nat) (text : String) : Bool :=
  isHex digits text && text.toList.all (fun c => !inRange 'A' 'F' c)

/-- Matches `/^0x(?:[0-9a-fA-F]{2})+$/`. -/
def isHexBytes (text : String) : Bool :=
  match text.toList with
  | '0' :: 'x' :: rest => !rest.isEmpty && rest.length % 2 == 0 && rest.all isHexDigit
  | _ => false

/-- The `BigInt` of a string of decimal digits. -/
def decimalValue (text : String) : Nat :=
  text.toList.foldl (fun value c => 10 * value + (c.toNat - '0'.toNat)) 0

/-- Matches `/^(?:0|[1-9][0-9]{0,77})$/`, and the number below 2^256. -/
def isUint256 (text : String) : Bool :=
  (match text.toList with
  | ['0'] => true
  | first :: rest => isDigit first && first != '0' && rest.length ≤ 77 && rest.all isDigit
  | [] => false) && decimalValue text < 2 ^ 256

/-- Matches `/^[\x21-\x7e]{1,128}$/`. -/
def isIdempotencyKey (text : String) : Bool :=
  1 ≤ text.length && text.length ≤ 128 && text.toList.all (fun c => 0x21 ≤ c.toNat && c.toNat ≤ 0x7e)

/-- The `length` of a JavaScript string, in UTF-16 units. -/
def utf16Length (text : String) : Nat :=
  (text.toList.map (fun c => if 0x10000 ≤ c.toNat then 2 else 1)).sum

/-- Matches `/[\u0000-\u001f\u007f]/`. -/
def isControl (c : Char) : Bool := c.toNat ≤ 0x1f || c.toNat == 0x7f

/-- What each place of a canonical UUID may hold, as in
`/^[0-9a-f]{8}-[0-9a-f]{4}-[1-5][0-9a-f]{3}-[89ab][0-9a-f]{3}-[0-9a-f]{12}$/`. -/
def uuidShape : List (Char → Bool) :=
  let digit := fun c => isDigit c || inRange 'a' 'f' c
  let dash := fun c => c == '-'
  List.replicate 8 digit ++ [dash] ++ List.replicate 4 digit ++ [dash, inRange '1' '5'] ++
    List.replicate 3 digit ++ [dash, fun c => c == '8' || c == '9' || c == 'a' || c == 'b'] ++
    List.replicate 3 digit ++ [dash] ++ List.replicate 12 digit

def matchesShape : List (Char → Bool) → List Char → Bool
  | [], [] => true
  | accepts :: shape, c :: rest => accepts c && matchesShape shape rest
  | _, _ => false

def isUuid (value : String) : Bool := matchesShape uuidShape value.toList

/-- The parts of a text between the occurrences of a separator. -/
def splitParts (separator : Char) : List Char → List (List Char)
  | [] => [[]]
  | c :: rest =>
    if c = separator then [] :: splitParts separator rest
    else match splitParts separator rest with
      | [] => [[c]]
      | part :: parts => (c :: part) :: parts

def split (text : String) (separator : Char) : List String := (splitParts separator text.toList).map String.ofList

def isAlphanumeric (c : Char) : Bool := isDigit c || inRange 'a' 'z' c || inRange 'A' 'Z' c

end JBCenter.Rest
