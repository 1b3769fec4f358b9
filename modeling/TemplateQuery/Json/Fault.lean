import TemplateQuery.Decimal
import TemplateQuery.Text.Quoted

namespace TemplateQuery.Json

inductive Found where
  | null
  | bool (b : Bool)
  | integer (i : Int)
  | float (x : Float)
  | string (s : String)
  | array
  | object

def Found.message : Found → String
  | .null => "null"
  | .bool b => "boolean `" ++ (if b then "true" else "false") ++ "`"
  | .integer i => "integer `" ++ toString i ++ "`"
  | .float x => "floating point `" ++ Decimal.compactText x ++ "`"
  | .string s => "string " ++ Text.quoted s
  | .array => "sequence"
  | .object => "map"

inductive Expected where
  | record (name : String)
  | union (name : String)
  | bareVariant (owner variant : String)
  | variantName
  | nothing
  | array
  | string
  | bool
  | index
  | time
  | number
  | stringOrObject
  | singleMember
  | recordItems (name : String) (count : Nat)
  | items (count : Nat)
  | variantIndex (count : Nat)

def Expected.message : Expected → String
  | .record name => "struct " ++ name
  | .union name => "adjacently tagged enum " ++ name
  | .bareVariant owner variant => "unit variant " ++ owner ++ "::" ++ variant
  | .variantName => "variant identifier"
  | .nothing => "unit"
  | .array => "a sequence"
  | .string => "a string"
  | .bool => "a boolean"
  | .index => "usize"
  | .time => "i64"
  | .number => "f64"
  | .stringOrObject => "string or map"
  | .singleMember => "map with a single key"
  | .recordItems name count => "struct " ++ name ++ " with " ++ toString count ++ " elements"
  | .items 1 => "1 element in sequence"
  | .items count => toString count ++ " elements in sequence"
  | .variantIndex count => "variant index 0 <= i < " ++ toString count

inductive Mismatch where
  | wrongType (found : Found) (expected : Expected)
  | wrongValue (found : Found) (expected : Expected)
  | wrongLength (length : Nat) (expected : Expected)
  | missingField (name : String)
  | duplicateField (name : String)
  | unknownVariant (name : String) (known : List String)

def ticked (s : String) : String :=
  "`" ++ s ++ "`"

def oneOf : List String → String
  | [] => "nothing"
  | [a] => ticked a
  | [a, b] => ticked a ++ " or " ++ ticked b
  | names => "one of " ++ ", ".intercalate (names.map ticked)

def Mismatch.message : Mismatch → String
  | .wrongType found expected =>
    "invalid type: " ++ found.message ++ ", expected " ++ expected.message
  | .wrongValue found expected =>
    "invalid value: " ++ found.message ++ ", expected " ++ expected.message
  | .wrongLength length expected =>
    "invalid length " ++ toString length ++ ", expected " ++ expected.message
  | .missingField name => "missing field " ++ ticked name
  | .duplicateField name => "duplicate field " ++ ticked name
  | .unknownVariant name known => "unknown variant " ++ ticked name ++ ", expected " ++ oneOf known

inductive Cause where
  | valueEnds
  | stringEnds
  | arrayEnds
  | objectEnds
  | notValue
  | notWord
  | notColon
  | notArrayEnd
  | notObjectEnd
  | notKey
  | trailingComma
  | trailingCharacters
  | badNumber
  | numberTooLarge
  | badEscape
  | cutSurrogate
  | loneSurrogate
  | controlCharacter
  | tooDeep
  | mismatch (m : Mismatch)

def Cause.message : Cause → String
  | .valueEnds => "EOF while parsing a value"
  | .stringEnds => "EOF while parsing a string"
  | .arrayEnds => "EOF while parsing a list"
  | .objectEnds => "EOF while parsing an object"
  | .notValue => "expected value"
  | .notWord => "expected ident"
  | .notColon => "expected `:`"
  | .notArrayEnd => "expected `,` or `]`"
  | .notObjectEnd => "expected `,` or `\x7d`"
  | .notKey => "key must be a string"
  | .trailingComma => "trailing comma"
  | .trailingCharacters => "trailing characters"
  | .badNumber => "invalid number"
  | .numberTooLarge => "number out of range"
  | .badEscape => "invalid escape"
  | .cutSurrogate => "unexpected end of hex escape"
  | .loneSurrogate => "lone leading surrogate in hex escape"
  | .controlCharacter => "control character (\\u0000-\\u001F) found while parsing a string"
  | .tooDeep => "recursion limit exceeded"
  | .mismatch m => m.message

structure Fault where
  cause : Cause
  left : Nat

end TemplateQuery.Json
