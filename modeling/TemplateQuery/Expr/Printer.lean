import TemplateQuery.Decimal
import TemplateQuery.Expr.Basic

namespace TemplateQuery

def Literal.escape (s : List Char) : List Char :=
  s.flatMap fun c => if c = '\\' || c = '\x27' then ['\\', c] else [c]

def Literal.chars : Literal → List Char
  | .string s => '\x27' :: escape s.toList ++ ['\x27']
  | .number x => (Decimal.positionalText x).toList
  | .bool b => if b then ['t', 'r', 'u', 'e'] else ['f', 'a', 'l', 's', 'e']
  | .null => ['n', 'u', 'l', 'l']
  | .undefined => ['u', 'n', 'd', 'e', 'f', 'i', 'n', 'e', 'd']

def MapKey.chars (k : MapKey) : List Char :=
  if k.quoted then '"' :: k.key.toList ++ ['"'] else k.key.toList

namespace Expr

def memberChars (receiver : List Char) (name : String) : List Char :=
  if receiver.isEmpty then name.toList else receiver ++ '.' :: name.toList

def trailing (comma : Bool) : List Char :=
  if comma then [',', ' '] else []

mutual

def chars : Expr → List Char
  | .emptyExpr _ => []
  | .implicitReceiver _ => []
  | .thisReceiver _ => ['t', 'h', 'i', 's']
  | .chain _ es => separated [';', ' '] es
  | .conditional _ c t f => chars c ++ [' ', '?', ' '] ++ chars t ++ [' ', ':', ' '] ++ chars f
  | .propertyRead _ _ r name => memberChars (chars r) name
  | .safePropertyRead _ _ r name => chars r ++ '?' :: '.' :: name.toList
  | .keyedRead _ r k => chars r ++ '[' :: chars k ++ [']']
  | .safeKeyedRead _ r k => chars r ++ '?' :: '.' :: '[' :: chars k ++ [']']
  | .bindingPipe _ e name args => chars e ++ [' ', '|', ' '] ++ name.toList ++ pipeArgs args
  | .literalPrimitive _ v => v.chars
  | .literalArray _ es => '[' :: separated [',', ' '] es ++ [']']
  | .literalMap _ keys values => '\x7b' :: entries keys values ++ ['\x7d']
  | .interpolation _ strings es =>
    interleaved ['\x7b', '\x7b', ' '] [' ', '\x7d', '\x7d'] strings es
  | .binary _ op l r => chars l ++ ' ' :: op.toList ++ ' ' :: chars r
  | .prefixNot _ e => '!' :: chars e
  | .unary _ op e => op.toList ++ chars e
  | .typeofExpression _ e => ['t', 'y', 'p', 'e', 'o', 'f', ' '] ++ chars e
  | .nonNullAssert _ e => chars e ++ ['!']
  | .call _ r args _ comma => chars r ++ '(' :: separated [',', ' '] args ++ trailing comma ++ [')']
  | .safeCall _ r args _ comma =>
    chars r ++ '?' :: '.' :: '(' :: separated [',', ' '] args ++ trailing comma ++ [')']
  | .propertyWrite _ r name v => memberChars (chars r) name ++ [' ', '=', ' '] ++ chars v
  | .keyedWrite _ r k v => chars r ++ '[' :: chars k ++ [']', ' ', '=', ' '] ++ chars v
  | .parenthesized _ e => '(' :: chars e ++ [')']
  | .templateLiteral _ elements es =>
    Char.ofNat 0x60 :: interleaved ['$', '\x7b'] ['\x7d'] elements es ++ [Char.ofNat 0x60]

def separated (separator : List Char) : List Expr → List Char
  | [] => []
  | [e] => chars e
  | e :: f :: rest => chars e ++ separator ++ separated separator (f :: rest)

def pipeArgs : List Expr → List Char
  | [] => []
  | e :: rest => ':' :: chars e ++ pipeArgs rest

def entries : List MapKey → List Expr → List Char
  | [], _ => []
  | _, [] => []
  | [k], v :: _ => k.chars ++ ':' :: ' ' :: chars v
  | k :: _ :: _, [v] => k.chars ++ ':' :: ' ' :: chars v
  | k :: k' :: ks, v :: v' :: vs =>
    k.chars ++ ':' :: ' ' :: chars v ++ ',' :: ' ' :: entries (k' :: ks) (v' :: vs)

def interleaved (opening closing : List Char) : List String → List Expr → List Char
  | [], _ => []
  | s :: rest, [] => s.toList ++ interleaved opening closing rest []
  | s :: rest, e :: es =>
    s.toList ++ opening ++ chars e ++ closing ++ interleaved opening closing rest es

end

def member (start : Nat) (out accessor name : String) : String :=
  (if start < out.utf8ByteSize ∨ accessor ≠ "." then out ++ accessor else out) ++ name

mutual

def render (out : String) : Expr → String
  | .emptyExpr _ => out
  | .implicitReceiver _ => out
  | .thisReceiver _ => out ++ "this"
  | .chain _ es => renderAll out "; " true es
  | .conditional _ c t f => render (render (render out c ++ " ? ") t ++ " : ") f
  | .propertyRead _ _ r name => member out.utf8ByteSize (render out r) "." name
  | .safePropertyRead _ _ r name => member out.utf8ByteSize (render out r) "?." name
  | .keyedRead _ r k => render (render out r ++ "[") k ++ "]"
  | .safeKeyedRead _ r k => render (render out r ++ "?.[") k ++ "]"
  | .bindingPipe _ e name args => renderArgs (render out e ++ " | " ++ name) args
  | .literalPrimitive _ v => out ++ String.ofList v.chars
  | .literalArray _ es => renderAll (out ++ "[") ", " true es ++ "]"
  | .literalMap _ keys values => renderEntries (out ++ "\x7b") true keys values ++ "\x7d"
  | .interpolation _ strings es => renderInterleaved out "\x7b\x7b " " \x7d\x7d" strings es
  | .binary _ op l r => render (render out l ++ " " ++ op ++ " ") r
  | .prefixNot _ e => render (out ++ "!") e
  | .unary _ op e => render (out ++ op) e
  | .typeofExpression _ e => render (out ++ "typeof ") e
  | .nonNullAssert _ e => render out e ++ "!"
  | .call _ r args _ comma =>
    renderAll (render out r ++ "(") ", " true args ++ String.ofList (trailing comma) ++ ")"
  | .safeCall _ r args _ comma =>
    renderAll (render out r ++ "?.(") ", " true args ++ String.ofList (trailing comma) ++ ")"
  | .propertyWrite _ r name v => render (member out.utf8ByteSize (render out r) "." name ++ " = ") v
  | .keyedWrite _ r k v => render (render (render out r ++ "[") k ++ "] = ") v
  | .parenthesized _ e => render (out ++ "(") e ++ ")"
  | .templateLiteral _ elements es =>
    renderInterleaved (out ++ "\x60") "$\x7b" "\x7d" elements es ++ "\x60"

def renderAll (out separator : String) (first : Bool) : List Expr → String
  | [] => out
  | e :: rest => renderAll (render (if first then out else out ++ separator) e) separator false rest

def renderArgs (out : String) : List Expr → String
  | [] => out
  | e :: rest => renderArgs (render (out ++ ":") e) rest

def renderEntries (out : String) (first : Bool) : List MapKey → List Expr → String
  | k :: ks, v :: vs =>
    let start := if first then out else out ++ ", "
    renderEntries (render (start ++ String.ofList k.chars ++ ": ") v) false ks vs
  | _, _ => out

def renderInterleaved (out opening closing : String) : List String → List Expr → String
  | s :: rest, e :: es =>
    renderInterleaved (render (out ++ s ++ opening) e ++ closing) opening closing rest es
  | strings, [] => out ++ String.join strings
  | [], _ => out

end

def text (e : Expr) : String :=
  render "" e

end Expr

end TemplateQuery
