import TemplateQuery.Selector.Basic
import TemplateQuery.Selector.Token

namespace TemplateQuery.Selector

def escape (name : List Char) : List Char :=
  name.flatMap fun c => if c = '$' then ['\\', '$'] else [c]

def isPlain (value : List Char) : Bool :=
  !value.isEmpty && value.all isName

def startsWithQuote : List Char → Bool
  | [] => false
  | c :: _ => c == '"' || c == '\x27'

def quoteValue (value : List Char) : List Char :=
  if isPlain value then value
  else if value.contains '"' && value.contains '\x27' && !value.contains ']'
      && !startsWithQuote value then value
  else if value.contains '"' then '\x27' :: value ++ ['\x27']
  else '"' :: value ++ ['"']

def attributeText (a : String × String) : List Char :=
  let name := escape a.1.toList
  if a.2.isEmpty then '[' :: name ++ [']']
  else '[' :: name ++ '=' :: quoteValue a.2.toList ++ [']']

def positiveText (s : Selector) : List Char :=
  (s.element.getD "").toList ++ s.classNames.flatMap (fun c => '.' :: c.toList)
    ++ s.attributes.flatMap attributeText

mutual

def chars : Selector → List Char
  | ⟨e, cs, as, ns⟩ => positiveText ⟨e, cs, as, ns⟩ ++ negationChars ns

def negationChars : List Selector → List Char
  | [] => []
  | n :: rest => [':', 'n', 'o', 't', '('] ++ chars n ++ ')' :: negationChars rest

end

def text (s : Selector) : String :=
  String.ofList s.chars

def joinText (alternatives : List Selector) : String :=
  ", ".intercalate (alternatives.map text)

end TemplateQuery.Selector
