import TemplateQuery.Selector.Basic
import TemplateQuery.Selector.Token

namespace TemplateQuery

inductive SelectorError where
  | nestedNegation
  | severalInNegation
  | unescapedDollar (name : String)
  | unclosedNegation (text : String)
  | empty (text : String)
deriving DecidableEq

def SelectorError.message : SelectorError → String
  | .nestedNegation => "Nesting :not in a selector is not allowed"
  | .severalInNegation => "Multiple selectors in :not are not supported"
  | .unescapedDollar name =>
    "Error in attribute selector \"" ++ name
      ++ "\". Unescaped \"$\" is not supported. Please escape with \"\\$\"."
  | .unclosedNegation text => "Unclosed :not in selector \"" ++ text ++ "\""
  | .empty text => "Empty selector in \"" ++ text ++ "\""

namespace Selector

def unescapeAfter (backslash : Bool) : List Char → Option (List Char)
  | [] => some []
  | c :: rest =>
    if c = '\\' then unescapeAfter true rest
    else if c = '$' && !backslash then none
    else (unescapeAfter false rest).map (c :: ·)

def unescape? (name : List Char) : Option (List Char) :=
  unescapeAfter false name

structure Draft where
  finished : List Selector := []
  current : Selector := {}
  negation : Option Selector := none

namespace Draft

def add (d : Draft) (f : Selector → Selector) : Draft :=
  match d.negation with
  | some n => { d with negation := some (f n) }
  | none => { d with current := f d.current }

def closeNegation (d : Draft) : Draft :=
  match d.negation with
  | some n => { d with current := d.current.addNegation n, negation := none }
  | none => d

def endAlternative (text : String) (d : Draft) : Except SelectorError Draft :=
  if d.current.isEmpty then .error (.empty text)
  else .ok { finished := d.finished ++ [d.current.withWildcard] }

def step (text : String) (d : Draft) : Token → Except SelectorError Draft
  | .openNegation =>
    if d.negation.isSome then .error .nestedNegation else .ok { d with negation := some {} }
  | .tag name => .ok (d.add (·.setElement (String.ofList name)))
  | .className name => .ok (d.add (·.addClass (String.ofList name)))
  | .identifier name => .ok (d.add (·.addAttribute "id" (String.ofList name)))
  | .attribute name value =>
    match unescape? name with
    | some plain => .ok (d.add (·.addAttribute (String.ofList plain) (String.ofList value)))
    | none => .error (.unescapedDollar (String.ofList name))
  | .closeNegation => .ok d.closeNegation
  | .separator => if d.negation.isSome then .error .severalInNegation else d.endAlternative text

def finish (text : String) (d : Draft) : Except SelectorError (List Selector) :=
  if d.negation.isSome then .error (.unclosedNegation text)
  else (d.endAlternative text).map (·.finished)

def run (text : String) (d : Draft) : List Token → Except SelectorError Draft
  | [] => .ok d
  | t :: rest =>
    match d.step text t with
    | .ok d => run text d rest
    | .error e => .error e

end Draft

def parse (text : String) : Except SelectorError (List Selector) :=
  match Draft.run text {} (Token.scan text.toList) with
  | .ok d => d.finish text
  | .error e => .error e

end Selector

end TemplateQuery
