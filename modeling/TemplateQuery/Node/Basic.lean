import TemplateQuery.Node.Binding
import TemplateQuery.Text.Lower

namespace TemplateQuery

structure Comment where
  value : String := ""
  sourceSpan : Span := {}
deriving DecidableEq, Inhabited

structure StaticText where
  value : String := ""
  sourceSpan : Span := {}
deriving DecidableEq, Inhabited

structure BoundText where
  value : SourcedExpr := {}
  sourceSpan : Span := {}
deriving Inhabited

structure LetDeclaration where
  name : String := ""
  value : SourcedExpr := {}
  sourceSpan : Span := {}
  nameSpan : Span := {}
  valueSpan : Span := {}
deriving Inhabited

structure UnknownBlock where
  name : String := ""
  sourceSpan : Span := {}
  nameSpan : Span := {}
deriving DecidableEq, Inhabited

structure BlockSpans where
  nameSpan : Span := {}
  sourceSpan : Span := {}
  startSourceSpan : Span := {}
  endSourceSpan : Option Span := none
deriving DecidableEq, Inhabited

mutual

inductive Node where
  | comment (n : Comment)
  | text (n : StaticText)
  | boundText (n : BoundText)
  | element (n : Element)
  | embedded (n : Embedded)
  | content (n : ContentSlot)
  | ifBlock (n : IfBlock)
  | forBlock (n : ForBlock)
  | switchBlock (n : SwitchBlock)
  | deferBlock (n : DeferBlock)
  | letDeclaration (n : LetDeclaration)
  | unknownBlock (n : UnknownBlock)

structure Element where
  name : String := ""
  attributes : List StaticAttribute := []
  inputs : List InputBinding := []
  outputs : List OutputBinding := []
  children : List Node := []
  references : List Declaration := []
  isSelfClosing : Bool := false
  sourceSpan : Span := {}
  startSourceSpan : Span := {}
  endSourceSpan : Option Span := none

structure Embedded where
  tagName : Option String := none
  attributes : List StaticAttribute := []
  inputs : List InputBinding := []
  outputs : List OutputBinding := []
  templateAttributes : List TemplateAttribute := []
  children : List Node := []
  references : List Declaration := []
  variableDecls : List Declaration := []
  isSelfClosing : Bool := false
  sourceSpan : Span := {}
  startSourceSpan : Span := {}
  endSourceSpan : Option Span := none

structure ContentSlot where
  selector : String := ""
  attributes : List StaticAttribute := []
  children : List Node := []
  isSelfClosing : Bool := false
  sourceSpan : Span := {}
  startSourceSpan : Span := {}
  endSourceSpan : Option Span := none

structure IfBlock where
  branches : List IfBranch := []
  block : BlockSpans := {}

structure IfBranch where
  expression : Option SourcedExpr := none
  children : List Node := []
  expressionAlias : Option Declaration := none
  block : BlockSpans := {}

structure ForBlock where
  item : Declaration := {}
  expression : SourcedExpr := {}
  trackBy : Option SourcedExpr := none
  contextVariables : List Declaration := []
  children : List Node := []
  empty : Option EmptyBranch := none
  block : BlockSpans := {}
  mainBlockSpan : Span := {}

structure EmptyBranch where
  children : List Node := []
  block : BlockSpans := {}

structure SwitchBlock where
  expression : SourcedExpr := {}
  cases : List SwitchCase := []
  unknownBlocks : List UnknownBlock := []
  block : BlockSpans := {}

structure SwitchCase where
  expression : Option SourcedExpr := none
  children : List Node := []
  block : BlockSpans := {}

structure DeferBlock where
  children : List Node := []
  placeholder : Option DeferPlaceholder := none
  loading : Option DeferLoading := none
  error : Option DeferError := none
  block : BlockSpans := {}
  mainBlockSpan : Span := {}

structure DeferPlaceholder where
  children : List Node := []
  minimumTime : Option Int64 := none
  block : BlockSpans := {}

structure DeferLoading where
  children : List Node := []
  afterTime : Option Int64 := none
  minimumTime : Option Int64 := none
  block : BlockSpans := {}

structure DeferError where
  children : List Node := []
  block : BlockSpans := {}

end

instance : Inhabited Node := ⟨.comment {}⟩

instance : Inhabited Element := ⟨{}⟩

namespace Element

def attribute? (e : Element) (name : String) : Option String :=
  (e.attributes.find? fun a => Text.equalFoldAscii a.name name).map (·.value)

end Element

end TemplateQuery
