namespace TemplateQuery.Schema

inductive RecordKind where
  | document
  | diagnostic
  | span
  | location
  | comment
  | text
  | boundText
  | staticAttribute
  | inputBinding
  | outputBinding
  | element
  | embedded
  | content
  | variable
  | reference
  | blockSpans
  | ifBlock
  | ifBranch
  | forBlock
  | emptyBranch
  | switchBlock
  | switchCase
  | deferBlock
  | deferPlaceholder
  | deferLoading
  | deferError
  | letDeclaration
  | unknownBlock
  | sourcedExpr
  | extent
  | absoluteExtent
  | emptyExpr
  | implicitReceiver
  | thisReceiver
  | chain
  | conditional
  | propertyRead
  | safePropertyRead
  | keyedRead
  | safeKeyedRead
  | bindingPipe
  | literalPrimitive
  | literalArray
  | mapKey
  | literalMap
  | interpolation
  | binary
  | prefixNot
  | unary
  | typeofExpression
  | nonNullAssert
  | call
  | safeCall
  | propertyWrite
  | keyedWrite
  | parenthesized
  | templateLiteral
deriving DecidableEq

inductive UnionKind where
  | node
  | expr
  | templateAttribute
  | literal
deriving DecidableEq

inductive ChoiceKind where
  | bindingType
  | eventType
  | level
deriving DecidableEq

inductive Shape where
  | string
  | bool
  | index
  | time
  | number
  | list (item : Shape)
  | record (kind : RecordKind)
  | union (kind : UnionKind)
  | choice (kind : ChoiceKind)
deriving DecidableEq

inductive Presence where
  | required
  | optional
  | nullable
deriving DecidableEq

structure Field where
  name : String
  shape : Shape
  presence : Presence
deriving DecidableEq

structure Variant where
  name : String
  content : Option Shape
deriving DecidableEq

end TemplateQuery.Schema
