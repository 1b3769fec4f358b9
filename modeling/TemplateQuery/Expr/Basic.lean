import TemplateQuery.Source.Diagnostic

namespace TemplateQuery

structure Extent where
  start : Nat := 0
  stop : Nat := 0
deriving DecidableEq, Inhabited

structure Place where
  span : Extent := {}
  sourceSpan : Extent := {}
deriving DecidableEq, Inhabited

inductive Literal where
  | string (s : String)
  | number (x : Float)
  | bool (b : Bool)
  | null
  | undefined
deriving DecidableEq, Inhabited

structure MapKey where
  key : String
  quoted : Bool := false
deriving DecidableEq, Inhabited

inductive Expr where
  | emptyExpr (place : Place)
  | implicitReceiver (place : Place)
  | thisReceiver (place : Place)
  | chain (place : Place) (expressions : List Expr)
  | conditional (place : Place) (condition trueExp falseExp : Expr)
  | propertyRead (place : Place) (nameSpan : Extent) (receiver : Expr) (name : String)
  | safePropertyRead (place : Place) (nameSpan : Extent) (receiver : Expr) (name : String)
  | keyedRead (place : Place) (receiver key : Expr)
  | safeKeyedRead (place : Place) (receiver key : Expr)
  | bindingPipe (place : Place) (exp : Expr) (name : String) (args : List Expr)
  | literalPrimitive (place : Place) (value : Literal)
  | literalArray (place : Place) (expressions : List Expr)
  | literalMap (place : Place) (keys : List MapKey) (values : List Expr)
  | interpolation (place : Place) (strings : List String) (expressions : List Expr)
  | binary (place : Place) (operation : String) (left right : Expr)
  | prefixNot (place : Place) (expression : Expr)
  | unary (place : Place) (operator : String) (expr : Expr)
  | typeofExpression (place : Place) (expression : Expr)
  | nonNullAssert (place : Place) (expression : Expr)
  | call (place : Place) (receiver : Expr) (args : List Expr) (argumentSpan : Extent)
    (trailingComma : Bool)
  | safeCall (place : Place) (receiver : Expr) (args : List Expr) (argumentSpan : Extent)
    (trailingComma : Bool)
  | propertyWrite (place : Place) (receiver : Expr) (name : String) (value : Expr)
  | keyedWrite (place : Place) (receiver key value : Expr)
  | parenthesized (place : Place) (expression : Expr)
  | templateLiteral (place : Place) (elements : List String) (expressions : List Expr)

namespace Expr

instance : Inhabited Expr := ⟨.emptyExpr {}⟩

def isComponentReceiver : Expr → Bool
  | .implicitReceiver _ => true
  | .thisReceiver _ => true
  | _ => false

def isLiteral : Expr → Bool
  | .literalPrimitive _ _ => true
  | _ => false

def kind : Expr → String
  | .emptyExpr .. => "EmptyExpr"
  | .implicitReceiver .. => "ImplicitReceiver"
  | .thisReceiver .. => "ThisReceiver"
  | .chain .. => "Chain"
  | .conditional .. => "Conditional"
  | .propertyRead .. => "PropertyRead"
  | .safePropertyRead .. => "SafePropertyRead"
  | .keyedRead .. => "KeyedRead"
  | .safeKeyedRead .. => "SafeKeyedRead"
  | .bindingPipe .. => "BindingPipe"
  | .literalPrimitive .. => "LiteralPrimitive"
  | .literalArray .. => "LiteralArray"
  | .literalMap .. => "LiteralMap"
  | .interpolation .. => "Interpolation"
  | .binary .. => "Binary"
  | .prefixNot .. => "PrefixNot"
  | .unary .. => "Unary"
  | .typeofExpression .. => "TypeofExpression"
  | .nonNullAssert .. => "NonNullAssert"
  | .call .. => "Call"
  | .safeCall .. => "SafeCall"
  | .propertyWrite .. => "PropertyWrite"
  | .keyedWrite .. => "KeyedWrite"
  | .parenthesized .. => "ParenthesizedExpression"
  | .templateLiteral .. => "TemplateLiteral"

def ofRead (receiver : Expr) (name : String) : Expr :=
  .propertyRead {} {} receiver name

def identifier (name : String) : Expr :=
  ofRead (.implicitReceiver {}) name

def ofSafeRead (receiver : Expr) (name : String) : Expr :=
  .safePropertyRead {} {} receiver name

def ofCall (receiver : Expr) (args : List Expr) : Expr :=
  .call {} receiver args {} false

end Expr

end TemplateQuery
