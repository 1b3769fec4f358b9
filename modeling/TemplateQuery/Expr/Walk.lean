import TemplateQuery.Expr.Basic
import TemplateQuery.OrderedSet

namespace TemplateQuery.Expr

def children : Expr → List Expr
  | .emptyExpr _ => []
  | .implicitReceiver _ => []
  | .thisReceiver _ => []
  | .chain _ es => es
  | .conditional _ c t f => [c, t, f]
  | .propertyRead _ _ r _ => [r]
  | .safePropertyRead _ _ r _ => [r]
  | .keyedRead _ r k => [r, k]
  | .safeKeyedRead _ r k => [r, k]
  | .bindingPipe _ e _ args => e :: args
  | .literalPrimitive _ _ => []
  | .literalArray _ es => es
  | .literalMap _ _ values => values
  | .interpolation _ _ es => es
  | .binary _ _ l r => [l, r]
  | .prefixNot _ e => [e]
  | .unary _ _ e => [e]
  | .typeofExpression _ e => [e]
  | .nonNullAssert _ e => [e]
  | .call _ r args _ _ => args ++ [r]
  | .safeCall _ r args _ _ => args ++ [r]
  | .propertyWrite _ r _ v => [r, v]
  | .keyedWrite _ r k v => [r, k, v]
  | .parenthesized _ e => [e]
  | .templateLiteral _ _ es => es

mutual

def walk : Expr → List Expr
  | e@(.emptyExpr _) => [e]
  | e@(.implicitReceiver _) => [e]
  | e@(.thisReceiver _) => [e]
  | e@(.chain _ es) => e :: walkAll es
  | e@(.conditional _ c t f) => e :: (walk c ++ walk t ++ walk f)
  | e@(.propertyRead _ _ r _) => e :: walk r
  | e@(.safePropertyRead _ _ r _) => e :: walk r
  | e@(.keyedRead _ r k) => e :: (walk r ++ walk k)
  | e@(.safeKeyedRead _ r k) => e :: (walk r ++ walk k)
  | e@(.bindingPipe _ x _ args) => e :: (walk x ++ walkAll args)
  | e@(.literalPrimitive _ _) => [e]
  | e@(.literalArray _ es) => e :: walkAll es
  | e@(.literalMap _ _ values) => e :: walkAll values
  | e@(.interpolation _ _ es) => e :: walkAll es
  | e@(.binary _ _ l r) => e :: (walk l ++ walk r)
  | e@(.prefixNot _ x) => e :: walk x
  | e@(.unary _ _ x) => e :: walk x
  | e@(.typeofExpression _ x) => e :: walk x
  | e@(.nonNullAssert _ x) => e :: walk x
  | e@(.call _ r args _ _) => e :: (walkAll args ++ walk r)
  | e@(.safeCall _ r args _ _) => e :: (walkAll args ++ walk r)
  | e@(.propertyWrite _ r _ v) => e :: (walk r ++ walk v)
  | e@(.keyedWrite _ r k v) => e :: (walk r ++ walk k ++ walk v)
  | e@(.parenthesized _ x) => e :: walk x
  | e@(.templateLiteral _ _ es) => e :: walkAll es

def walkAll : List Expr → List Expr
  | [] => []
  | e :: rest => walk e ++ walkAll rest

end

theorem walkAll_eq_flatMap (es : List Expr) : walkAll es = es.flatMap walk := by
  induction es with
  | nil => simp [walkAll]
  | cons e rest ih => simp [walkAll, ih]

theorem walk_eq (e : Expr) : walk e = e :: e.children.flatMap walk := by
  cases e <;> simp [walk, children, walkAll_eq_flatMap]

def componentName? : Expr → Option String
  | .propertyRead _ _ r name => if r.isComponentReceiver then some name else none
  | _ => none

def dependencies (e : Expr) : OrderedSet String :=
  .ofList (e.walk.filterMap componentName?)

end TemplateQuery.Expr
