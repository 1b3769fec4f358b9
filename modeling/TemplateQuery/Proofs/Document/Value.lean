import TemplateQuery.Proofs.Document.Nesting
import TemplateQuery.Proofs.Schema.Step

namespace TemplateQuery.Schema

open Json

namespace RecordKind

def Value : RecordKind → Type
  | .document => ParsedTemplate
  | .diagnostic => Diagnostic
  | .span => Span
  | .location => Location
  | .comment => Comment
  | .text => StaticText
  | .boundText => BoundText
  | .staticAttribute => StaticAttribute
  | .inputBinding => InputBinding
  | .outputBinding => OutputBinding
  | .element => Element
  | .embedded => Embedded
  | .content => ContentSlot
  | .variable => Declaration
  | .reference => Declaration
  | .blockSpans => BlockSpans
  | .ifBlock => IfBlock
  | .ifBranch => IfBranch
  | .forBlock => ForBlock
  | .emptyBranch => EmptyBranch
  | .switchBlock => SwitchBlock
  | .switchCase => SwitchCase
  | .deferBlock => DeferBlock
  | .deferPlaceholder => DeferPlaceholder
  | .deferLoading => DeferLoading
  | .deferError => DeferError
  | .letDeclaration => LetDeclaration
  | .unknownBlock => UnknownBlock
  | .sourcedExpr => SourcedExpr
  | .extent => Extent
  | .absoluteExtent => Extent
  | .mapKey => MapKey
  | _ => Expr

def decode : (k : RecordKind) → Json → Option k.Value
  | .document => ParsedTemplate.ofJson?
  | .diagnostic => Diagnostic.ofJson?
  | .span => Span.ofJson?
  | .location => Location.ofJson?
  | .comment => Comment.ofJson?
  | .text => StaticText.ofJson?
  | .boundText => BoundText.ofJson?
  | .staticAttribute => StaticAttribute.ofJson?
  | .inputBinding => InputBinding.ofJson?
  | .outputBinding => OutputBinding.ofJson?
  | .element => Element.read? Node.ofJson?
  | .embedded => Embedded.read? Node.ofJson?
  | .content => ContentSlot.read? Node.ofJson?
  | .variable => Declaration.ofJson?
  | .reference => Declaration.ofJson?
  | .blockSpans => BlockSpans.ofJson?
  | .ifBlock => IfBlock.read? Node.ofJson?
  | .ifBranch => IfBranch.read? Node.ofJson?
  | .forBlock => ForBlock.read? Node.ofJson?
  | .emptyBranch => EmptyBranch.read? Node.ofJson?
  | .switchBlock => SwitchBlock.read? Node.ofJson?
  | .switchCase => SwitchCase.read? Node.ofJson?
  | .deferBlock => DeferBlock.read? Node.ofJson?
  | .deferPlaceholder => DeferPlaceholder.read? Node.ofJson?
  | .deferLoading => DeferLoading.read? Node.ofJson?
  | .deferError => DeferError.read? Node.ofJson?
  | .letDeclaration => LetDeclaration.ofJson?
  | .unknownBlock => UnknownBlock.ofJson?
  | .sourcedExpr => SourcedExpr.ofJson?
  | .extent => Extent.ofJson?
  | .absoluteExtent => Extent.ofJson?
  | .mapKey => MapKey.ofJson?
  | k@.emptyExpr | k@.implicitReceiver | k@.thisReceiver | k@.chain | k@.conditional
  | k@.propertyRead | k@.safePropertyRead | k@.keyedRead | k@.safeKeyedRead | k@.bindingPipe
  | k@.literalPrimitive | k@.literalArray | k@.literalMap | k@.interpolation | k@.binary
  | k@.prefixNot | k@.unary | k@.typeofExpression | k@.nonNullAssert | k@.call | k@.safeCall
  | k@.propertyWrite | k@.keyedWrite | k@.parenthesized | k@.templateLiteral =>
    fun j => (k.read? j).bind (Expr.ofRecord? Expr.ofJson? k)

theorem read?_array {k : RecordKind} {items : List Json} (hl : items.length ≤ k.fields.length) :
    k.read? (.array items) = some ⟨k.fieldNames.zip items⟩ :=
  if_pos (by rwa [fieldNames, List.length_map])

def default? : (k : RecordKind) → Option k.Value
  | .span => some ({} : Span)
  | .variable => some ({} : Declaration)
  | .blockSpans => some ({} : BlockSpans)
  | .sourcedExpr => some ({} : SourcedExpr)
  | .extent => some ({} : Extent)
  | .absoluteExtent => some ({} : Extent)
  | _ => none

end RecordKind

namespace UnionKind

def Value : UnionKind → Type
  | .node => Node
  | .expr => Expr
  | .templateAttribute => TemplateAttribute
  | .literal => Literal

def decode : (k : UnionKind) → Json → Option k.Value
  | .node => Node.ofJson?
  | .expr => Expr.ofJson?
  | .templateAttribute => TemplateAttribute.ofJson?
  | .literal => Literal.ofJson?

end UnionKind

namespace ChoiceKind

def Value : ChoiceKind → Type
  | .bindingType => BindingType
  | .eventType => EventType
  | .level => Level

def decode : (k : ChoiceKind) → Json → Option k.Value
  | .bindingType => BindingType.ofJson?
  | .eventType => EventType.ofJson?
  | .level => Level.ofJson?

def default : (k : ChoiceKind) → k.Value
  | .bindingType => BindingType.property
  | .eventType => EventType.regular
  | .level => Level.error

end ChoiceKind

namespace Shape

def Value : Shape → Type
  | .string => String
  | .bool => Bool
  | .index => Nat
  | .time => Int64
  | .number => Float
  | .list item => List item.Value
  | .record k => k.Value
  | .union k => k.Value
  | .choice k => k.Value

def decode : (s : Shape) → Json → Option s.Value
  | .string => string?
  | .bool => bool?
  | .index => nat?
  | .time => int64?
  | .number => float?
  | .list item => list? item.decode
  | .record k => k.decode
  | .union k => k.decode
  | .choice k => k.decode

def default? : (s : Shape) → Option s.Value
  | .string => some ""
  | .bool => some false
  | .index => some (0 : Nat)
  | .list _ => some []
  | .record k => k.default?
  | .choice k => some k.default
  | .time => none
  | .number => none
  | .union _ => none

end Shape

namespace Field

def Value : Field → Type
  | ⟨_, s, .nullable⟩ => Option s.Value
  | ⟨_, s, _⟩ => s.Value

def decode : (f : Field) → Json → Option f.Value
  | ⟨_, s, .required⟩ => s.decode
  | ⟨_, s, .optional⟩ => s.decode
  | ⟨_, s, .nullable⟩ => nullable? s.decode

def absent? : (f : Field) → Option f.Value
  | ⟨_, _, .required⟩ => none
  | ⟨_, s, .optional⟩ => s.default?
  | ⟨_, _, .nullable⟩ => some none

def valueIn (f : Field) (r : Record) : Option f.Value :=
  match r.find? f.name with
  | none => f.absent?
  | some j => f.decode j

end Field

structure IsCongruence (R : ∀ {α : Type}, Option α → Option α → Prop) : Prop where
  some {α : Type} (a : α) : R (some a) (some a)
  bind {α β : Type} {x x' : Option α} {g g' : α → Option β} (hx : R x x')
    (hg : ∀ a, R (g a) (g' a)) : R (x >>= g) (x' >>= g')

theorem isCongruence_eq : IsCongruence fun {α : Type} (x x' : Option α) => x = x' where
  some _ := rfl
  bind hx hg := by rw [hx, funext hg]

theorem isCongruence_isSome : IsCongruence fun {α : Type} (x _ : Option α) => x.isSome where
  some _ := rfl
  bind hx hg := by
    obtain ⟨a, rfl⟩ := Option.isSome_iff_exists.1 hx
    exact hg a

theorem IsCongruence.map {R : ∀ {α : Type}, Option α → Option α → Prop} (hR : IsCongruence R)
    {α β : Type} {x x' : Option α} {f : α → β} (h : R x x') : R (x.map f) (x'.map f) := by
  rw [Option.map_eq_bind, Option.map_eq_bind]
  exact hR.bind h fun _ => hR.some _

section

variable {R : ∀ {α : Type}, Option α → Option α → Prop}

theorem required_congr {name : String} {s : Shape} {r r' : Record}
    (h : R ((required name s).valueIn r) ((required name s).valueIn r')) :
    R (r.required name s.decode) (r'.required name s.decode) := by
  have hv : ∀ r : Record, r.required name s.decode = (required name s).valueIn r := by
    intro r
    change (r.find? name).bind s.decode =
      match r.find? name with
      | none => none
      | some j => s.decode j
    cases r.find? name <;> rfl
  rwa [hv, hv]

theorem read_congr {α β : Type} {x x' : Option α} {a a' : α} {g : α → Option β} (hx : x = some a)
    (hx' : x' = some a') (hg : R (g a) (g a')) : R (x >>= g) (x' >>= g) := by
  rw [hx, hx']
  exact hg

variable (hR : IsCongruence R)
include hR

theorem place_congr {r r' : Record}
    (hspan : R ((optional "span" (.record .extent)).valueIn r)
      ((optional "span" (.record .extent)).valueIn r'))
    (hsource : R ((optional "source_span" (.record .absoluteExtent)).valueIn r)
      ((optional "source_span" (.record .absoluteExtent)).valueIn r')) :
    R (Place.ofRecord? r) (Place.ofRecord? r') :=
  hR.bind hspan fun _ => hR.bind hsource fun _ => hR.some _

namespace RecordKind

variable {j j' : Json} {r r' : Record}

theorem decode_related (k : RecordKind) (hr : k.read? j = some r) (hr' : k.read? j' = some r')
    (h : ∀ f ∈ k.fields, R (f.valueIn r) (f.valueIn r')) : R (k.decode j) (k.decode j') := by
  rw [← List.forall_iff_forall_mem] at h
  cases k with
  | document =>
    obtain ⟨hnodes, herrors⟩ := h
    exact read_congr hr hr' <| hR.bind hnodes fun _ => hR.bind herrors fun _ => hR.some _
  | diagnostic =>
    obtain ⟨hspan, hmsg, hlevel⟩ := h
    exact read_congr hr hr' <| hR.bind (required_congr hspan) fun _ =>
      hR.bind (required_congr hmsg) fun _ => hR.bind hlevel fun _ => hR.some _
  | span =>
    obtain ⟨hstart, hend, hdetails⟩ := h
    exact read_congr hr hr' <| hR.bind (required_congr hstart) fun _ =>
      hR.bind (required_congr hend) fun _ => hR.bind hdetails fun _ => hR.some _
  | location =>
    obtain ⟨hoffset, hline, hcol⟩ := h
    exact read_congr hr hr' <| hR.bind (required_congr hoffset) fun _ =>
      hR.bind (required_congr hline) fun _ => hR.bind (required_congr hcol) fun _ => hR.some _
  | comment =>
    obtain ⟨hvalue, hsourceSpan⟩ := h
    exact read_congr hr hr' <| hR.bind hvalue fun _ => hR.bind hsourceSpan fun _ => hR.some _
  | text =>
    obtain ⟨hvalue, hsourceSpan⟩ := h
    exact read_congr hr hr' <| hR.bind hvalue fun _ => hR.bind hsourceSpan fun _ => hR.some _
  | boundText =>
    obtain ⟨hvalue, hsourceSpan⟩ := h
    exact read_congr hr hr' <| hR.bind hvalue fun _ => hR.bind hsourceSpan fun _ => hR.some _
  | staticAttribute =>
    obtain ⟨hname, hvalue, hsourceSpan, hkeySpan, hvalueSpan⟩ := h
    exact read_congr hr hr' <| hR.bind hname fun _ => hR.bind hvalue fun _ =>
      hR.bind hsourceSpan fun _ => hR.bind hkeySpan fun _ => hR.bind hvalueSpan fun _ =>
      hR.some _
  | inputBinding =>
    obtain ⟨hname, hbindingType, hvalue, hunit, hsourceSpan, hkeySpan, hvalueSpan⟩ := h
    exact read_congr hr hr' <| hR.bind hname fun _ => hR.bind hbindingType fun _ =>
      hR.bind hvalue fun _ => hR.bind hunit fun _ => hR.bind hsourceSpan fun _ =>
      hR.bind hkeySpan fun _ => hR.bind hvalueSpan fun _ => hR.some _
  | outputBinding =>
    obtain ⟨hname, heventType, hhandler, htarget, hphase, hsourceSpan, hhandlerSpan, hkeySpan⟩ := h
    exact read_congr hr hr' <| hR.bind hname fun _ => hR.bind heventType fun _ =>
      hR.bind hhandler fun _ => hR.bind htarget fun _ => hR.bind hphase fun _ =>
      hR.bind hsourceSpan fun _ => hR.bind hhandlerSpan fun _ =>
      hR.bind hkeySpan fun _ => hR.some _
  | element =>
    obtain ⟨hname, hattributes, hinputs, houtputs, hchildren, hreferences, hisSelfClosing,
      hsourceSpan, hstartSourceSpan, hendSourceSpan⟩ := h
    exact read_congr hr hr' <| hR.bind hname fun _ => hR.bind hattributes fun _ =>
      hR.bind hinputs fun _ => hR.bind houtputs fun _ => hR.bind hchildren fun _ =>
      hR.bind hreferences fun _ => hR.bind hisSelfClosing fun _ =>
      hR.bind hsourceSpan fun _ => hR.bind hstartSourceSpan fun _ =>
      hR.bind hendSourceSpan fun _ => hR.some _
  | embedded =>
    obtain ⟨htagName, hattributes, hinputs, houtputs, htemplateAttrs, hchildren, hreferences,
      hvariables, hisSelfClosing, hsourceSpan, hstartSourceSpan, hendSourceSpan⟩ := h
    exact read_congr hr hr' <| hR.bind htagName fun _ => hR.bind hattributes fun _ =>
      hR.bind hinputs fun _ => hR.bind houtputs fun _ => hR.bind htemplateAttrs fun _ =>
      hR.bind hchildren fun _ => hR.bind hreferences fun _ =>
      hR.bind hvariables fun _ => hR.bind hisSelfClosing fun _ =>
      hR.bind hsourceSpan fun _ => hR.bind hstartSourceSpan fun _ =>
      hR.bind hendSourceSpan fun _ => hR.some _
  | content =>
    obtain ⟨hselector, hattributes, hchildren, hisSelfClosing, hsourceSpan, hstartSourceSpan,
      hendSourceSpan⟩ := h
    exact read_congr hr hr' <| hR.bind hselector fun _ => hR.bind hattributes fun _ =>
      hR.bind hchildren fun _ => hR.bind hisSelfClosing fun _ =>
      hR.bind hsourceSpan fun _ => hR.bind hstartSourceSpan fun _ =>
      hR.bind hendSourceSpan fun _ => hR.some _
  | «variable» =>
    obtain ⟨hname, hvalue, hsourceSpan, hkeySpan, hvalueSpan⟩ := h
    exact read_congr hr hr' <| hR.bind hname fun _ => hR.bind hvalue fun _ =>
      hR.bind hsourceSpan fun _ => hR.bind hkeySpan fun _ => hR.bind hvalueSpan fun _ =>
      hR.some _
  | reference =>
    obtain ⟨hname, hvalue, hsourceSpan, hkeySpan, hvalueSpan⟩ := h
    exact read_congr hr hr' <| hR.bind hname fun _ => hR.bind hvalue fun _ =>
      hR.bind hsourceSpan fun _ => hR.bind hkeySpan fun _ => hR.bind hvalueSpan fun _ =>
      hR.some _
  | blockSpans =>
    obtain ⟨hnameSpan, hsourceSpan, hstartSourceSpan, hendSourceSpan⟩ := h
    exact read_congr hr hr' <| hR.bind hnameSpan fun _ => hR.bind hsourceSpan fun _ =>
      hR.bind hstartSourceSpan fun _ => hR.bind hendSourceSpan fun _ => hR.some _
  | ifBlock =>
    obtain ⟨hbranches, hblock⟩ := h
    exact read_congr hr hr' <| hR.bind hbranches fun _ => hR.bind hblock fun _ => hR.some _
  | ifBranch =>
    obtain ⟨hexpression, hchildren, hexpressionAlias, hblock⟩ := h
    exact read_congr hr hr' <| hR.bind hexpression fun _ => hR.bind hchildren fun _ =>
      hR.bind hexpressionAlias fun _ => hR.bind hblock fun _ => hR.some _
  | forBlock =>
    obtain ⟨hitem, hexpression, htrackBy, hcontextVariables, hchildren, hempty, hblock,
      hmainBlockSpan⟩ := h
    exact read_congr hr hr' <| hR.bind hitem fun _ => hR.bind hexpression fun _ =>
      hR.bind htrackBy fun _ => hR.bind hcontextVariables fun _ =>
      hR.bind hchildren fun _ => hR.bind hempty fun _ => hR.bind hblock fun _ =>
      hR.bind hmainBlockSpan fun _ => hR.some _
  | emptyBranch =>
    obtain ⟨hchildren, hblock⟩ := h
    exact read_congr hr hr' <| hR.bind hchildren fun _ => hR.bind hblock fun _ => hR.some _
  | switchBlock =>
    obtain ⟨hexpression, hcases, hunknownBlocks, hblock⟩ := h
    exact read_congr hr hr' <| hR.bind hexpression fun _ => hR.bind hcases fun _ =>
      hR.bind hunknownBlocks fun _ => hR.bind hblock fun _ => hR.some _
  | switchCase =>
    obtain ⟨hexpression, hchildren, hblock⟩ := h
    exact read_congr hr hr' <| hR.bind hexpression fun _ => hR.bind hchildren fun _ =>
      hR.bind hblock fun _ => hR.some _
  | deferBlock =>
    obtain ⟨hchildren, hplaceholder, hloading, herror, hblock, hmainBlockSpan⟩ := h
    exact read_congr hr hr' <| hR.bind hchildren fun _ => hR.bind hplaceholder fun _ =>
      hR.bind hloading fun _ => hR.bind herror fun _ => hR.bind hblock fun _ =>
      hR.bind hmainBlockSpan fun _ => hR.some _
  | deferPlaceholder =>
    obtain ⟨hchildren, hminimumTime, hblock⟩ := h
    exact read_congr hr hr' <| hR.bind hchildren fun _ => hR.bind hminimumTime fun _ =>
      hR.bind hblock fun _ => hR.some _
  | deferLoading =>
    obtain ⟨hchildren, hafterTime, hminimumTime, hblock⟩ := h
    exact read_congr hr hr' <| hR.bind hchildren fun _ => hR.bind hafterTime fun _ =>
      hR.bind hminimumTime fun _ => hR.bind hblock fun _ => hR.some _
  | deferError =>
    obtain ⟨hchildren, hblock⟩ := h
    exact read_congr hr hr' <| hR.bind hchildren fun _ => hR.bind hblock fun _ => hR.some _
  | letDeclaration =>
    obtain ⟨hname, hvalue, hsourceSpan, hnameSpan, hvalueSpan⟩ := h
    exact read_congr hr hr' <| hR.bind hname fun _ => hR.bind hvalue fun _ =>
      hR.bind hsourceSpan fun _ => hR.bind hnameSpan fun _ =>
      hR.bind hvalueSpan fun _ => hR.some _
  | unknownBlock =>
    obtain ⟨hname, hsourceSpan, hnameSpan⟩ := h
    exact read_congr hr hr' <| hR.bind hname fun _ => hR.bind hsourceSpan fun _ =>
      hR.bind hnameSpan fun _ => hR.some _
  | sourcedExpr =>
    obtain ⟨hast, hsource, hlocation, habsoluteOffset, herrors⟩ := h
    exact read_congr hr hr' <| hR.bind (required_congr hast) fun _ =>
      hR.bind hsource fun _ => hR.bind hlocation fun _ =>
      hR.bind habsoluteOffset fun _ => hR.bind herrors fun _ => hR.some _
  | extent =>
    obtain ⟨hstart, hend⟩ := h
    exact read_congr hr hr' <| hR.bind (required_congr hstart) fun _ =>
      hR.bind (required_congr hend) fun _ => hR.some _
  | absoluteExtent =>
    obtain ⟨hstart, hend⟩ := h
    exact read_congr hr hr' <| hR.bind (required_congr hstart) fun _ =>
      hR.bind (required_congr hend) fun _ => hR.some _
  | emptyExpr =>
    obtain ⟨hspan, hsource⟩ := h
    exact read_congr hr hr' <| hR.bind (place_congr hR hspan hsource) fun _ => hR.some _
  | implicitReceiver =>
    obtain ⟨hspan, hsource⟩ := h
    exact read_congr hr hr' <| hR.bind (place_congr hR hspan hsource) fun _ => hR.some _
  | thisReceiver =>
    obtain ⟨hspan, hsource⟩ := h
    exact read_congr hr hr' <| hR.bind (place_congr hR hspan hsource) fun _ => hR.some _
  | chain =>
    obtain ⟨hspan, hsource, hexpressions⟩ := h
    exact read_congr hr hr' <| hR.bind (place_congr hR hspan hsource) fun _ =>
      hR.bind (required_congr hexpressions) fun _ => hR.some _
  | conditional =>
    obtain ⟨hspan, hsource, hcondition, htrueExp, hfalseExp⟩ := h
    exact read_congr hr hr' <| hR.bind (place_congr hR hspan hsource) fun _ =>
      hR.bind (required_congr hcondition) fun _ =>
      hR.bind (required_congr htrueExp) fun _ => hR.bind (required_congr hfalseExp) fun _ =>
      hR.some _
  | propertyRead =>
    obtain ⟨hspan, hsource, hnameSpan, hreceiver, hname⟩ := h
    exact read_congr hr hr' <| hR.bind (place_congr hR hspan hsource) fun _ =>
      hR.bind hnameSpan fun _ => hR.bind (required_congr hreceiver) fun _ =>
      hR.bind (required_congr hname) fun _ => hR.some _
  | safePropertyRead =>
    obtain ⟨hspan, hsource, hnameSpan, hreceiver, hname⟩ := h
    exact read_congr hr hr' <| hR.bind (place_congr hR hspan hsource) fun _ =>
      hR.bind hnameSpan fun _ => hR.bind (required_congr hreceiver) fun _ =>
      hR.bind (required_congr hname) fun _ => hR.some _
  | keyedRead =>
    obtain ⟨hspan, hsource, hreceiver, hkey⟩ := h
    exact read_congr hr hr' <| hR.bind (place_congr hR hspan hsource) fun _ =>
      hR.bind (required_congr hreceiver) fun _ => hR.bind (required_congr hkey) fun _ => hR.some _
  | safeKeyedRead =>
    obtain ⟨hspan, hsource, hreceiver, hkey⟩ := h
    exact read_congr hr hr' <| hR.bind (place_congr hR hspan hsource) fun _ =>
      hR.bind (required_congr hreceiver) fun _ => hR.bind (required_congr hkey) fun _ => hR.some _
  | bindingPipe =>
    obtain ⟨hspan, hsource, hexp, hname, hargs⟩ := h
    exact read_congr hr hr' <| hR.bind (place_congr hR hspan hsource) fun _ =>
      hR.bind (required_congr hexp) fun _ => hR.bind (required_congr hname) fun _ =>
      hR.bind hargs fun _ => hR.some _
  | literalPrimitive =>
    obtain ⟨hspan, hsource, hvalue⟩ := h
    exact read_congr hr hr' <| hR.bind (place_congr hR hspan hsource) fun _ =>
      hR.bind (required_congr hvalue) fun _ => hR.some _
  | literalArray =>
    obtain ⟨hspan, hsource, hexpressions⟩ := h
    exact read_congr hr hr' <| hR.bind (place_congr hR hspan hsource) fun _ =>
      hR.bind (required_congr hexpressions) fun _ => hR.some _
  | mapKey =>
    obtain ⟨hkey, hquoted⟩ := h
    exact read_congr hr hr' <| hR.bind (required_congr hkey) fun _ =>
      hR.bind hquoted fun _ => hR.some _
  | literalMap =>
    obtain ⟨hspan, hsource, hkeys, hvalues⟩ := h
    exact read_congr hr hr' <| hR.bind (place_congr hR hspan hsource) fun _ =>
      hR.bind (required_congr hkeys) fun _ => hR.bind (required_congr hvalues) fun _ => hR.some _
  | interpolation =>
    obtain ⟨hspan, hsource, hstrings, hexpressions⟩ := h
    exact read_congr hr hr' <| hR.bind (place_congr hR hspan hsource) fun _ =>
      hR.bind (required_congr hstrings) fun _ =>
      hR.bind (required_congr hexpressions) fun _ => hR.some _
  | binary =>
    obtain ⟨hspan, hsource, hoperation, hleft, hright⟩ := h
    exact read_congr hr hr' <| hR.bind (place_congr hR hspan hsource) fun _ =>
      hR.bind (required_congr hoperation) fun _ => hR.bind (required_congr hleft) fun _ =>
      hR.bind (required_congr hright) fun _ => hR.some _
  | prefixNot =>
    obtain ⟨hspan, hsource, hexpression⟩ := h
    exact read_congr hr hr' <| hR.bind (place_congr hR hspan hsource) fun _ =>
      hR.bind (required_congr hexpression) fun _ => hR.some _
  | unary =>
    obtain ⟨hspan, hsource, hoperator, hexpr⟩ := h
    exact read_congr hr hr' <| hR.bind (place_congr hR hspan hsource) fun _ =>
      hR.bind (required_congr hoperator) fun _ => hR.bind (required_congr hexpr) fun _ =>
      hR.some _
  | typeofExpression =>
    obtain ⟨hspan, hsource, hexpression⟩ := h
    exact read_congr hr hr' <| hR.bind (place_congr hR hspan hsource) fun _ =>
      hR.bind (required_congr hexpression) fun _ => hR.some _
  | nonNullAssert =>
    obtain ⟨hspan, hsource, hexpression⟩ := h
    exact read_congr hr hr' <| hR.bind (place_congr hR hspan hsource) fun _ =>
      hR.bind (required_congr hexpression) fun _ => hR.some _
  | call =>
    obtain ⟨hspan, hsource, hreceiver, hargs, hargumentSpan, hhasTrailingComma⟩ := h
    exact read_congr hr hr' <| hR.bind (place_congr hR hspan hsource) fun _ =>
      hR.bind (required_congr hreceiver) fun _ => hR.bind hargs fun _ =>
      hR.bind hargumentSpan fun _ => hR.bind hhasTrailingComma fun _ => hR.some _
  | safeCall =>
    obtain ⟨hspan, hsource, hreceiver, hargs, hargumentSpan, hhasTrailingComma⟩ := h
    exact read_congr hr hr' <| hR.bind (place_congr hR hspan hsource) fun _ =>
      hR.bind (required_congr hreceiver) fun _ => hR.bind hargs fun _ =>
      hR.bind hargumentSpan fun _ => hR.bind hhasTrailingComma fun _ => hR.some _
  | propertyWrite =>
    obtain ⟨hspan, hsource, hreceiver, hname, hvalue⟩ := h
    exact read_congr hr hr' <| hR.bind (place_congr hR hspan hsource) fun _ =>
      hR.bind (required_congr hreceiver) fun _ => hR.bind (required_congr hname) fun _ =>
      hR.bind (required_congr hvalue) fun _ => hR.some _
  | keyedWrite =>
    obtain ⟨hspan, hsource, hreceiver, hkey, hvalue⟩ := h
    exact read_congr hr hr' <| hR.bind (place_congr hR hspan hsource) fun _ =>
      hR.bind (required_congr hreceiver) fun _ => hR.bind (required_congr hkey) fun _ =>
      hR.bind (required_congr hvalue) fun _ => hR.some _
  | parenthesized =>
    obtain ⟨hspan, hsource, hexpression⟩ := h
    exact read_congr hr hr' <| hR.bind (place_congr hR hspan hsource) fun _ =>
      hR.bind (required_congr hexpression) fun _ => hR.some _
  | templateLiteral =>
    obtain ⟨hspan, hsource, helements, hexpressions⟩ := h
    exact read_congr hr hr' <| hR.bind (place_congr hR hspan hsource) fun _ =>
      hR.bind (required_congr helements) fun _ =>
      hR.bind (required_congr hexpressions) fun _ => hR.some _

end RecordKind

end

theorem RecordKind.decode_congr {j j' : Json} {r r' : Record} (k : RecordKind)
    (hr : k.read? j = some r) (hr' : k.read? j' = some r')
    (h : ∀ f ∈ k.fields, f.valueIn r = f.valueIn r') : k.decode j = k.decode j' :=
  k.decode_related isCongruence_eq hr hr' h

namespace UnionKind

variable {k : UnionKind} {kind : RecordKind} {name : String} {s : Shape} {c c' : Json}

theorem find?_of_content? (kinds : List RecordKind) (hk : k.variants = kinds.map recordVariant)
    (hs : k.content? name = some s) :
    ∃ kind, kinds.find? (·.name = name) = some kind ∧ s = .record kind := by
  rw [content?, hk, List.find?_map] at hs
  obtain ⟨v, hv, hs⟩ := Option.bind_eq_some_iff.1 hs
  obtain ⟨kind, hkind, rfl⟩ := Option.map_eq_some_iff.1 hv
  exact ⟨kind, hkind, (Option.some.inj hs).symm⟩

variable {R : ∀ {α : Type}, Option α → Option α → Prop}

theorem ofRecord?_related (hk : kind ∈ exprRecords) (h : R (kind.decode c) (kind.decode c')) :
    R ((kind.read? c).bind (Expr.ofRecord? Expr.ofJson? kind))
      ((kind.read? c').bind (Expr.ofRecord? Expr.ofJson? kind)) := by
  cases kind <;> first | exact h | exact absurd hk (by decide)

variable (hR : IsCongruence R)
include hR

theorem nodeRead?_related (hk : kind ∈ nodeRecords) (h : R (kind.decode c) (kind.decode c')) :
    R (Node.read? Node.ofJson? kind c) (Node.read? Node.ofJson? kind c') := by
  cases kind <;> first | exact hR.map h | exact absurd hk (by decide)

theorem decode_write_related (hs : k.content? name = some s) (h : R (s.decode c) (s.decode c')) :
    R (k.decode (k.write name c)) (k.decode (k.write name c')) := by
  cases k with
  | expr =>
    obtain ⟨kind, hkind, rfl⟩ := find?_of_content? exprRecords rfl hs
    have hread : ∀ c, UnionKind.expr.decode (UnionKind.expr.write name c) =
        (kind.read? c).bind (Expr.ofRecord? Expr.ofJson? kind) := by
      intro c
      refine (Expr.ofJson?_eq _).trans ?_
      have hr : UnionKind.expr.read? (UnionKind.expr.write name c) = some (name, some c) := rfl
      rw [Expr.next, hr]
      simp only [Option.bind_eq_bind, Option.bind_some, hkind]
    rw [hread, hread]
    exact ofRecord?_related (List.mem_of_find?_eq_some hkind) h
  | node =>
    obtain ⟨kind, hkind, rfl⟩ := find?_of_content? nodeRecords rfl hs
    have hread : ∀ c, UnionKind.node.decode (UnionKind.node.write name c) =
        Node.read? Node.ofJson? kind c := by
      intro c
      refine (Node.ofJson?_eq _).trans ?_
      have hr : UnionKind.node.read? (UnionKind.node.write name c) = some (name, some c) := rfl
      rw [Node.next, hr]
      simp only [Option.bind_eq_bind, Option.bind_some, hkind]
    rw [hread, hread]
    exact nodeRead?_related hR (List.mem_of_find?_eq_some hkind) h
  | templateAttribute =>
    have hname : name ∈ variantNames .templateAttribute := mem_variantNames (by simp [hs])
    have hnames : variantNames .templateAttribute = ["Bound", "Text"] := rfl
    simp only [hnames, List.mem_cons, List.not_mem_nil, or_false] at hname
    rcases hname with rfl | rfl
    · obtain rfl : .record .inputBinding = s := Option.some.inj hs
      exact hR.map h
    · obtain rfl : .record .staticAttribute = s := Option.some.inj hs
      exact hR.map h
  | literal =>
    have hname : name ∈ variantNames .literal := mem_variantNames (by simp [hs])
    have hnames : variantNames .literal = ["String", "Number", "Boolean", "Null", "Undefined"] :=
      rfl
    simp only [hnames, List.mem_cons, List.not_mem_nil, or_false] at hname
    rcases hname with rfl | rfl | rfl | rfl | rfl
    · obtain rfl : .string = s := Option.some.inj hs
      exact hR.map h
    · obtain rfl : .number = s := Option.some.inj hs
      exact hR.map h
    · obtain rfl : .bool = s := Option.some.inj hs
      exact hR.map h
    · contradiction
    · contradiction

end UnionKind

theorem UnionKind.decode_write_congr {k : UnionKind} {name : String} {s : Shape} {c c' : Json}
    (hs : k.content? name = some s) (h : s.decode c = s.decode c') :
    k.decode (k.write name c) = k.decode (k.write name c') :=
  decode_write_related isCongruence_eq hs h

section

variable {fields : List Field} {f g : Field} {front back cs cs' : List (String × Json)}
variable {c c' : Json}

theorem lookup_eq_of_perm (h : cs.Perm cs') (hn : (cs.map Prod.fst).Nodup) (name : String) :
    cs.lookup name = cs'.lookup name := by
  induction h with
  | nil => rfl
  | cons m h ih =>
    rw [List.map_cons, List.nodup_cons] at hn
    rw [List.lookup_cons, List.lookup_cons, ih hn.2]
  | swap m m' l =>
    obtain ⟨n, i⟩ := m
    obtain ⟨n', i'⟩ := m'
    have hne : n' ≠ n := by
      rintro rfl
      simp at hn
    by_cases he : name = n
    · subst he
      rw [lookup_cons_of_ne hne.symm, List.lookup_cons_self, List.lookup_cons_self]
    · by_cases he' : name = n'
      · subst he'
        rw [lookup_cons_of_ne he, List.lookup_cons_self, List.lookup_cons_self]
      · simp only [lookup_cons_of_ne he, lookup_cons_of_ne he']
  | trans h h' ih ih' => rw [ih hn, ih' ((h.map _).nodup_iff.1 hn)]

namespace Field

theorem valueIn_eq_of_lookup (h : cs.lookup f.name = cs'.lookup f.name) :
    f.valueIn ⟨cs⟩ = f.valueIn ⟨cs'⟩ := by
  rw [valueIn, Record.find?, h, valueIn, Record.find?]

theorem lookup_middle (hne : g.name ≠ f.name) :
    (front ++ (f.name, c) :: back).lookup g.name = (front ++ back).lookup g.name := by
  rw [List.lookup_append, List.lookup_append, lookup_cons_of_ne hne]

theorem valueIn_middle (hnone : front.lookup f.name = none) :
    f.valueIn ⟨front ++ (f.name, c) :: back⟩ = f.decode c := by
  have hl : (front ++ (f.name, c) :: back).lookup f.name = some c := by
    rw [List.lookup_append, hnone, List.lookup_cons_self, Option.none_or]
  rw [valueIn, Record.find?, hl]

theorem valueIn_replace (hn : (fields.map (·.name)).Nodup) (hf : f ∈ fields) (hg : g ∈ fields)
    (hc : f.decode c = f.decode c') :
    g.valueIn ⟨front ++ (f.name, c) :: back⟩ = g.valueIn ⟨front ++ (f.name, c') :: back⟩ := by
  by_cases he : g.name = f.name
  · obtain rfl : g = f := List.inj_on_of_nodup_map hn hg hf he
    cases hl : front.lookup g.name with
    | none => rw [valueIn_middle hl, valueIn_middle hl, hc]
    | some d => exact valueIn_eq_of_lookup (by simp [List.lookup_append, hl])
  · exact valueIn_eq_of_lookup (by rw [lookup_middle he, lookup_middle he])

theorem valueIn_leaveOut (hn : (fields.map (·.name)).Nodup) (hf : f ∈ fields) (hg : g ∈ fields)
    (hc : f.decode c = f.absent?) (hnot : f.name ∉ (front ++ back).map Prod.fst) :
    g.valueIn ⟨front ++ (f.name, c) :: back⟩ = g.valueIn ⟨front ++ back⟩ := by
  by_cases he : g.name = f.name
  · obtain rfl : g = f := List.inj_on_of_nodup_map hn hg hf he
    have hl : (front ++ back).lookup g.name = none := by
      refine List.lookup_eq_none_iff.2 fun m hm => ?_
      have hne : g.name ≠ m.1 := fun he => hnot (he ▸ List.mem_map_of_mem hm)
      simpa using hne
    have hfront : front.lookup g.name = none := by
      rw [List.lookup_append, Option.or_eq_none_iff] at hl
      exact hl.1
    rw [valueIn_middle hfront, hc, valueIn, Record.find?, hl]
  · exact valueIn_eq_of_lookup (lookup_middle he)

theorem decode_congr (h : f.shape.decode c = f.shape.decode c') (hc : c ≠ .null)
    (hc' : c' ≠ .null) : f.decode c = f.decode c' := by
  obtain ⟨name, s, presence⟩ := f
  cases presence with
  | required => exact h
  | optional => exact h
  | nullable =>
    have hsome : ∀ {c : Json}, c ≠ .null → nullable? s.decode c = (s.decode c).map some := by
      intro c hc
      cases c with
      | null => contradiction
      | _ => rfl
    change nullable? s.decode c = nullable? s.decode c'
    rw [hsome hc, hsome hc']
    exact congrArg (Option.map some) h

end Field

theorem list?_middle {α : Type} {read : Json → Option α} {front back : List Json} {c c' : Json}
    (h : read c = read c') :
    list? read (.array (front ++ c :: back)) = list? read (.array (front ++ c' :: back)) := by
  rw [list?, list?]
  induction front with
  | nil => rw [List.nil_append, List.nil_append, decodeAll, decodeAll, h]
  | cons d front ih => rw [List.cons_append, List.cons_append, decodeAll, decodeAll, ih]

end

end TemplateQuery.Schema
