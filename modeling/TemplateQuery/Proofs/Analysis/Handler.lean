import Mathlib.Tactic
import TemplateQuery.Analysis.Basic
import TemplateQuery.Proofs.Expr.Printer
import TemplateQuery.Proofs.Node.Preorder

namespace TemplateQuery

open Json

namespace Expr

variable {e callee : Expr} {args : List Expr} {name : String}

def Reads (e : Expr) (name : String) : Prop :=
  ∃ place nameSpan receiver, e = .propertyRead place nameSpan receiver name

theorem suffix_memberChars (receiver : List Char) (name : String) :
    name.toList <:+ memberChars receiver name := by
  rw [memberChars]
  split
  · exact List.suffix_rfl
  · exact ⟨receiver ++ ['.'], by simp⟩

theorem Reads.suffix (h : e.Reads name) : name.toList <:+ e.text.toList := by
  obtain ⟨p, n, receiver, rfl⟩ := h
  rw [toList_text, chars]
  exact suffix_memberChars receiver.chars name

theorem toList_intercalate_text (es : List Expr) :
    (", ".intercalate (es.map text)).toList = separated [',', ' '] es := by
  rw [String.toList_intercalate, separated_eq, List.map_map]
  congr 2
  funext e
  exact toList_text e

theorem text_call (place : Place) (callee : Expr) (args : List Expr) (argumentSpan : Extent)
    (comma : Bool) :
    (call place callee args argumentSpan comma).text =
      callee.text ++ "(" ++ ", ".intercalate (args.map text) ++ (if comma then ", " else "") ++
        ")" := by
  rw [← String.toList_inj, toList_text, chars]
  simp only [String.toList_append, toList_intercalate_text, toList_text]
  cases comma <;> simp [trailing]

end Expr

namespace EventHandler

theorem method_of_reads {e : Expr} {name : String} (h : e.Reads name) : method e = (name, []) := by
  obtain ⟨p, n, receiver, rfl⟩ := h
  rfl

theorem method_call {callee : Expr} {name : String} (h : callee.Reads name) (place : Place)
    (args : List Expr) (argumentSpan : Extent) (comma : Bool) :
    method (.call place callee args argumentSpan comma) = (name, args.map (·.text)) := by
  obtain ⟨p, n, receiver, rfl⟩ := h
  rfl

theorem method_of_not_reads {e : Expr} (hr : ∀ name, ¬ e.Reads name)
    (hc : ∀ place callee args argumentSpan comma,
      e = .call place callee args argumentSpan comma → ∀ name, ¬ callee.Reads name) :
    method e = ("", []) := by
  unfold method
  split
  · exact absurd ⟨_, _, _, rfl⟩ (hr _)
  · exact absurd ⟨_, _, _, rfl⟩ (hc _ _ _ _ _ rfl _)
  · rfl

structure Describes (h : EventHandler) (b : OutputBinding) : Prop where
  sourceSpan : h.sourceSpan = b.sourceSpan
  call : ∀ {place callee args argumentSpan comma name},
    b.handler.expr = .call place callee args argumentSpan comma → callee.Reads name →
      h.name = name ∧ h.arguments = args.map (·.text) ∧ h.arguments.length = args.length ∧
        (b.handler.source = none →
          h.fullText = callee.text ++ "(" ++ ", ".intercalate h.arguments ++
              (if comma then ", " else "") ++ ")" ∧
            h.name.toList <:+ callee.text.toList)
  read : ∀ {name}, b.handler.expr.Reads name →
    h.name = name ∧ h.arguments = [] ∧
      (b.handler.source = none → h.name.toList <:+ h.fullText.toList)
  other : (∀ name, ¬ b.handler.expr.Reads name) →
    (∀ place callee args argumentSpan comma,
      b.handler.expr = .call place callee args argumentSpan comma → ∀ name, ¬ callee.Reads name) →
      h.name = "" ∧ h.arguments = []

theorem fullText_ofOutput {b : OutputBinding} (h : b.handler.source = none) :
    (ofOutput b).fullText = b.handler.expr.text := by
  rw [ofOutput, SourcedExpr.text, h]

theorem describes_ofOutput (b : OutputBinding) : (ofOutput b).Describes b where
  sourceSpan := rfl
  call := by
    intro place callee args argumentSpan comma name he hr
    have hm : method b.handler.expr = (name, args.map (·.text)) := by
      rw [he, method_call hr]
    have hname : (ofOutput b).name = name := congrArg Prod.fst hm
    have hargs : (ofOutput b).arguments = args.map (·.text) := congrArg Prod.snd hm
    refine ⟨hname, hargs, by rw [hargs, List.length_map], ?_⟩
    intro hs
    rw [fullText_ofOutput hs, he, Expr.text_call, hargs, hname]
    exact ⟨rfl, hr.suffix⟩
  read := by
    intro name hr
    have hm : method b.handler.expr = (name, []) := method_of_reads hr
    have hname : (ofOutput b).name = name := congrArg Prod.fst hm
    refine ⟨hname, congrArg Prod.snd hm, ?_⟩
    intro hs
    rw [fullText_ofOutput hs, hname]
    exact hr.suffix
  other hr hc := by
    have hm : method b.handler.expr = ("", []) := method_of_not_reads hr hc
    exact ⟨congrArg Prod.fst hm, congrArg Prod.snd hm⟩

end EventHandler

namespace Analysis

def outputsInOrder (a : Analysis) : List OutputBinding :=
  ((Node.preorderAll a.config.includeEmptyBranches a.nodes).filterMap Visit.element?).flatMap
    (·.outputs)

theorem flatMap_outputs_elements (a : Analysis) :
    a.elements.flatMap (·.outputs) = a.outputsInOrder := by
  rw [outputsInOrder, elements, visits, walk_eq]

theorem eventHandlers_describe (a : Analysis) :
    List.Forall₂ EventHandler.Describes a.eventHandlers a.outputsInOrder := by
  rw [eventHandlers, flatMap_outputs_elements, List.forall₂_map_left_iff, List.forall₂_same]
  intro b _
  exact EventHandler.describes_ofOutput b

end Analysis

end TemplateQuery
