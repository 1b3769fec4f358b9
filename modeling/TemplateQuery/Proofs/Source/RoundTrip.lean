import Mathlib.Tactic
import TemplateQuery.Proofs.Schema.Settled
import TemplateQuery.Source.Diagnostic

namespace TemplateQuery

open Json Schema

namespace Location

theorem settled (l : Location) : Settled (.record .location) l.toJson :=
  .record <|
    .cons (.value (.nat l.offset)) <|
    .cons (.value (.nat l.line)) <|
    .cons (.value (.nat l.col)) .nil

@[simp] theorem ofJson?_toJson (l : Location) : ofJson? l.toJson = some l := by
  simp [ofJson?, toJson]

end Location

namespace Span

theorem settled (s : Span) : Settled (.record .span) s.toJson := by
  obtain ⟨start, stop, details⟩ := s
  refine .record <| .cons (.value start.settled) <| .cons (.value stop.settled) ?_
  cases details with
  | none => exact .skip (by decide) .nil
  | some d => exact .cons (.value (.string d)) .nil

@[simp] theorem ofJson?_toJson (s : Span) : ofJson? s.toJson = some s := by
  obtain ⟨start, stop, details⟩ := s
  cases details <;> simp [ofJson?, toJson, nullable?]

@[simp] theorem nullable?_toJson (o : Option Span) :
    nullable? ofJson? (nullable toJson o) = some o :=
  nullable?_nullable (by simp [toJson]) fun s _ => ofJson?_toJson s

end Span

namespace Level

theorem settled (l : Level) : Settled (.choice .level) l.toJson := by
  cases l <;> exact .choice (by decide)

@[simp] theorem ofJson?_toJson (l : Level) : ofJson? l.toJson = some l := by
  cases l <;> rfl

end Level

namespace Diagnostic

theorem settled (d : Diagnostic) : Settled (.record .diagnostic) d.toJson :=
  .record <|
    .cons (.value d.span.settled) <|
    .cons (.value (.string d.message)) <|
    .cons (.value d.level.settled) .nil

@[simp] theorem ofJson?_toJson (d : Diagnostic) : ofJson? d.toJson = some d := by
  simp [ofJson?, toJson]

end Diagnostic

namespace Problem

theorem ofJson?_toJson (p : Problem) : ofJson? p.toJson = some p := by
  simp [ofJson?, toJson]

end Problem

end TemplateQuery
