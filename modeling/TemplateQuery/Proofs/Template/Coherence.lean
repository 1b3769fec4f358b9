import Mathlib.Data.List.DropRight
import Mathlib.Tactic
import TemplateQuery.Template

namespace TemplateQuery.Template

variable (parser : TemplateParser) (text path : String) (ops : List Operation) (op : Operation)

namespace Operation

def reads : Operation → Bool
  | .query _ | .parsed | .nodes => true
  | _ => false

def drops : Operation → Bool
  | .invalidate | .setText _ => true
  | _ => false

def text? : Operation → Option String
  | .setText text => some text
  | _ => none

def config? : Operation → Option Config
  | .setConfig c => some c
  | _ => none

end Operation

def performAll (t : Template) : List Operation → List Reply × Template
  | [] => ([], t)
  | op :: rest =>
    let (r, t) := t.perform op
    let (rs, t) := performAll t rest
    (r :: rs, t)

def textAfter : String :=
  (ops.filterMap Operation.text?).getLastD text

def configAfter : Config :=
  (ops.filterMap Operation.config?).getLastD {}

def renewed : Template :=
  { text := textAfter text ops, path, parser, config := configAfter ops }

def renewedReplies (seen : List Operation) : List Operation → List Reply
  | [] => []
  | op :: rest =>
    ((renewed parser text path seen).perform op).1 :: renewedReplies (seen ++ [op]) rest

def isRead (seen : List Operation) : Bool :=
  (seen.rtakeWhile (!·.drops)).any Operation.reads

def firstReads (seen : List Operation) : List Operation → Nat
  | [] => 0
  | op :: rest => (if op.reads && !isRead seen then 1 else 0) + firstReads (seen ++ [op]) rest

def stateAfter : Template :=
  { renewed parser text path ops with
    cached := if isRead ops then some (parser (textAfter text ops) path) else none
    parses := firstReads [] ops }

theorem textAfter_concat : textAfter text (ops ++ [op]) = op.text?.getD (textAfter text ops) := by
  cases h : op.text? <;> simp [textAfter, h]

theorem configAfter_concat : configAfter (ops ++ [op]) = op.config?.getD (configAfter ops) := by
  cases h : op.config? <;> simp [configAfter, h]

theorem isRead_concat : isRead (ops ++ [op]) = (!op.drops && (op.reads || isRead ops)) := by
  rw [isRead, List.rtakeWhile_concat]
  cases h : op.drops with
  | false => simp [isRead, Bool.or_comm]
  | true => simp

theorem firstReads_concat (seen : List Operation) :
    firstReads seen (ops ++ [op]) =
      firstReads seen ops + if op.reads && !isRead (seen ++ ops) then 1 else 0 := by
  induction ops generalizing seen with
  | nil => simp [firstReads]
  | cons o ops ih => simp [firstReads, ih, Nat.add_assoc]

theorem renewedReplies_concat (seen : List Operation) :
    renewedReplies parser text path seen (ops ++ [op]) =
      renewedReplies parser text path seen ops ++
        [((renewed parser text path (seen ++ ops)).perform op).1] := by
  induction ops generalizing seen with
  | nil => simp [renewedReplies]
  | cons o ops ih => simp [renewedReplies, ih]

theorem parsed_config (t : Template) : t.parsed.2.config = t.config := by
  rw [parsed]
  split <;> rfl

theorem perform_of_reads (h : op.reads = true) :
    ∃ f : ParsedTemplate → Config → Reply,
      ∀ t : Template, t.perform op = (f t.parsed.1 t.config, t.parsed.2) := by
  cases op with
  | query q =>
    refine ⟨fun p c => .answer ((⟨p.nodes, p.diagnostics, c⟩ : Analysis).answer q), fun t => ?_⟩
    rw [← parsed_config t]
    rfl
  | parsed => exact ⟨fun p _ => .parsed p, fun _ => rfl⟩
  | nodes => exact ⟨fun p _ => .nodes p.nodes, fun _ => rfl⟩
  | invalidate | setText | setConfig => cases h

theorem parsed_renewed :
    (renewed parser text path ops).parsed.1 = parser (textAfter text ops) path := rfl

theorem parsed_stateAfter :
    (stateAfter parser text path ops).parsed =
      (parser (textAfter text ops) path,
        { renewed parser text path ops with
          cached := some (parser (textAfter text ops) path)
          parses := firstReads [] ops + if isRead ops then 0 else 1 }) := by
  cases h : isRead ops <;> simp [stateAfter, renewed, parsed, h]

theorem stateAfter_concat_of_reads (h : op.reads = true) :
    stateAfter parser text path (ops ++ [op]) = (stateAfter parser text path ops).parsed.2 := by
  have hd : op.drops = false ∧ op.text? = none ∧ op.config? = none := by
    cases op with
    | query | parsed | nodes => exact ⟨rfl, rfl, rfl⟩
    | invalidate | setText | setConfig => cases h
  rw [parsed_stateAfter]
  cases hr : isRead ops <;>
    simp [stateAfter, renewed, textAfter_concat, configAfter_concat, isRead_concat,
      firstReads_concat, hd, h, hr]

theorem stateAfter_concat (h : op.reads = false) :
    stateAfter parser text path (ops ++ [op]) =
      ((stateAfter parser text path ops).perform op).2 := by
  cases op with
  | query | parsed | nodes => cases h
  | invalidate | setText | setConfig =>
    simp [stateAfter, renewed, textAfter_concat, configAfter_concat, isRead_concat,
      firstReads_concat, Operation.reads, Operation.drops, Operation.text?, Operation.config?,
      perform, invalidate, setText, withConfig]

theorem perform_stateAfter :
    (stateAfter parser text path ops).perform op =
      (((renewed parser text path ops).perform op).1,
        stateAfter parser text path (ops ++ [op])) := by
  cases h : op.reads with
  | false =>
    rw [stateAfter_concat _ _ _ _ _ h]
    cases op with
    | query | parsed | nodes => cases h
    | invalidate | setText | setConfig => rfl
  | true =>
    obtain ⟨f, hf⟩ := perform_of_reads op h
    rw [stateAfter_concat_of_reads _ _ _ _ _ h, hf, hf, parsed_renewed, parsed_stateAfter]
    rfl

theorem performAll_concat (t : Template) :
    t.performAll (ops ++ [op]) =
      ((t.performAll ops).1 ++ [((t.performAll ops).2.perform op).1],
        ((t.performAll ops).2.perform op).2) := by
  induction ops generalizing t with
  | nil => rfl
  | cons o ops ih => simp [performAll, ih]

theorem performAll_eq :
    performAll { text, path, parser } ops =
      (renewedReplies parser text path [] ops, stateAfter parser text path ops) := by
  induction ops using List.reverseRecOn with
  | nil => rfl
  | append_singleton ops op ih =>
    rw [performAll_concat, ih, renewedReplies_concat, perform_stateAfter]
    rfl

theorem coherent :
    ∃ replies t, performAll { text, path, parser } ops = (replies, t) ∧
      (t.text = textAfter text ops ∧ t.path = path ∧ t.config = configAfter ops) ∧
      (t.cached = none ∨ t.cached = some (parser t.text t.path)) ∧
      replies = renewedReplies parser text path [] ops ∧ t.parses = firstReads [] ops := by
  refine ⟨_, _, performAll_eq parser text path ops, ⟨rfl, rfl, rfl⟩, ?_, rfl, rfl⟩
  cases h : isRead ops with
  | false => exact .inl (by simp [stateAfter, h])
  | true => exact .inr (by simp [stateAfter, renewed, h])

end TemplateQuery.Template
