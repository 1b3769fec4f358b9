import Mathlib.Tactic
import TemplateQuery.Proofs.Expr.Data

namespace TemplateQuery

namespace Text

def replaceChar (c : Char) (new : List Char) (s : List Char) : List Char :=
  s.flatMap fun d => if d = c then new else [d]

theorem replaceChar_cons (c d : Char) (new s : List Char) :
    replaceChar c new (d :: s) = (if d = c then new else [d]) ++ replaceChar c new s :=
  List.flatMap_cons

theorem replaceChar_append (c : Char) (new r s : List Char) :
    replaceChar c new (r ++ s) = replaceChar c new r ++ replaceChar c new s :=
  List.flatMap_append

end Text

namespace Literal

open Text (replaceChar replaceChar_cons replaceChar_append)

theorem escape_cons (c : Char) (s : List Char) :
    escape (c :: s) = (if c = '\\' ∨ c = '\x27' then ['\\', c] else [c]) ++ escape s := by
  simp [escape]

theorem escape_eq_replaceChar (s : List Char) :
    escape s = replaceChar '\x27' ['\\', '\x27'] (replaceChar '\\' ['\\', '\\'] s) := by
  induction s with
  | nil => rfl
  | cons c s ih =>
    rw [escape_cons, ih, replaceChar_cons, replaceChar_append]
    by_cases hb : c = '\\'
    · simp [hb, replaceChar]
    · by_cases hq : c = '\x27'
      · simp [hq, replaceChar]
      · simp [hb, hq, replaceChar]

inductive BodyFault where
  | quote
  | backslash
deriving DecidableEq

def readBody (backslash : Bool) : List Char → Except BodyFault (List Char)
  | [] => if backslash then .error .backslash else .ok []
  | c :: rest =>
    if backslash then (readBody false rest).map (c :: ·)
    else if c = '\\' then readBody true rest
    else if c = '\x27' then .error .quote
    else (readBody false rest).map (c :: ·)

theorem readBody_escape_cons (c : Char) (rest : List Char) :
    readBody false ((if c = '\\' ∨ c = '\x27' then ['\\', c] else [c]) ++ rest) =
      (readBody false rest).map (c :: ·) := by
  by_cases h : c = '\\' ∨ c = '\x27'
  · simp [h, readBody]
  · obtain ⟨hb, hq⟩ := not_or.1 h
    simp [hb, hq, readBody]

theorem readBody_escape (s : List Char) : readBody false (escape s) = .ok s := by
  induction s with
  | nil => rfl
  | cons c s ih =>
    rw [escape_cons, readBody_escape_cons, ih]
    rfl

theorem chars_string (t : String) :
    (string t).chars = '\x27' :: (escape t.toList ++ ['\x27']) :=
  rfl

theorem string_read_back (t : String) :
    ∃ body, (string t).chars = '\x27' :: (body ++ ['\x27']) ∧
      body = replaceChar '\x27' ['\\', '\x27'] (replaceChar '\\' ['\\', '\\'] t.toList) ∧
      readBody false body = .ok t.toList ∧
      ∀ rest, readQuotedAfter false (body ++ '\x27' :: rest) = some (t.toList, rest) :=
  ⟨escape t.toList, chars_string t, escape_eq_replaceChar t.toList, readBody_escape t.toList,
    readQuotedAfter_escape t.toList⟩

example : (string "\\\\\x27\\").chars = "\x27\\\\\\\\\\\x27\\\\\x27".toList := by decide

end Literal

end TemplateQuery
