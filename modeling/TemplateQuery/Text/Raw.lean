namespace TemplateQuery

@[ext] structure RawText where
  bytes : List UInt8
deriving DecidableEq, Inhabited

namespace RawText

def ofString (s : String) : RawText :=
  ⟨s.toList.flatMap String.utf8EncodeChar⟩

instance : Coe String RawText := ⟨ofString⟩

def replacement : Char := '\ufffd'

def isContinuation (b : UInt8) : Bool :=
  0x80 ≤ b && b ≤ 0xbf

def maySecond (first second : UInt8) : Bool :=
  if first = 0xe0 then 0xa0 ≤ second && second ≤ 0xbf
  else if first = 0xed then 0x80 ≤ second && second ≤ 0x9f
  else if first = 0xf0 then 0x90 ≤ second && second ≤ 0xbf
  else if first = 0xf4 then 0x80 ≤ second && second ≤ 0x8f
  else 0xe0 ≤ first && first ≤ 0xf4 && isContinuation second

def brokenTail (first : UInt8) : List UInt8 → Nat
  | [] => 0
  | second :: rest =>
    if maySecond first second then
      if 0xf0 ≤ first && rest.head?.any isContinuation then 2 else 1
    else 0

def decodeFrom : Nat → List UInt8 → List Char
  | _, [] => []
  | n + 1, _ :: rest => decodeFrom n rest
  | 0, b :: rest =>
    match (b :: rest).toByteArray.utf8DecodeChar? 0 with
    | some c => c :: decodeFrom (c.utf8Size - 1) rest
    | none => replacement :: decodeFrom (brokenTail b rest) rest

def text (r : RawText) : String :=
  String.ofList (decodeFrom 0 r.bytes)

def text? (r : RawText) : Option String :=
  if ofString r.text = r then some r.text else none

theorem decodeFrom_append (bs rest : List UInt8) :
    decodeFrom bs.length (bs ++ rest) = decodeFrom 0 rest := by
  induction bs with
  | nil => rfl
  | cons b bs ih => exact ih

theorem decodeFrom_utf8EncodeChar_append (c : Char) (rest : List UInt8) :
    decodeFrom 0 (String.utf8EncodeChar c ++ rest) = c :: decodeFrom 0 rest := by
  obtain ⟨b, bs, hbs⟩ := List.exists_cons_of_ne_nil (String.utf8EncodeChar_ne_nil (c := c))
  have hdecode : (String.utf8EncodeChar c ++ rest).toByteArray.utf8DecodeChar? 0 = some c := by
    rw [List.toByteArray_append]
    exact ByteArray.utf8DecodeChar?_utf8EncodeChar_append
  have hlength : c.utf8Size - 1 = bs.length := by
    rw [← String.length_utf8EncodeChar, hbs, List.length_cons, Nat.add_sub_cancel]
  rw [hbs, List.cons_append] at hdecode ⊢
  rw [decodeFrom, hdecode]
  simp only [hlength, decodeFrom_append]

theorem decodeFrom_flatMap (cs : List Char) :
    decodeFrom 0 (cs.flatMap String.utf8EncodeChar) = cs := by
  induction cs with
  | nil => rfl
  | cons c cs ih => rw [List.flatMap_cons, decodeFrom_utf8EncodeChar_append, ih]

@[simp] theorem text_ofString (s : String) : (ofString s).text = s := by
  rw [text, ofString, decodeFrom_flatMap, String.ofList_toList]

theorem text?_eq_some_iff {r : RawText} {s : String} : r.text? = some s ↔ r = ofString s := by
  rw [text?]
  constructor
  · intro h
    split at h
    case isTrue hr => rw [← Option.some.inj h, hr]
    case isFalse => contradiction
  · rintro rfl
    rw [text_ofString, if_pos rfl]

example : (RawText.mk [0x61, 0xf0, 0x9f, 0x62, 0xff, 0xc3]).text = "a\ufffdb\ufffd\ufffd" := by
  decide +kernel

end RawText

end TemplateQuery
