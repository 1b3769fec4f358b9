import Mathlib.Data.List.DropRight
import Mathlib.Tactic
import TemplateQuery.Document.Reader

namespace TemplateQuery.Document

open Json String

def lineFeed : UInt8 := 10

def lineStart (bs : List UInt8) : Nat :=
  (bs.rdropWhile (· != lineFeed)).length

def column (bs : List UInt8) : Nat :=
  bs.length - lineStart bs

section Lines

variable {bs cs : List UInt8}

theorem lineStart_le (bs : List UInt8) : lineStart bs ≤ bs.length :=
  (List.rdropWhile_prefix _ bs).length_le

theorem lineStart_append_of_mem (h : lineFeed ∈ cs) :
    lineStart (bs ++ cs) = bs.length + lineStart cs := by
  have hne : cs.reverse.dropWhile (· != lineFeed) ≠ [] := by
    intro he
    have hb := List.dropWhile_eq_nil_iff.1 he lineFeed (by simpa using h)
    simp at hb
  simp only [lineStart, List.rdropWhile, List.reverse_append, List.dropWhile_append]
  rw [if_neg (by simpa using hne)]
  simp

theorem lineStart_append_of_not_mem (h : lineFeed ∉ cs) : lineStart (bs ++ cs) = lineStart bs := by
  have he : cs.reverse.dropWhile (· != lineFeed) = [] := by
    refine List.dropWhile_eq_nil_iff.2 fun b hb => ?_
    rw [List.mem_reverse] at hb
    exact bne_iff_ne.2 fun hn => h (hn ▸ hb)
  simp [lineStart, List.rdropWhile, List.dropWhile_append, he]

theorem lineStart_of_not_mem (h : lineFeed ∉ cs) : lineStart cs = 0 :=
  calc
    lineStart cs = lineStart ([] ++ cs) := rfl
    _ = lineStart [] := lineStart_append_of_not_mem h

theorem lineStart_lineFeed_cons (bs : List UInt8) :
    lineStart (lineFeed :: bs) = lineStart bs + 1 := by
  have ha : lineFeed :: bs = [lineFeed] ++ bs := rfl
  by_cases h : lineFeed ∈ bs
  · rw [ha, lineStart_append_of_mem h, List.length_singleton, Nat.add_comm]
  · rw [ha, lineStart_append_of_not_mem h, lineStart_of_not_mem h]
    rfl

theorem column_append_of_mem (h : lineFeed ∈ cs) : column (bs ++ cs) = column cs := by
  rw [column, column, lineStart_append_of_mem h, List.length_append]
  omega

theorem column_append_of_not_mem (h : lineFeed ∉ cs) :
    column (bs ++ cs) = column bs + cs.length := by
  have hle := lineStart_le bs
  rw [column, column, lineStart_append_of_not_mem h, List.length_append]
  omega

theorem exists_eq_concat_of_column (h : column bs ≠ 0) :
    ∃ cs b, bs = cs ++ [b] ∧ lineFeed ∉ [b] := by
  obtain rfl | ⟨cs, b, rfl⟩ := bs.eq_nil_or_concat'
  · exact absurd rfl h
  · refine ⟨cs, b, rfl, fun hb => h ?_⟩
    rw [column_append_of_mem hb, ← List.mem_singleton.1 hb]
    rfl

end Lines

section Characters

variable {c : Char} {n : Nat}

theorem utf8EncodeChar_lineFeed : utf8EncodeChar '\n' = [lineFeed] := by decide

theorem eq_of_lineFeed (hn : n < 256) (h : lineFeed = UInt8.ofNat n) : n = 10 := by
  have ht := congrArg UInt8.toNat h
  rw [UInt8.toNat_ofNat_of_lt' hn] at ht
  exact ht.symm

theorem lineFeed_mem_utf8EncodeChar : lineFeed ∈ utf8EncodeChar c ↔ c = '\n' := by
  constructor
  · intro h
    rw [utf8EncodeChar] at h
    split_ifs at h with h1 h2 h3
    · have hc := eq_of_lineFeed (by omega) (List.mem_singleton.1 h)
      exact Char.ext (UInt32.toNat_inj.1 hc)
    all_goals simp only [List.mem_cons, List.not_mem_nil, or_false] at h
    · rcases h with h | h <;> have hc := eq_of_lineFeed (by omega) h <;> omega
    · rcases h with h | h | h <;> have hc := eq_of_lineFeed (by omega) h <;> omega
    · rcases h with h | h | h | h <;> have hc := eq_of_lineFeed (by omega) h <;> omega
  · rintro rfl
    simp [utf8EncodeChar_lineFeed]

theorem lineFeed_not_mem_take (h : n < c.utf8Size) (bs : List UInt8) :
    lineFeed ∉ (utf8EncodeChar c ++ bs).take n := by
  intro hm
  rw [← length_utf8EncodeChar] at h
  rw [List.take_append_of_le_length h.le] at hm
  obtain rfl := lineFeed_mem_utf8EncodeChar.1 (List.mem_of_mem_take hm)
  obtain rfl : n = 0 := by
    rw [utf8EncodeChar_lineFeed, List.length_singleton] at h
    omega
  simp at hm

theorem length_take_utf8EncodeChar (h : n < c.utf8Size) (bs : List UInt8) :
    ((utf8EncodeChar c ++ bs).take n).length = n := by
  rw [← length_utf8EncodeChar] at h
  rw [List.length_take, List.length_append]
  omega

theorem take_utf8EncodeChar (h : ¬ n < c.utf8Size) (bs : List UInt8) :
    (utf8EncodeChar c ++ bs).take n = utf8EncodeChar c ++ bs.take (n - c.utf8Size) := by
  rw [← length_utf8EncodeChar] at h ⊢
  rw [List.take_append, List.take_of_length_le (by omega)]

def encode (cs : List Char) : List UInt8 :=
  cs.flatMap utf8EncodeChar

theorem encode_cons (c : Char) (cs : List Char) :
    encode (c :: cs) = utf8EncodeChar c ++ encode cs :=
  rfl

theorem newlinesIn_eq (n : Nat) (cs : List Char) :
    newlinesIn n cs = ((encode cs).take n).count lineFeed := by
  induction cs generalizing n with
  | nil => simp [newlinesIn, encode]
  | cons c cs ih =>
    rw [newlinesIn, encode_cons]
    split
    · rename_i hn
      exact (List.count_eq_zero.2 (lineFeed_not_mem_take hn _)).symm
    · rename_i hn
      rw [take_utf8EncodeChar hn, List.count_append, ih]
      split
      · rename_i hc
        rw [hc, utf8EncodeChar_lineFeed, List.count_singleton_self]
      · rename_i hc
        rw [List.count_eq_zero.2 (mt lineFeed_mem_utf8EncodeChar.1 hc)]

-- `bs` is what stands before, in the line and in the lines above.
theorem columnFrom_eq (bs : List UInt8) (n : Nat) (cs : List Char) :
    columnFrom (column bs) n cs = column (bs ++ (encode cs).take n) := by
  induction cs generalizing bs n with
  | nil => simp [columnFrom, encode]
  | cons c cs ih =>
    rw [columnFrom, encode_cons]
    split
    · rename_i hn
      rw [column_append_of_not_mem (lineFeed_not_mem_take hn _), length_take_utf8EncodeChar hn]
    · rename_i hn
      have hc : (if c = '\n' then 0 else column bs + c.utf8Size) =
          column (bs ++ utf8EncodeChar c) := by
        split
        · rename_i hc
          subst hc
          rw [column_append_of_mem (by simp [utf8EncodeChar_lineFeed])]
          rfl
        · rename_i hc
          rw [column_append_of_not_mem (mt lineFeed_mem_utf8EncodeChar.1 hc), length_utf8EncodeChar]
      rw [take_utf8EncodeChar hn, hc, ih, List.append_assoc]

theorem linesSize_eq (n : Nat) (cs : List Char) :
    linesSize (((encode cs).take n).count lineFeed) cs = lineStart ((encode cs).take n) := by
  induction cs generalizing n with
  | nil => simp [encode, linesSize, lineStart]
  | cons c cs ih =>
    rw [encode_cons]
    by_cases hn : n < c.utf8Size
    · have hm := lineFeed_not_mem_take hn (encode cs)
      rw [List.count_eq_zero.2 hm, lineStart_of_not_mem hm, linesSize]
    · have hr := ih (n - c.utf8Size)
      rw [take_utf8EncodeChar hn, List.count_append]
      generalize (encode cs).take (n - c.utf8Size) = bs at hr ⊢
      by_cases hc : c = '\n'
      · subst hc
        rw [utf8EncodeChar_lineFeed, List.count_singleton_self, Nat.add_comm, linesSize, if_pos rfl,
          hr, List.singleton_append, lineStart_lineFeed_cons, Nat.add_comm]
        rfl
      · have hm : lineFeed ∉ utf8EncodeChar c := mt lineFeed_mem_utf8EncodeChar.1 hc
        rw [List.count_eq_zero.2 hm, Nat.zero_add]
        by_cases hb : lineFeed ∈ bs
        · obtain ⟨k, hk⟩ := Nat.exists_eq_add_one.2 (List.count_pos_iff.2 hb)
          rw [lineStart_append_of_mem hb, length_utf8EncodeChar, ← hr, hk, linesSize, if_neg hc]
        · rw [lineStart_append_of_not_mem hb, lineStart_of_not_mem hm, List.count_eq_zero.2 hb,
            linesSize]

end Characters

section Places

variable {text : String} {n : Nat} {f : Fault}

def bytes (text : String) : List UInt8 :=
  text.toByteArray.data.toList

theorem bytes_eq (text : String) : bytes text = encode text.toList := by
  rw [bytes, ← utf8Encode_toList, List.utf8Encode, List.toList_data_toByteArray, encode]

theorem length_take_bytes (h : n ≤ text.utf8ByteSize) : ((bytes text).take n).length = n := by
  rw [List.length_take, bytes, Array.length_toList, ByteArray.size_data, size_toByteArray]
  omega

theorem ofIndex_eq (text : String) (n : Nat) :
    Position.ofIndex text n =
      ⟨((bytes text).take n).count lineFeed + 1, column ((bytes text).take n)⟩ := by
  have hc := columnFrom_eq [] n text.toList
  rw [List.nil_append] at hc
  rw [Position.ofIndex, newlinesIn_eq, bytes_eq, ← hc]
  rfl

structure IsPlace (text : String) (l : Location) : Prop where
  offset_le : l.offset ≤ text.utf8ByteSize
  line : l.line = ((bytes text).take l.offset).count lineFeed
  col : l.col = l.offset - lineStart ((bytes text).take l.offset)

def lastInLine (text : String) (n : Nat) : Nat :=
  n - min 1 (column ((bytes text).take n))

theorem linesSize_locate (h : n ≤ text.utf8ByteSize) :
    linesSize (locate text (Position.ofIndex text n)).line text.toList +
      (locate text (Position.ofIndex text n)).col = lastInLine text n := by
  have hl := lineStart_le ((bytes text).take n)
  have hs := linesSize_eq n text.toList
  rw [← bytes_eq] at hs
  rw [length_take_bytes h] at hl
  simp only [locate, ofIndex_eq, Nat.add_sub_cancel, hs, lastInLine, column, length_take_bytes h]
  omega

theorem locate_ofIndex (h : n ≤ text.utf8ByteSize) :
    locate text (Position.ofIndex text n) =
      ⟨lastInLine text n, ((bytes text).take n).count lineFeed,
        column ((bytes text).take n) - 1⟩ := by
  have hs := linesSize_locate h
  have hle : lastInLine text n ≤ text.utf8ByteSize := (Nat.sub_le _ _).trans h
  rw [← min_eq_left hle, ← hs, locate, ofIndex_eq, Nat.add_sub_cancel]

theorem isPlace_locate (h : n ≤ text.utf8ByteSize) :
    IsPlace text (locate text (Position.ofIndex text n)) := by
  have hle : lastInLine text n ≤ text.utf8ByteSize := (Nat.sub_le _ _).trans h
  have hn := length_take_bytes h
  rw [locate_ofIndex h]
  by_cases hc : column ((bytes text).take n) = 0
  · have ho : lastInLine text n = n := by rw [lastInLine, hc, Nat.min_zero, Nat.sub_zero]
    refine ⟨hle, ?_, ?_⟩
    · rw [ho]
    · rw [column, hn] at hc
      rw [ho, column, hn, hc]
  · obtain ⟨bs, b, he, hb⟩ := exists_eq_concat_of_column hc
    have ho : lastInLine text n = n - 1 := by
      rw [lastInLine, min_eq_left (Nat.one_le_iff_ne_zero.2 hc)]
    have hbs : bs.length = n - 1 := by
      rw [← hn, he, List.length_append, List.length_singleton, Nat.add_sub_cancel]
    have ht : (bytes text).take (n - 1) = bs := by
      rw [← min_eq_left (Nat.sub_le n 1), ← List.take_take, he, List.take_left' hbs]
    refine ⟨hle, ?_, ?_⟩
    · rw [ho, ht, he, List.count_append, List.count_eq_zero.2 hb, Nat.add_zero]
    · rw [ho, ht, he, column_append_of_not_mem hb, column, hbs]
      rfl

theorem parse_of_broken (h : read text = .error f) :
    ∃ d, parse text = { nodes := [], diagnostics := [d] } ∧ d.level = .error ∧
      d.span.stop = d.span.start ∧ IsPlace text d.span.start ∧
      d.span.start.offset = lastInLine text (faultIndex text f) ∧
      linesSize d.span.start.line text.toList + d.span.start.col = d.span.start.offset := by
  have hp : parse text = { nodes := [], diagnostics := [diagnostic text f] } := by
    rw [parse, h]
  have hi : faultIndex text f ≤ text.utf8ByteSize := Nat.sub_le _ _
  have ho : (diagnostic text f).span.start.offset = lastInLine text (faultIndex text f) := by
    rw [diagnostic, locate_ofIndex hi]
  exact ⟨_, hp, rfl, rfl, isPlace_locate hi, ho, (linesSize_locate hi).trans ho.symm⟩

theorem parse_of_broken_item :
    ∃ text f d, text = "\x7b\"é\":1,\r\n\"nodes\": [\"é\"\x7d" ∧ read text = .error f ∧
      parse text = { nodes := [], diagnostics := [d] } ∧ d.level = .error ∧
      d.span.stop = d.span.start ∧ d.span.start = ⟨23, 1, 13⟩ ∧ IsPlace text d.span.start := by
  let text := "\x7b\"é\":1,\r\n\"nodes\": [\"é\"\x7d"
  have hn : (read text).toOption.isNone = true := by decide +kernel
  obtain ⟨f, hf⟩ : ∃ f, read text = .error f := by
    cases hr : read text with
    | error f => exact ⟨f, rfl⟩
    | ok t => simp [hr, Except.toOption] at hn
  obtain ⟨d, hp, hl, hs, hi, -⟩ := parse_of_broken hf
  have hd : (parse text).diagnostics.map (·.span.start) = [⟨23, 1, 13⟩] := by decide +kernel
  rw [hp] at hd
  exact ⟨text, f, d, rfl, hf, hp, hl, hs, by simpa using hd, hi⟩

end Places

end TemplateQuery.Document
