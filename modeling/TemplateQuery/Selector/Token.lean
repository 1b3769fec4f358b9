import TemplateQuery.Text.CharSet
import TemplateQuery.Text.Word

namespace TemplateQuery.Selector

inductive Token where
  | openNegation
  | tag (name : List Char)
  | className (name : List Char)
  | identifier (name : List Char)
  | attribute (name value : List Char)
  | closeNegation
  | separator
deriving DecidableEq

def isName (c : Char) : Bool :=
  c == '-' || Text.isWord c

def isAttributeName (c : Char) : Bool :=
  c == '-' || c == '.' || c == '*' || c == '\\' || c == '$' || Text.isWord c

namespace Token

def quotedValue? (quote : Char) : List Char → Option (List Char × List Char)
  | [] => none
  | c :: rest =>
    if c = quote then
      match rest.dropWhile (· != quote) with
      | _ :: ']' :: after => some (rest.takeWhile (· != quote), after)
      | _ => none
    else none

def bareValue? (s : List Char) : Option (List Char × List Char) :=
  match s.dropWhile (· != ']') with
  | [] => none
  | _ :: after => some (s.takeWhile (· != ']'), after)

def value? (s : List Char) : Option (List Char × List Char) :=
  (quotedValue? '"' s).or ((quotedValue? '\x27' s).or (bareValue? s))

def attribute? (s : List Char) : Option (Token × List Char) :=
  let name := s.takeWhile isAttributeName
  if name.isEmpty then none
  else
    match s.dropWhile isAttributeName with
    | ']' :: after => some (.attribute name [], after)
    | '=' :: rest => (value? rest).map fun r => (.attribute name r.1, r.2)
    | _ => none

def named? (token : List Char → Token) (s : List Char) : Option (Token × List Char) :=
  let name := s.takeWhile isName
  if name.isEmpty then none else some (token name, s.dropWhile isName)

def separator? (s : List Char) : Option (Token × List Char) :=
  match s.dropWhile Text.isBlank with
  | ',' :: rest => some (.separator, rest.dropWhile Text.isBlank)
  | _ => none

def read? (s : List Char) : Option (Token × List Char) :=
  match s with
  | ':' :: 'n' :: 'o' :: 't' :: '(' :: rest => some (.openNegation, rest)
  | '.' :: rest => named? .className rest
  | '#' :: rest => named? .identifier rest
  | '[' :: rest => attribute? rest
  | ')' :: rest => some (.closeNegation, rest)
  | s => (named? .tag s).or (separator? s)

theorem length_dropWhile_le (p : Char → Bool) (s : List Char) :
    (s.dropWhile p).length ≤ s.length :=
  (List.dropWhile_suffix p).length_le

theorem quotedValue?_shorter {q : Char} {s v r : List Char}
    (h : quotedValue? q s = some (v, r)) : r.length < s.length := by
  cases s with
  | nil => simp [quotedValue?] at h
  | cons c rest =>
    simp only [quotedValue?] at h
    split at h
    · split at h
      · rename_i c' after hd
        have := length_dropWhile_le (· != q) rest
        rw [hd] at this
        simp only [Option.some.injEq, Prod.mk.injEq] at h
        obtain ⟨_, rfl⟩ := h
        simp only [List.length_cons] at this ⊢
        omega
      · simp at h
    · simp at h

theorem bareValue?_shorter {s v r : List Char} (h : bareValue? s = some (v, r)) :
    r.length < s.length := by
  simp only [bareValue?] at h
  split at h
  · simp at h
  · rename_i c after hd
    have := length_dropWhile_le (· != ']') s
    rw [hd] at this
    simp only [Option.some.injEq, Prod.mk.injEq] at h
    obtain ⟨_, rfl⟩ := h
    simp only [List.length_cons] at this
    omega

theorem value?_shorter {s v r : List Char} (h : value? s = some (v, r)) :
    r.length < s.length := by
  simp only [value?, Option.or_eq_some_iff] at h
  rcases h with h | ⟨_, h | ⟨_, h⟩⟩
  · exact quotedValue?_shorter h
  · exact quotedValue?_shorter h
  · exact bareValue?_shorter h

theorem attribute?_shorter {s r : List Char} {t : Token} (h : attribute? s = some (t, r)) :
    r.length < s.length := by
  simp only [attribute?] at h
  split at h
  · simp at h
  · have hd := length_dropWhile_le isAttributeName s
    split at h
    · rename_i after ha
      simp only [Option.some.injEq, Prod.mk.injEq] at h
      obtain ⟨_, rfl⟩ := h
      rw [ha] at hd
      simp only [List.length_cons] at hd
      omega
    · rename_i rest ha
      simp only [Option.map_eq_some_iff, Prod.mk.injEq] at h
      obtain ⟨⟨v, r'⟩, hv, _, rfl⟩ := h
      rw [ha] at hd
      have := value?_shorter hv
      simp only [List.length_cons] at hd this ⊢
      omega
    · simp at h

theorem named?_shorter {token : List Char → Token} {s r : List Char} {t : Token}
    (h : named? token s = some (t, r)) : r.length < s.length := by
  simp only [named?] at h
  split at h
  · simp at h
  · rename_i hn
    simp only [Option.some.injEq, Prod.mk.injEq] at h
    obtain ⟨_, rfl⟩ := h
    have := congrArg List.length (List.takeWhile_append_dropWhile (p := isName) (l := s))
    have hp : 0 < (s.takeWhile isName).length := by
      simpa [List.length_pos_iff] using hn
    simp only [List.length_append] at this
    omega

theorem separator?_shorter {s r : List Char} {t : Token} (h : separator? s = some (t, r)) :
    r.length < s.length := by
  simp only [separator?] at h
  split at h
  · rename_i rest hr
    simp only [Option.some.injEq, Prod.mk.injEq] at h
    obtain ⟨_, rfl⟩ := h
    have h1 := length_dropWhile_le Text.isBlank s
    have h2 := length_dropWhile_le Text.isBlank rest
    rw [hr] at h1
    simp only [List.length_cons] at h1
    omega
  · simp at h

theorem read?_shorter {s r : List Char} {t : Token} (h : read? s = some (t, r)) :
    r.length < s.length := by
  unfold read? at h
  split at h
  · simp only [Option.some.injEq, Prod.mk.injEq] at h
    obtain ⟨_, rfl⟩ := h
    simp only [List.length_cons]
    omega
  · have := named?_shorter h
    simp only [List.length_cons]
    omega
  · have := named?_shorter h
    simp only [List.length_cons]
    omega
  · have := attribute?_shorter h
    simp only [List.length_cons]
    omega
  · simp only [Option.some.injEq, Prod.mk.injEq] at h
    obtain ⟨_, rfl⟩ := h
    simp
  · simp only [Option.or_eq_some_iff] at h
    rcases h with h | ⟨_, h⟩
    · exact named?_shorter h
    · exact separator?_shorter h

def scan (s : List Char) : List Token :=
  match s with
  | [] => []
  | c :: rest =>
    match _h : read? (c :: rest) with
    | some (t, after) =>
      t :: scan after
    | none => scan rest
termination_by s.length
decreasing_by
  · exact read?_shorter _h
  · exact Nat.lt_succ_self rest.length

end Token

end TemplateQuery.Selector
