import Mathlib.Tactic
import TemplateQuery.Proofs.Expr.Places

namespace TemplateQuery

variable {r s : List Char}

namespace Literal

def readQuotedAfter (backslash : Bool) : List Char → Option (List Char × List Char)
  | [] => none
  | c :: rest =>
    if backslash then (readQuotedAfter false rest).map fun p => (c :: p.1, p.2)
    else if c = '\\' then readQuotedAfter true rest
    else if c = '\x27' then some ([], rest)
    else (readQuotedAfter false rest).map fun p => (c :: p.1, p.2)

theorem readQuotedAfter_escape (cs r : List Char) :
    readQuotedAfter false (escape cs ++ '\x27' :: r) = some (cs, r) := by
  induction cs with
  | nil => simp [escape, readQuotedAfter]
  | cons c cs ih =>
    rw [escape, List.flatMap_cons, List.append_assoc, ← escape]
    by_cases hc : c = '\\' ∨ c = '\x27'
    · simp [hc, readQuotedAfter, ih]
    · obtain ⟨hb, hq⟩ := not_or.1 hc
      simp [hb, hq, readQuotedAfter, ih]

theorem escape_append_inj {cs ds : List Char}
    (h : escape cs ++ '\x27' :: r = escape ds ++ '\x27' :: s) : cs = ds ∧ r = s := by
  have hr := congrArg (readQuotedAfter false) h
  rw [readQuotedAfter_escape, readQuotedAfter_escape] at hr
  simpa using hr

def isData : Literal → Bool
  | .number _ => false
  | _ => true

theorem chars_append_inj {v w : Literal} (hv : v.isData = true) (hw : w.isData = true)
    (h : v.chars ++ r = w.chars ++ s) : v = w ∧ r = s := by
  cases v with
  | number => cases hv
  | string t =>
    cases w with
    | number => cases hw
    | string u =>
      have ht : t.toList = u.toList ∧ r = s := escape_append_inj (by simpa [chars] using h)
      rwa [String.toList_inj, ← string.injEq] at ht
    | bool b => cases b <;> simp [chars] at h
    | null | undefined => simp [chars] at h
  | bool b =>
    cases w with
    | number => cases hw
    | bool b' => cases b <;> cases b' <;> simp_all [chars]
    | string | null | undefined => cases b <;> simp [chars] at h
  | null =>
    cases w with
    | number => cases hw
    | null => simpa [chars] using h
    | bool b => cases b <;> simp [chars] at h
    | string | undefined => simp [chars] at h
  | undefined =>
    cases w with
    | number => cases hw
    | undefined => simpa [chars] using h
    | bool b => cases b <;> simp [chars] at h
    | string | null => simp [chars] at h

theorem exists_chars_eq_cons {v : Literal} (hv : v.isData = true) :
    ∃ c cs, v.chars = c :: cs ∧ c ∈ ['\x27', 't', 'f', 'n', 'u'] := by
  cases v with
  | number => cases hv
  | bool b => cases b <;> simp [chars]
  | string | null | undefined => simp [chars]

end Literal

namespace MapKey

def closing : List Char := ['"', ':', ' ']

def IsClear (k : MapKey) : Prop :=
  ¬ closing <:+: k.key.toList

instance : DecidablePred IsClear := fun _ => inferInstanceAs (Decidable (¬ _))

-- The first `closing` stands where the key ends: it does not overlap itself.
theorem eq_nil_of_closing {k : List Char} (hk : ¬ closing <:+: k)
    (h : closing ++ r = k ++ closing ++ s) : k = [] := by
  match k with
  | [] => rfl
  | [a] => simp [closing] at h
  | [a, b] => simp [closing] at h
  | a :: b :: c :: k =>
    obtain ⟨rfl, rfl, rfl, -⟩ : '"' = a ∧ ':' = b ∧ ' ' = c ∧ r = k ++ closing ++ s := by
      simpa [closing] using h
    exact absurd ⟨[], k, rfl⟩ hk

theorem closing_append_inj {k l : List Char} (hk : ¬ closing <:+: k) (hl : ¬ closing <:+: l)
    (h : k ++ closing ++ r = l ++ closing ++ s) : k = l ∧ r = s := by
  rw [List.append_assoc, List.append_assoc, List.append_eq_append_iff] at h
  rcases h with ⟨m, rfl, h⟩ | ⟨m, rfl, h⟩
  · have hm : m = [] := by
      refine eq_nil_of_closing (fun hm => hl ?_) (h.trans (List.append_assoc ..).symm)
      exact List.infix_append_of_infix_right hm
    subst hm
    exact ⟨(List.append_nil k).symm, List.append_cancel_left h⟩
  · have hm : m = [] := by
      refine eq_nil_of_closing (fun hm => hk ?_) (h.trans (List.append_assoc ..).symm)
      exact List.infix_append_of_infix_right hm
    subst hm
    exact ⟨List.append_nil l, (List.append_cancel_left h).symm⟩

end MapKey

section Joined

variable {α β : Type} {write : α → List Char} {shape : α → β} {as bs : List α} {close : Char}

theorem intercalate_cons_eq (separator x : List Char) (xs : List (List Char)) :
    separator.intercalate (x :: xs) = x ++ xs.flatMap (separator ++ ·) := by
  induction xs generalizing x with
  | nil => simp
  | cons y ys ih =>
    rw [List.intercalate_cons_cons, ih, List.flatMap_cons, List.append_assoc, List.append_assoc]

theorem flatMap_append_inj (hc : close ≠ ',')
    (hi : ∀ a ∈ as, ∀ b ∈ bs, ∀ r s, write a ++ r = write b ++ s → shape a = shape b ∧ r = s)
    (h : as.flatMap ([',', ' '] ++ write ·) ++ close :: r =
      bs.flatMap ([',', ' '] ++ write ·) ++ close :: s) :
    as.map shape = bs.map shape ∧ r = s := by
  induction as generalizing bs with
  | nil =>
    cases bs with
    | nil => simpa using h
    | cons b bs => simp [hc] at h
  | cons a as ih =>
    cases bs with
    | nil => simp [hc.symm] at h
    | cons b bs =>
      have hw : write a ++ (as.flatMap ([',', ' '] ++ write ·) ++ close :: r) =
          write b ++ (bs.flatMap ([',', ' '] ++ write ·) ++ close :: s) := by
        simpa using h
      obtain ⟨hs, hr⟩ := hi a (by simp) b (by simp) _ _ hw
      obtain ⟨hm, rfl⟩ := ih (fun a ha b hb => hi a (by simp [ha]) b (by simp [hb])) hr
      exact ⟨by rw [List.map_cons, List.map_cons, hs, hm], rfl⟩

theorem intercalate_append_inj (hc : close ≠ ',')
    (ha : ∀ a ∈ as, ∃ c cs, write a = c :: cs ∧ c ≠ close)
    (hb : ∀ b ∈ bs, ∃ c cs, write b = c :: cs ∧ c ≠ close)
    (hi : ∀ a ∈ as, ∀ b ∈ bs, ∀ r s, write a ++ r = write b ++ s → shape a = shape b ∧ r = s)
    (h : [',', ' '].intercalate (as.map write) ++ close :: r =
      [',', ' '].intercalate (bs.map write) ++ close :: s) :
    as.map shape = bs.map shape ∧ r = s := by
  cases as with
  | nil =>
    cases bs with
    | nil => simpa using h
    | cons b bs =>
      obtain ⟨c, cs, hw, hne⟩ := hb b (by simp)
      rw [List.map_cons, intercalate_cons_eq, hw] at h
      simp [hne.symm] at h
  | cons a as =>
    cases bs with
    | nil =>
      obtain ⟨c, cs, hw, hne⟩ := ha a (by simp)
      rw [List.map_cons, intercalate_cons_eq, hw] at h
      simp [hne] at h
    | cons b bs =>
      simp only [List.map_cons, intercalate_cons_eq, List.append_assoc, List.flatMap_map] at h
      obtain ⟨hs, hr⟩ := hi a (by simp) b (by simp) _ _ h
      have hi' : ∀ a ∈ as, ∀ b ∈ bs, ∀ r s, write a ++ r = write b ++ s →
          shape a = shape b ∧ r = s := fun a ha b hb => hi a (by simp [ha]) b (by simp [hb])
      obtain ⟨hm, rfl⟩ := flatMap_append_inj hc hi' hr
      exact ⟨by rw [List.map_cons, List.map_cons, hs, hm], rfl⟩

end Joined

namespace Expr

def isDatum : Expr → Bool
  | .literalPrimitive _ v => v.isData
  | .literalArray _ _ => true
  | .literalMap _ keys values => keys.all (·.quoted) && keys.length == values.length
  | _ => false

def IsData (e : Expr) : Prop :=
  ∀ x ∈ e.walk, x.isDatum = true

def mapKeys : Expr → List MapKey
  | .literalMap _ keys _ => keys
  | _ => []

def HasClearKeys (e : Expr) : Prop :=
  ∀ x ∈ e.walk, ∀ k ∈ x.mapKeys, k.IsClear

instance : DecidablePred IsData := fun e =>
  inferInstanceAs (Decidable (∀ x ∈ e.walk, x.isDatum = true))

instance : DecidablePred HasClearKeys := fun e =>
  inferInstanceAs (Decidable (∀ x ∈ e.walk, ∀ k ∈ x.mapKeys, k.IsClear))

variable {a b c e : Expr}

theorem IsData.of_mem_children (h : e.IsData) (hc : c ∈ e.children) : c.IsData :=
  fun x hx => h x (mem_walk_of_mem_children hc hx)

theorem HasClearKeys.of_mem_children (h : e.HasClearKeys) (hc : c ∈ e.children) :
    c.HasClearKeys :=
  fun x hx => h x (mem_walk_of_mem_children hc hx)

theorem IsData.form (h : e.IsData) :
    (∃ p v, e = .literalPrimitive p v ∧ v.isData = true) ∨ (∃ p es, e = .literalArray p es) ∨
      ∃ p keys values, e = .literalMap p keys values ∧ (∀ k ∈ keys, k.quoted = true) ∧
        keys.length = values.length := by
  have hd := h e (mem_walk_self e)
  cases e with
  | literalPrimitive p v => exact .inl ⟨p, v, rfl, hd⟩
  | literalArray p es => exact .inr (.inl ⟨p, es, rfl⟩)
  | literalMap p keys values =>
    exact .inr (.inr ⟨p, keys, values, rfl, by simpa [isDatum] using hd⟩)
  | _ => cases hd

theorem chars_literalArray (p : Place) (es : List Expr) (r : List Char) :
    (literalArray p es).chars ++ r =
      '[' :: ([',', ' '].intercalate (es.map chars) ++ ']' :: r) := by
  rw [chars, separated_eq]
  simp

theorem chars_literalMap (p : Place) (keys : List MapKey) (values : List Expr) (r : List Char) :
    (literalMap p keys values).chars ++ r =
      '\x7b' :: ([',', ' '].intercalate ((keys.zip values).map entryChars) ++ '\x7d' :: r) := by
  rw [chars, entries_eq]
  simp

theorem exists_chars_eq_cons (h : e.IsData) :
    ∃ c cs, e.chars = c :: cs ∧ c ∈ ['\x27', 't', 'f', 'n', 'u', '[', '\x7b'] := by
  rcases h.form with ⟨p, v, rfl, hv⟩ | ⟨p, es, rfl⟩ | ⟨p, keys, values, rfl, -, -⟩
  · obtain ⟨c, cs, hc, hm⟩ := Literal.exists_chars_eq_cons hv
    exact ⟨c, cs, by rw [chars, hc], List.mem_append_left ['[', '\x7b'] hm⟩
  · exact ⟨'[', _, by rw [chars, List.cons_append], by simp⟩
  · exact ⟨'\x7b', _, by rw [chars, List.cons_append], by simp⟩

theorem entryChars_eq {m : MapKey × Expr} (hq : m.1.quoted = true) (r : List Char) :
    entryChars m ++ r = '"' :: (m.1.key.toList ++ MapKey.closing ++ (m.2.chars ++ r)) := by
  simp [entryChars, MapKey.chars, hq, MapKey.closing]

theorem ne_of_exists_chars_eq_cons {v : Literal} {d : Char} {x y : List Char}
    (hv : v.isData = true) (hd : d ∉ ['\x27', 't', 'f', 'n', 'u']) : v.chars ++ x ≠ d :: y := by
  obtain ⟨c, cs, hc, hm⟩ := Literal.exists_chars_eq_cons hv
  rw [hc]
  rintro ⟨⟩
  exact hd hm

theorem zip_eq_of_map_eq {ks ls : List MapKey} {es fs : List Expr} (he : ks.length = es.length)
    (hf : ls.length = fs.length)
    (h : (ks.zip es).map (Prod.map id withoutPlaces) =
      (ls.zip fs).map (Prod.map id withoutPlaces)) :
    ks = ls ∧ es.map withoutPlaces = fs.map withoutPlaces := by
  rw [← List.zip_map_right, ← List.zip_map_right] at h
  have h₁ := congrArg (List.map Prod.fst) h
  have h₂ := congrArg (List.map Prod.snd) h
  rw [List.map_fst_zip (by simp [he]), List.map_fst_zip (by simp [hf])] at h₁
  rw [List.map_snd_zip (by simp [he]), List.map_snd_zip (by simp [hf])] at h₂
  exact ⟨h₁, h₂⟩

def ToldApart (es fs : List Expr) : Prop :=
  ∀ c ∈ es, ∀ d ∈ fs, ∀ r s, c.chars ++ r = d.chars ++ s →
    c.withoutPlaces = d.withoutPlaces ∧ r = s

theorem items_append_inj {es fs : List Expr} {r s : List Char} (hi : ToldApart es fs)
    (he : ∀ e ∈ es, e.IsData) (hf : ∀ f ∈ fs, f.IsData)
    (h : [',', ' '].intercalate (es.map chars) ++ ']' :: r =
      [',', ' '].intercalate (fs.map chars) ++ ']' :: s) :
    es.map withoutPlaces = fs.map withoutPlaces ∧ r = s := by
  have hc : ∀ {e : Expr}, e.IsData → ∃ c cs, e.chars = c :: cs ∧ c ≠ ']' := by
    intro e he
    obtain ⟨c, cs, hc, hm⟩ := exists_chars_eq_cons he
    exact ⟨c, cs, hc, fun hb => absurd (hb ▸ hm) (by decide)⟩
  exact intercalate_append_inj (by decide) (fun e hm => hc (he e hm)) (fun f hm => hc (hf f hm))
    hi h

theorem entries_append_inj {ks ls : List MapKey} {es fs : List Expr} {r s : List Char}
    (hi : ToldApart es fs) (hq : ∀ k ∈ ks, k.quoted = true ∧ k.IsClear)
    (hq' : ∀ l ∈ ls, l.quoted = true ∧ l.IsClear) (hl : ks.length = es.length)
    (hl' : ls.length = fs.length)
    (h : [',', ' '].intercalate ((ks.zip es).map entryChars) ++ '\x7d' :: r =
      [',', ' '].intercalate ((ls.zip fs).map entryChars) ++ '\x7d' :: s) :
    (ks = ls ∧ es.map withoutPlaces = fs.map withoutPlaces) ∧ r = s := by
  have hc : ∀ {m : MapKey × Expr}, m.1.quoted = true →
      ∃ c cs, entryChars m = c :: cs ∧ c ≠ '\x7d' := by
    intro m hm
    refine ⟨'"', m.1.key.toList ++ MapKey.closing ++ m.2.chars, ?_, by decide⟩
    simpa using entryChars_eq hm []
  have hm : ∀ m ∈ ks.zip es, ∀ n ∈ ls.zip fs, ∀ r s, entryChars m ++ r = entryChars n ++ s →
      Prod.map id withoutPlaces m = Prod.map id withoutPlaces n ∧ r = s := by
    rintro ⟨⟨k, q⟩, e⟩ hm ⟨⟨l, q'⟩, f⟩ hn r s h
    obtain ⟨hk, he⟩ := List.of_mem_zip hm
    obtain ⟨hl, hf⟩ := List.of_mem_zip hn
    obtain ⟨rfl, hkc⟩ : q = true ∧ _ := hq _ hk
    obtain ⟨rfl, hlc⟩ : q' = true ∧ _ := hq' _ hl
    rw [entryChars_eq rfl, entryChars_eq rfl, List.cons_inj_right] at h
    obtain ⟨hkey, hv⟩ := MapKey.closing_append_inj hkc hlc h
    obtain rfl : k = l := String.toList_inj.1 hkey
    obtain ⟨hef, hr⟩ := hi e he f hf r s hv
    exact ⟨by simp [hef], hr⟩
  have hz := intercalate_append_inj (by decide)
    (fun m hm => hc (hq m.1 (List.of_mem_zip hm).1).1)
    (fun n hn => hc (hq' n.1 (List.of_mem_zip hn).1).1) hm h
  exact ⟨zip_eq_of_map_eq hl hl' hz.1, hz.2⟩

theorem exists_eq_literalPrimitive {v : Literal} {r s : List Char} (hb : b.IsData)
    (hv : v.isData = true) (h : v.chars ++ r = b.chars ++ s) :
    ∃ p, b = .literalPrimitive p v ∧ r = s := by
  rcases hb.form with ⟨p, w, rfl, hw⟩ | ⟨p, fs, rfl⟩ | ⟨p, ls, fs, rfl, -, -⟩
  · rw [chars] at h
    obtain ⟨rfl, hr⟩ := Literal.chars_append_inj hv hw h
    exact ⟨p, rfl, hr⟩
  · rw [chars_literalArray] at h
    exact absurd h (ne_of_exists_chars_eq_cons hv (by decide))
  · rw [chars_literalMap] at h
    exact absurd h (ne_of_exists_chars_eq_cons hv (by decide))

theorem exists_eq_literalArray {s x : List Char} (hb : b.IsData) (h : '[' :: x = b.chars ++ s) :
    ∃ p fs, b = .literalArray p fs ∧ x = [',', ' '].intercalate (fs.map chars) ++ ']' :: s := by
  rcases hb.form with ⟨p, w, rfl, hw⟩ | ⟨p, fs, rfl⟩ | ⟨p, ls, fs, rfl, -, -⟩
  · rw [chars] at h
    exact absurd h.symm (ne_of_exists_chars_eq_cons hw (by decide))
  · rw [chars_literalArray, List.cons_inj_right] at h
    exact ⟨p, fs, rfl, h⟩
  · rw [chars_literalMap] at h
    simp at h

theorem exists_eq_literalMap {s x : List Char} (hb : b.IsData) (h : '\x7b' :: x = b.chars ++ s) :
    ∃ p ls fs, b = .literalMap p ls fs ∧ (∀ l ∈ ls, l.quoted = true) ∧ ls.length = fs.length ∧
      x = [',', ' '].intercalate ((ls.zip fs).map entryChars) ++ '\x7d' :: s := by
  rcases hb.form with ⟨p, w, rfl, hw⟩ | ⟨p, fs, rfl⟩ | ⟨p, ls, fs, rfl, hq, hl⟩
  · rw [chars] at h
    exact absurd h.symm (ne_of_exists_chars_eq_cons hw (by decide))
  · rw [chars_literalArray] at h
    simp at h
  · rw [chars_literalMap, List.cons_inj_right] at h
    exact ⟨p, ls, fs, rfl, hq, hl, h⟩

theorem HasClearKeys.isClear {p : Place} {ks : List MapKey} {es : List Expr} {k : MapKey}
    (h : (literalMap p ks es).HasClearKeys) (hk : k ∈ ks) : k.IsClear :=
  h _ (mem_walk_self _) k hk

-- From the parts to the whole: what follows an item is the rest of the list it stands in.
theorem chars_append_inj {r s : List Char} (ha : a.IsData) (hb : b.IsData) (hka : a.HasClearKeys)
    (hkb : b.HasClearKeys) (h : a.chars ++ r = b.chars ++ s) :
    a.withoutPlaces = b.withoutPlaces ∧ r = s := by
  induction a using induction_children generalizing b r s with
  | step a ih =>
    have hi : ToldApart a.children b.children := fun c hc d hd r s hcd =>
      ih c hc (ha.of_mem_children hc) (hb.of_mem_children hd) (hka.of_mem_children hc)
        (hkb.of_mem_children hd) hcd
    rcases ha.form with ⟨p, v, rfl, hv⟩ | ⟨p, es, rfl⟩ | ⟨p, ks, es, rfl, hq, hl⟩
    · rw [chars] at h
      obtain ⟨p', rfl, hr⟩ := exists_eq_literalPrimitive hb hv h
      exact ⟨rfl, hr⟩
    · rw [chars_literalArray] at h
      obtain ⟨p', fs, rfl, hx⟩ := exists_eq_literalArray hb h
      have hi : ToldApart es fs := hi
      obtain ⟨hm, hr⟩ := items_append_inj hi (fun e he => ha.of_mem_children he)
        (fun f hf => hb.of_mem_children hf) hx
      rw [withoutPlaces, withoutPlaces, allWithoutPlaces_eq_map, allWithoutPlaces_eq_map, hm]
      exact ⟨rfl, hr⟩
    · rw [chars_literalMap] at h
      obtain ⟨p', ls, fs, rfl, hq', hl', hx⟩ := exists_eq_literalMap hb h
      have hi : ToldApart es fs := hi
      obtain ⟨⟨rfl, hm⟩, hr⟩ := entries_append_inj hi (fun k hk => ⟨hq k hk, hka.isClear hk⟩)
        (fun k hk => ⟨hq' k hk, hkb.isClear hk⟩) hl hl' hx
      rw [withoutPlaces, withoutPlaces, allWithoutPlaces_eq_map, allWithoutPlaces_eq_map, hm]
      exact ⟨rfl, hr⟩

theorem data_text_eq_iff (ha : a.IsData) (hb : b.IsData) (hka : a.HasClearKeys)
    (hkb : b.HasClearKeys) : a.text = b.text ↔ a.withoutPlaces = b.withoutPlaces := by
  constructor
  · intro h
    have hc : a.chars = b.chars := by rw [← toList_text, h, toList_text]
    exact (chars_append_inj (r := []) (s := []) ha hb hka hkb (by rw [hc])).1
  · intro h
    rw [← text_withoutPlaces a, h, text_withoutPlaces]

theorem data_text_eq_iff_nested :
    ∃ a b c : Expr, (a.IsData ∧ a.HasClearKeys) ∧ (b.IsData ∧ b.HasClearKeys) ∧
      (c.IsData ∧ c.HasClearKeys) ∧ a.text = "['x\\', \\'y', \x7b\"k\", \"l\": true\x7d]" ∧
      a.text = b.text ∧ a.withoutPlaces = b.withoutPlaces ∧
      a.withoutPlaces ≠ c.withoutPlaces ∧ a.text ≠ c.text := by
  let string (s : String) : Expr := .literalPrimitive {} (.string s)
  let object (p : Place) : Expr :=
    .literalMap p [⟨"k\", \"l", true⟩] [.literalPrimitive {} (.bool true)]
  let a : Expr := .literalArray {} [string "x', 'y", object {}]
  let b : Expr := .literalArray {} [string "x', 'y", object ⟨⟨1, 2⟩, ⟨3, 4⟩⟩]
  let c : Expr := .literalArray {} [string "x", string "y", object {}]
  have ha : a.IsData ∧ a.HasClearKeys := by decide +kernel
  have hb : b.IsData ∧ b.HasClearKeys := by decide +kernel
  have hc : c.IsData ∧ c.HasClearKeys := by decide +kernel
  have hab : a.text = b.text := by decide +kernel
  have hac : a.withoutPlaces ≠ c.withoutPlaces := by
    simp [a, c, withoutPlaces, allWithoutPlaces_eq_map]
  refine ⟨a, b, c, ha, hb, hc, by decide +kernel, hab, ?_, hac, ?_⟩
  · exact (data_text_eq_iff ha.1 hb.1 ha.2 hb.2).1 hab
  · exact fun h => hac ((data_text_eq_iff ha.1 hc.1 ha.2 hc.2).1 h)

theorem data_text_ambiguous :
    ∃ a b : Expr, a.IsData ∧ b.IsData ∧ a.withoutPlaces ≠ b.withoutPlaces ∧
      a.text = "\x7b\"a\": null, \"b\": null\x7d" ∧ b.text = a.text := by
  let null : Expr := .literalPrimitive {} .null
  let a : Expr := .literalMap {} [⟨"a", true⟩, ⟨"b", true⟩] [null, null]
  let b : Expr := .literalMap {} [⟨"a\": null, \"b", true⟩] [null]
  refine ⟨a, b, by decide +kernel, by decide +kernel, ?_, by decide +kernel, by decide +kernel⟩
  intro h
  simp [a, b, withoutPlaces] at h

end Expr

end TemplateQuery
