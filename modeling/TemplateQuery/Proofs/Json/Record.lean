import Mathlib.Tactic
import TemplateQuery.Json.Record
import TemplateQuery.OrderedSet

namespace TemplateQuery.Json

variable {α : Type} {read : Json → Option α} {write : α → Json} {n : Nat}

theorem depthOfItems_le_iff {items : List Json} :
    depthOfItems items ≤ n ↔ ∀ j ∈ items, j.depth ≤ n := by
  induction items with
  | nil => simp [depthOfItems]
  | cons j rest ih => simp [depthOfItems, ih]

theorem depthOfMembers_le_iff {members : List (String × Json)} :
    depthOfMembers members ≤ n ↔ ∀ m ∈ members, m.2.depth ≤ n := by
  induction members with
  | nil => simp [depthOfMembers]
  | cons m rest ih =>
    obtain ⟨name, j⟩ := m
    rw [depthOfMembers, max_le_iff, ih, List.forall_mem_cons]

theorem depth_array_le_succ_iff {items : List Json} :
    (array items).depth ≤ n + 1 ↔ ∀ j ∈ items, j.depth ≤ n := by
  rw [depth, Nat.add_le_add_iff_right, depthOfItems_le_iff]

theorem depth_object_le_succ_iff {members : List (String × Json)} :
    (object members).depth ≤ n + 1 ↔ ∀ m ∈ members, m.2.depth ≤ n := by
  rw [depth, Nat.add_le_add_iff_right, depthOfMembers_le_iff]

theorem depth_lt_array {items : List Json} {j : Json} (h : j ∈ items) :
    j.depth < (array items).depth := by
  rw [depth]
  exact Nat.lt_succ_of_le (depth_le_depthOfItems h)

theorem depth_lt_object {members : List (String × Json)} {m : String × Json} (h : m ∈ members) :
    m.2.depth < (object members).depth := by
  rw [depth]
  exact Nat.lt_succ_of_le (depth_le_depthOfMembers h)

section Members

variable {name other : String} {j : Json} {m : String × Json} {held members : List (String × Json)}

theorem lookup_cons :
    (m :: members).lookup name = if name = m.1 then some m.2 else members.lookup name := by
  rw [List.lookup_cons]
  by_cases h : name = m.1
  · simp [h]
  · rw [beq_false_of_ne h, if_neg h]

theorem keys_insertMember :
    (insertMember name j held).map Prod.fst =
      if name ∈ held.map Prod.fst then held.map Prod.fst else held.map Prod.fst ++ [name] := by
  induction held with
  | nil => rfl
  | cons m rest ih =>
    by_cases h : m.1 = name
    · simp [insertMember, h]
    · rw [insertMember, if_neg h, List.map_cons, ih]
      split <;> simp_all [Ne.symm h]

theorem lookup_insertMember :
    (insertMember name j held).lookup other =
      if other = name then some j else held.lookup other := by
  induction held with
  | nil => exact lookup_cons
  | cons m rest ih =>
    by_cases hm : m.1 = name
    · rw [insertMember, if_pos hm, lookup_cons, lookup_cons, hm]
      split <;> rfl
    · rw [insertMember, if_neg hm, lookup_cons, lookup_cons, ih]
      by_cases h : other = m.1
      · rw [if_pos h, if_pos h, if_neg (h ▸ hm)]
      · rw [if_neg h, if_neg h]

theorem insertMember_of_not_mem (h : name ∉ held.map Prod.fst) :
    insertMember name j held = held ++ [(name, j)] := by
  induction held with
  | nil => rfl
  | cons m rest ih =>
    simp only [List.map_cons, List.mem_cons, not_or] at h
    rw [insertMember, if_neg (Ne.symm h.1), ih h.2, List.cons_append]

theorem lastOfEach_append_singleton (members : List (String × Json)) (m : String × Json) :
    lastOfEach (members ++ [m]) = insertMember m.1 m.2 (lastOfEach members) :=
  List.foldl_append

theorem keys_lastOfEach (members : List (String × Json)) :
    (lastOfEach members).map Prod.fst = firstSeen (members.map Prod.fst) := by
  induction members using List.reverseRecOn with
  | nil => rfl
  | append_singleton members m ih =>
    rw [lastOfEach_append_singleton, keys_insertMember, ih, List.map_append, firstSeen_append]
    by_cases h : m.1 ∈ members.map Prod.fst <;> simp_all [firstSeen]

theorem lookup_lastOfEach (members : List (String × Json)) (name : String) :
    (lastOfEach members).lookup name = members.reverse.lookup name := by
  induction members using List.reverseRecOn with
  | nil => rfl
  | append_singleton members m ih =>
    rw [lastOfEach_append_singleton, lookup_insertMember, ih, List.reverse_append,
      List.reverse_singleton, List.singleton_append, lookup_cons]

theorem lastOfEach_eq_self_iff :
    lastOfEach members = members ↔ (members.map Prod.fst).Nodup := by
  constructor
  · intro h
    rw [← h, keys_lastOfEach]
    exact nodup_firstSeen _
  · intro h
    induction members using List.reverseRecOn with
    | nil => rfl
    | append_singleton members m ih =>
      rw [List.map_append, List.nodup_append] at h
      have hm : m.1 ∉ members.map Prod.fst := fun hm => h.2.2 m.1 hm m.1 (by simp) rfl
      rw [lastOfEach_append_singleton, ih h.1, insertMember_of_not_mem hm]

end Members

@[simp] theorem string?_string (s : String) : string? (.string s) = some s := rfl

@[simp] theorem bool?_bool (b : Bool) : bool? (.bool b) = some b := rfl

@[simp] theorem nat?_nat (n : Nat) : nat? (.nat n) = some n := rfl

@[simp] theorem list?_array (items : List Json) :
    list? read (.array items) = decodeAll read items := rfl

theorem list?_list {as : List α} (h : ∀ a ∈ as, read (write a) = some a) :
    list? read (list write as) = some as :=
  decodeAll_map h

@[simp] theorem list?_strings (names : List String) :
    list? string? (list .string names) = some names :=
  list?_list fun _ _ => rfl

theorem nullable?_nullable {o : Option α} (hn : ∀ a ∈ o, write a ≠ .null)
    (h : ∀ a ∈ o, read (write a) = some a) : nullable? read (nullable write o) = some o := by
  cases o with
  | none => rfl
  | some a =>
    have ha : write a ≠ .null := hn a rfl
    rw [nullable]
    unfold nullable?
    split
    · contradiction
    · rw [h a rfl, Option.map_some]

@[simp] theorem nullable?_string (o : Option String) :
    nullable? string? (nullable .string o) = some o :=
  nullable?_nullable (by simp) fun _ _ => rfl

namespace Record

variable {name other : String} {j : Json} {members : List (String × Json)} {default : α}

theorem find?_cons :
    find? ⟨(other, j) :: members⟩ name = if name = other then some j else find? ⟨members⟩ name := by
  rw [find?, lookup_cons, find?]

@[simp] theorem required_cons :
    required ⟨(other, j) :: members⟩ name read =
      if name = other then read j else required ⟨members⟩ name read := by
  rw [required, find?_cons]
  split <;> rfl

@[simp] theorem optional_cons :
    optional ⟨(other, j) :: members⟩ name read default =
      if name = other then read j else optional ⟨members⟩ name read default := by
  rw [optional, find?_cons]
  by_cases h : name = other
  · simp [h]
  · rw [if_neg h, if_neg h, optional]

@[simp] theorem nullable_cons :
    nullable ⟨(other, j) :: members⟩ name read =
      if name = other then nullable? read j else nullable ⟨members⟩ name read := optional_cons

@[simp] theorem nullable_nil : nullable ⟨[]⟩ name read = some none := rfl

end Record

@[simp] theorem record?_object (names : List String) (members : List (String × Json)) :
    record? names (.object members) = some ⟨members⟩ := rfl

end TemplateQuery.Json
