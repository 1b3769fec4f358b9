import Mathlib.Tactic
import TemplateQuery.Files.Resolve
import TemplateQuery.Proofs.Files.Order

namespace TemplateQuery

theorem exists_allOrError_map_eq_error_iff {ε α β : Type} {f : α → Except ε β} {as : List α} :
    (∃ e, allOrError (as.map f) = .error e) ↔ ∃ a ∈ as, ∃ e, f a = .error e := by
  induction as with
  | nil => simp [allOrError]
  | cons a rest ih =>
    cases h : f a with
    | error e => simp [allOrError, h]
    | ok b =>
      rw [List.exists_mem_cons_iff, ← ih]
      cases hr : allOrError (rest.map f) <;> simp [allOrError, h, hr]

namespace Path

theorem distinct_ne_nil {ps : List Path} (h : ps ≠ []) : distinct ps ≠ [] := by
  cases ps with
  | nil => contradiction
  | cons p rest => simp [distinct]

def IsText (p : Path) : Prop :=
  p.name = .ofString p.text

theorem eq_of_text {p q : Path} (hp : p.IsText) (hq : q.IsText) (h : p.text = q.text) : p = q := by
  have hname : p.name = q.name := by
    rw [IsText] at hp hq
    rw [hp, hq, h]
  exact congrArg Path.mk hname

end Path

namespace FileSystem

variable {fs : FileSystem} {arguments : List String} {paths : List Path}

theorem ne_nil_of_pathsOf {argument : String} (h : fs.pathsOf argument = .ok paths) :
    paths ≠ [] := by
  rw [pathsOf] at h
  split at h
  · rw [expand] at h
    split at h
    · contradiction
    · split at h
      · contradiction
      · cases hf : List.filter fs.isFile _ with
        | nil =>
          rw [hf] at h
          contradiction
        | cons p files =>
          rw [hf] at h
          obtain rfl := Except.ok.inj h
          intro hs
          have hl : (Path.sort (p :: files)).length = (p :: files).length :=
            List.length_mergeSort ..
          rw [hs] at hl
          contradiction
  · obtain rfl := Except.ok.inj h
    simp

theorem resolve_eq_ok_iff :
    fs.resolve arguments = .ok paths ↔
      ∃ reached : List (List Path),
        arguments.map fs.pathsOf = reached.map .ok ∧ paths = Path.distinct reached.flatten := by
  rw [resolve]
  constructor
  · intro h
    cases hr : allOrError (arguments.map fs.pathsOf) with
    | error e =>
      rw [hr] at h
      contradiction
    | ok reached =>
      rw [hr] at h
      exact ⟨reached, allOrError_eq_ok_iff.1 hr, (Except.ok.inj h).symm⟩
  · rintro ⟨reached, hr, rfl⟩
    rw [allOrError_eq_ok_iff.2 hr]
    rfl

theorem exists_resolve_eq_error_iff :
    (∃ e, fs.resolve arguments = .error e) ↔ ∃ a ∈ arguments, ∃ e, fs.pathsOf a = .error e := by
  have hr : (∃ e, fs.resolve arguments = .error e) ↔
      ∃ e, allOrError (arguments.map fs.pathsOf) = .error e := by
    rw [resolve]
    cases allOrError (arguments.map fs.pathsOf) <;> simp [Except.map]
  rw [hr, exists_allOrError_map_eq_error_iff]

theorem ne_nil_of_resolve (ha : arguments ≠ []) (h : fs.resolve arguments = .ok paths) :
    paths ≠ [] := by
  obtain ⟨reached, hr, rfl⟩ := resolve_eq_ok_iff.1 h
  refine Path.distinct_ne_nil ?_
  obtain ⟨a, rest, rfl⟩ := List.exists_cons_of_ne_nil ha
  cases reached with
  | nil => simp at hr
  | cons ps reached =>
    simp only [List.map_cons, List.cons.injEq] at hr
    have hp : ps ≠ [] := ne_nil_of_pathsOf hr.1
    simp [hp]

theorem nodup_components_of_resolve (h : fs.resolve arguments = .ok paths) :
    (paths.map Path.components).Nodup := by
  obtain ⟨reached, -, rfl⟩ := resolve_eq_ok_iff.1 h
  exact List.pairwise_map.2 (Path.pairwise_distinct _)

theorem nodup_text_of_resolve (h : fs.resolve arguments = .ok paths)
    (ht : ∀ p ∈ paths, p.IsText) : (paths.map Path.text).Nodup := by
  refine List.pairwise_map.2 ((List.pairwise_map.1 (nodup_components_of_resolve h)).imp_of_mem ?_)
  intro p q hp hq hne he
  exact hne (congrArg Path.components (Path.eq_of_text (ht p hp) (ht q hq) he))

theorem resolve_plain {argument : String} (h : hasWildcard argument = false) :
    fs.resolve [argument] = .ok [⟨argument⟩] := by
  refine resolve_eq_ok_iff.2 ⟨[[⟨argument⟩]], ?_, rfl⟩
  simp [pathsOf, h]

end FileSystem

end TemplateQuery
