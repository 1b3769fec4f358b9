import Mathlib.Tactic
import TemplateQuery.Proofs.Files.Order
import TemplateQuery.Proofs.Files.Resolve

namespace TemplateQuery

theorem allOrError_eq_error_iff {ε α : Type} {results : List (Except ε α)} {e : ε} :
    allOrError results = .error e ↔
      ∃ (as : List α) (rest : List (Except ε α)), results = as.map .ok ++ .error e :: rest := by
  constructor
  · intro h
    induction results with
    | nil => contradiction
    | cons r results ih =>
      cases r with
      | error e' =>
        obtain rfl : e' = e := Except.error.inj h
        exact ⟨[], results, rfl⟩
      | ok a =>
        rw [allOrError] at h
        cases hr : allOrError results with
        | ok as =>
          rw [hr] at h
          contradiction
        | error e' =>
          rw [hr] at h
          obtain rfl : e' = e := Except.error.inj h
          obtain ⟨as, rest, rfl⟩ := ih hr
          exact ⟨a :: as, rest, rfl⟩
  · rintro ⟨as, rest, rfl⟩
    rw [allOrError_append, allOrError_eq_ok_iff.2 rfl]
    rfl

theorem allOrError_map {ε α β : Type} {f : α → Except ε β} {g : α → β} {as : List α}
    (h : ∀ a ∈ as, f a = .ok (g a)) : allOrError (as.map f) = .ok (as.map g) := by
  rw [allOrError_eq_ok_iff, List.map_map]
  exact List.map_congr_left h

theorem inNameOrder_of_pairwise {α : Type} {groups : List (RawText × List α)}
    (h : groups.Pairwise fun a b => a.1.bytes ≤ b.1.bytes) :
    inNameOrder groups = groups.flatMap (·.2) := by
  rw [inNameOrder, List.mergeSort_of_pairwise (by simpa using h)]

namespace Path

variable {ps qs rs : List Path}

theorem sort_of_pairwise (h : ps.Pairwise fun p q => p.le q = true) : sort ps = ps :=
  List.mergeSort_of_pairwise h

theorem distinct_append_of_subset (h : ∀ q ∈ qs, q.components ∈ ps.map components) :
    distinct (ps ++ qs ++ rs) = distinct (ps ++ rs) := by
  have hq : (distinct qs).filter (fun q => q.components ∉ ps.map components) = [] := by
    rw [List.filter_eq_nil_iff]
    intro q hq
    simpa using h q ((distinct_sublist qs).subset hq)
  have hr : ∀ r : Path, r.components ∈ (ps ++ qs).map components ↔
      r.components ∈ ps.map components := by
    intro r
    rw [List.map_append, List.mem_append, or_iff_left_of_imp]
    intro hr
    obtain ⟨q, hq, he⟩ := List.mem_map.1 hr
    exact he ▸ h q hq
  rw [distinct_append, distinct_append ps, distinct_append ps, hq, List.append_nil]
  simp only [hr]

end Path

namespace FileSystem

theorem select_entries (pattern : List Glob.Token) (names : List RawText) :
    select pattern (fun p => [.ok p]) (names.map fun name => .ok ⟨name, ⟨name⟩⟩) =
      (names.filter fun name => name.text?.any (Glob.accepts pattern)).map fun name =>
        .ok ⟨name⟩ := by
  induction names with
  | nil => rfl
  | cons name rest ih =>
    rw [select] at ih ⊢
    rw [List.map_cons, List.flatMap_cons, ih]
    cases h : name.text?.any (Glob.accepts pattern) <;> simp [h]

theorem matching_entry {fs : FileSystem} {es : List (RawText × Tree)} {pattern : List Glob.Token}
    (hr : fs.find? .current = .ok (.directory es))
    (hs : es.Pairwise fun a b => a.1.bytes ≤ b.1.bytes)
    (hd : pattern.head? ≠ some (.char '.')) :
    fs.matching ⟨false, [.entry pattern], false⟩ =
      ((es.map Prod.fst).filter fun name => name.text?.any (Glob.accepts pattern)).map
        fun name => .ok ⟨name⟩ := by
  have hentries : fs.entries .current pattern =
      (es.map Prod.fst).map fun name => .ok ⟨name, ⟨name⟩⟩ := by
    rw [entries, hr]
    simp only
    rw [dots, if_neg hd, Tree.entries, inNameOrder_of_pairwise (List.pairwise_map.2 hs),
      List.nil_append, List.flatMap_map, List.map_map]
    exact (List.map_eq_flatMap ..).symm
  have hsearch : fs.search [.entry pattern] .current =
      ((es.map Prod.fst).filter fun name => name.text?.any (Glob.accepts pattern)).map
        fun name => .ok ⟨name⟩ := by
    rw [search, hentries]
    exact select_entries pattern _
  rw [matching]
  simp only [Bool.false_eq_true, if_false, hsearch]
  refine List.filter_eq_self.2 fun r _ => ?_
  cases r <;> rfl

inductive Fault (fs : FileSystem) (argument : String) : Failure → Prop
  | pattern {fault} (hw : hasWildcard argument = true)
    (hp : Glob.Plan.ofText argument = .error fault) :
    Fault fs argument (.invalidPattern argument fault)
  | directory {plan} {before : List Path} {e after} (hw : hasWildcard argument = true)
    (hp : Glob.Plan.ofText argument = .ok plan)
    (hm : fs.matching plan = before.map .ok ++ .error e :: after) :
    Fault fs argument (.unreadableDirectory argument e.directory e.error)
  | nothing {plan} {found : List Path} (hw : hasWildcard argument = true)
    (hp : Glob.Plan.ofText argument = .ok plan) (hm : fs.matching plan = found.map .ok)
    (hf : ∀ p ∈ found, fs.isFile p = false) : Fault fs argument (.noMatch argument)

def reached (fs : FileSystem) (argument : String) : List Path :=
  if hasWildcard argument then
    match Glob.Plan.ofText argument with
    | .ok plan => ((fs.matching plan).filterMap Except.toOption).filter fs.isFile
    | .error _ => []
  else [⟨argument⟩]

def firstReach (fs : FileSystem) (arguments : List String) (p : Path) : Nat :=
  arguments.findIdx fun a => (fs.reached a).any (·.components = p.components)

structure IsResolution (fs : FileSystem) (arguments : List String) (paths : List Path) : Prop where
  distinct : paths.Pairwise fun p q => p.components ≠ q.components
  complete : ∀ a ∈ arguments, ∀ p ∈ fs.reached a, ∃ q ∈ paths, q.components = p.components
  spelled : ∀ q ∈ paths,
    (arguments.flatMap fs.reached).find? (·.components = q.components) = some q
  inOrder : paths.Pairwise fun p q =>
    fs.firstReach arguments p < fs.firstReach arguments q ∨
      fs.firstReach arguments p = fs.firstReach arguments q ∧ p.le q = true

variable {fs : FileSystem} {argument : String} {arguments : List String} {p : Path}
variable {paths : List Path} {e : Failure}

theorem reached_of_matching {plan : Glob.Plan} {found : List Path}
    (hw : hasWildcard argument = true) (hp : Glob.Plan.ofText argument = .ok plan)
    (hm : fs.matching plan = found.map .ok) : fs.reached argument = found.filter fs.isFile := by
  rw [reached, if_pos hw, hp]
  simp only [hm, List.filterMap_map]
  congr 1
  exact List.filterMap_some

theorem pathsOf_of_matching {plan : Glob.Plan} {found files : List Path}
    (hw : hasWildcard argument = true) (hp : Glob.Plan.ofText argument = .ok plan)
    (hm : fs.matching plan = found.map .ok) (hf : found.filter fs.isFile = files)
    (hn : files ≠ []) : fs.pathsOf argument = .ok (Path.sort files) := by
  rw [pathsOf, if_pos hw, expand, hp]
  simp only
  rw [allOrError_eq_ok_iff.2 hm]
  simp only
  rw [hf]
  cases files with
  | nil => contradiction
  | cons p rest => rfl

theorem pathsOf_of_fault (h : fs.Fault argument e) : fs.pathsOf argument = .error e := by
  cases h with
  | pattern hw hp => simp [pathsOf, expand, hw, hp]
  | directory hw hp hm =>
    simp [pathsOf, expand, hw, hp, allOrError_eq_error_iff.2 ⟨_, _, hm⟩]
  | @nothing plan found hw hp hm hf =>
    have hn : found.filter fs.isFile = [] := by simpa [List.filter_eq_nil_iff] using hf
    simp [pathsOf, expand, hw, hp, allOrError_eq_ok_iff.2 hm, hn]

theorem pathsOf_cases (fs : FileSystem) (argument : String) :
    (∃ e, fs.Fault argument e) ∨ fs.pathsOf argument = .ok (Path.sort (fs.reached argument)) := by
  cases hw : hasWildcard argument with
  | false => exact .inr (by simp [pathsOf, reached, hw, Path.sort])
  | true =>
    cases hp : Glob.Plan.ofText argument with
    | error fault => exact .inl ⟨_, .pattern hw hp⟩
    | ok plan =>
      cases hm : allOrError (fs.matching plan) with
      | error e =>
        obtain ⟨before, after, hm⟩ := allOrError_eq_error_iff.1 hm
        exact .inl ⟨_, .directory hw hp hm⟩
      | ok found =>
        have hall : fs.matching plan = found.map .ok := allOrError_eq_ok_iff.1 hm
        by_cases hf : found.filter fs.isFile = []
        · refine .inl ⟨_, .nothing hw hp hall ?_⟩
          simpa [List.filter_eq_nil_iff] using hf
        · rw [reached_of_matching hw hp hall]
          exact .inr (pathsOf_of_matching hw hp hall rfl hf)

theorem pathsOf_eq_error_iff : fs.pathsOf argument = .error e ↔ fs.Fault argument e := by
  refine ⟨fun h => ?_, pathsOf_of_fault⟩
  rcases pathsOf_cases fs argument with ⟨e', hf⟩ | hp
  · obtain rfl : e' = e := Except.error.inj ((pathsOf_of_fault hf).symm.trans h)
    exact hf
  · rw [hp] at h
    contradiction

theorem pathsOf_of_not_fault (h : ∀ e, ¬ fs.Fault argument e) :
    fs.pathsOf argument = .ok (Path.sort (fs.reached argument)) :=
  (pathsOf_cases fs argument).resolve_left fun ⟨e, hf⟩ => h e hf

theorem not_fault_of_pathsOf (h : fs.pathsOf argument = .ok paths) : ¬ fs.Fault argument e := by
  intro hf
  rw [pathsOf_of_fault hf] at h
  contradiction

theorem resolve_eq_error_iff :
    fs.resolve arguments = .error e ↔
      ∃ before a after, arguments = before ++ a :: after ∧
        (∀ b ∈ before, ∀ e, ¬ fs.Fault b e) ∧ fs.Fault a e := by
  have hr : fs.resolve arguments = .error e ↔
      allOrError (arguments.map fs.pathsOf) = .error e := by
    rw [resolve]
    cases allOrError (arguments.map fs.pathsOf) <;> simp [Except.map]
  rw [hr, allOrError_eq_error_iff]
  constructor
  · rintro ⟨found, rest, h⟩
    obtain ⟨before, after, rfl, hb, ha⟩ := List.map_eq_append_iff.1 h
    obtain ⟨a, after, rfl, ha, -⟩ := List.map_eq_cons_iff.1 ha
    refine ⟨before, a, after, rfl, ?_, pathsOf_eq_error_iff.1 ha⟩
    intro b hm e
    have hm : fs.pathsOf b ∈ found.map Except.ok := hb ▸ List.mem_map_of_mem hm
    obtain ⟨ps, -, hp⟩ := List.mem_map.1 hm
    exact not_fault_of_pathsOf hp.symm
  · rintro ⟨before, a, after, rfl, hb, ha⟩
    refine ⟨before.map fun b => Path.sort (fs.reached b), after.map fs.pathsOf, ?_⟩
    rw [List.map_append, List.map_cons, pathsOf_of_fault ha, List.map_map]
    congr 1
    exact List.map_congr_left fun b hm => pathsOf_of_not_fault (hb b hm)

theorem resolve_of_not_fault (h : ∀ a ∈ arguments, ∀ e, ¬ fs.Fault a e) :
    fs.resolve arguments =
      .ok (Path.distinct (arguments.flatMap fun a => Path.sort (fs.reached a))) := by
  rw [resolve, allOrError_map fun a ha => pathsOf_of_not_fault (h a ha), List.flatMap_def]
  rfl

theorem not_fault_of_resolve (h : fs.resolve arguments = .ok paths) :
    ∀ a ∈ arguments, ∀ e, ¬ fs.Fault a e := by
  intro a ha e hf
  obtain ⟨e, he⟩ := exists_resolve_eq_error_iff.2 ⟨a, ha, e, pathsOf_of_fault hf⟩
  rw [he] at h
  contradiction

theorem firstReach_cons (fs : FileSystem) (a : String) (rest : List String) (p : Path) :
    fs.firstReach (a :: rest) p =
      if p.components ∈ (fs.reached a).map Path.components then 0
      else fs.firstReach rest p + 1 := by
  rw [firstReach, List.findIdx_cons, firstReach]
  by_cases h : p.components ∈ (fs.reached a).map Path.components
  · have hany : (fs.reached a).any (·.components = p.components) = true := by
      simpa using h
    rw [if_pos h, hany]
    rfl
  · have hany : (fs.reached a).any (·.components = p.components) = false := by
      simpa using h
    rw [if_neg h, hany]
    rfl

theorem inOrder_distinct (fs : FileSystem) (arguments : List String) :
    (Path.distinct (arguments.flatMap fun a => Path.sort (fs.reached a))).Pairwise fun p q =>
      fs.firstReach arguments p < fs.firstReach arguments q ∨
        fs.firstReach arguments p = fs.firstReach arguments q ∧ p.le q = true := by
  induction arguments with
  | nil => exact .nil
  | cons a rest ih =>
    have hfirst : ∀ p ∈ Path.distinct (Path.sort (fs.reached a)),
        fs.firstReach (a :: rest) p = 0 := by
      intro p hp
      have hm : p ∈ fs.reached a := Path.mem_sort.1 ((Path.distinct_sublist _).subset hp)
      rw [firstReach_cons, if_pos (List.mem_map_of_mem hm)]
    have hlater : ∀ q : Path, q.components ∉ (Path.sort (fs.reached a)).map Path.components →
        fs.firstReach (a :: rest) q = fs.firstReach rest q + 1 := by
      intro q hq
      rw [firstReach_cons, if_neg]
      simpa using hq
    rw [List.flatMap_cons, Path.distinct_append, List.pairwise_append]
    refine ⟨?_, ?_, ?_⟩
    · have hsort := (Path.pairwise_sort (fs.reached a)).sublist (Path.distinct_sublist _)
      refine hsort.imp_of_mem fun {p q} hp hq hle => .inr ⟨?_, hle⟩
      rw [hfirst p hp, hfirst q hq]
    · refine (ih.sublist List.filter_sublist).imp_of_mem fun {p q} hp hq h => ?_
      have hp : fs.firstReach (a :: rest) p = fs.firstReach rest p + 1 :=
        hlater p (by simpa using (List.mem_filter.1 hp).2)
      have hq : fs.firstReach (a :: rest) q = fs.firstReach rest q + 1 :=
        hlater q (by simpa using (List.mem_filter.1 hq).2)
      rw [hp, hq]
      exact h.imp Nat.succ_lt_succ fun ⟨he, hle⟩ => ⟨congrArg Nat.succ he, hle⟩
    · intro p hp q hq
      left
      rw [hfirst p hp, hlater q (by simpa using (List.mem_filter.1 hq).2)]
      exact Nat.succ_pos _

theorem find?_reached (fs : FileSystem) (arguments : List String) (cs : List Path.Component) :
    (arguments.flatMap fun a => Path.sort (fs.reached a)).find? (·.components = cs) =
      (arguments.flatMap fs.reached).find? (·.components = cs) := by
  rw [List.find?_flatMap, List.find?_flatMap]
  congr 1
  funext a
  exact Path.find?_sort cs _

theorem isResolution_distinct (fs : FileSystem) (arguments : List String) :
    fs.IsResolution arguments
      (Path.distinct (arguments.flatMap fun a => Path.sort (fs.reached a))) where
  distinct := Path.pairwise_distinct _
  complete := by
    intro a ha p hp
    obtain ⟨q, hq⟩ : ∃ q, (arguments.flatMap fs.reached).find?
        (·.components = p.components) = some q := by
      rw [← Option.isSome_iff_exists, List.find?_isSome]
      exact ⟨p, List.mem_flatMap.2 ⟨a, ha, hp⟩, by simp⟩
    rw [← find?_reached, ← Path.find?_distinct] at hq
    exact ⟨q, List.mem_of_find?_eq_some hq, by simpa using List.find?_some hq⟩
  spelled := by
    intro q hq
    rw [← find?_reached]
    exact Path.mem_distinct_iff.1 hq
  inOrder := inOrder_distinct fs arguments

namespace IsResolution

variable {qs : List Path} {q : Path}

theorem eq_of_components (hp : fs.IsResolution arguments paths)
    (hq : fs.IsResolution arguments qs) (hpm : p ∈ paths) (hqm : q ∈ qs)
    (h : p.components = q.components) : p = q := by
  have hfp := hp.spelled p hpm
  rw [h, hq.spelled q hqm] at hfp
  exact (Option.some.inj hfp).symm

theorem mem_of_mem (hp : fs.IsResolution arguments paths) (hq : fs.IsResolution arguments qs)
    (hpm : p ∈ paths) : p ∈ qs := by
  obtain ⟨a, ha, hr⟩ := List.mem_flatMap.1 (List.mem_of_find?_eq_some (hp.spelled p hpm))
  obtain ⟨q, hqm, hc⟩ := hq.complete a ha p hr
  rwa [eq_of_components hp hq hpm hqm hc.symm]

theorem nodup (h : fs.IsResolution arguments paths) : paths.Nodup :=
  h.distinct.imp fun hne he => hne (congrArg Path.components he)

theorem unique (hp : fs.IsResolution arguments paths) (hq : fs.IsResolution arguments qs) :
    paths = qs := by
  have hperm : paths.Perm qs :=
    (List.perm_ext_iff_of_nodup hp.nodup hq.nodup).2 fun p =>
      ⟨hp.mem_of_mem hq, hq.mem_of_mem hp⟩
  refine hperm.eq_of_pairwise ?_ hp.inOrder hq.inOrder
  rintro p q hpm hqm hpq hqp
  refine eq_of_components hp hq hpm hqm (Path.componentsLe_antisymm ?_ ?_)
  · rcases hpq with hlt | ⟨-, hle⟩
    · omega
    · exact hle
  · rcases hqp with hlt | ⟨-, hle⟩
    · omega
    · exact hle

end IsResolution

theorem resolve_eq_ok_iff_isResolution :
    fs.resolve arguments = .ok paths ↔
      (∀ a ∈ arguments, ∀ e, ¬ fs.Fault a e) ∧ fs.IsResolution arguments paths := by
  constructor
  · intro h
    have hn := not_fault_of_resolve h
    rw [resolve_of_not_fault hn] at h
    exact ⟨hn, Except.ok.inj h ▸ isResolution_distinct fs arguments⟩
  · rintro ⟨hn, hp⟩
    rw [resolve_of_not_fault hn, (isResolution_distinct fs arguments).unique hp]

theorem resolve_append (fs : FileSystem) (before after : List String) :
    fs.resolve (before ++ after) =
      match allOrError (before.map fs.pathsOf) with
      | .error e => .error e
      | .ok as => (allOrError (after.map fs.pathsOf)).map fun bs =>
          Path.distinct (as.flatten ++ bs.flatten) := by
  rw [resolve, List.map_append, allOrError_append]
  cases allOrError (before.map fs.pathsOf) with
  | error e => rfl
  | ok as =>
    cases allOrError (after.map fs.pathsOf) with
    | error e => rfl
    | ok bs => simp [Except.map]

def AddsNothing (fs : FileSystem) (before : List String) (argument : String) : Prop :=
  argument ∈ before ∨
    (∀ e, ¬ fs.Fault argument e) ∧
      ∀ p ∈ fs.reached argument, ∃ a ∈ before, ∃ q ∈ fs.reached a, q.components = p.components

theorem resolve_append_eq (before more after : List String)
    (h : ∀ m ∈ more, fs.AddsNothing before m) :
    fs.resolve (before ++ more ++ after) = fs.resolve (before ++ after) := by
  by_cases hb : ∀ b ∈ before, ∀ e, ¬ fs.Fault b e
  · have hreach : ∀ as : List String, (∀ a ∈ as, ∀ e, ¬ fs.Fault a e) →
        allOrError (as.map fs.pathsOf) = .ok (as.map fun a => Path.sort (fs.reached a)) :=
      fun as ha => allOrError_map fun a hm => pathsOf_of_not_fault (ha a hm)
    have hm : ∀ m ∈ more, ∀ e, ¬ fs.Fault m e := by
      intro m hm
      rcases h m hm with hmb | ⟨hn, -⟩
      · exact hb m hmb
      · exact hn
    have hbm : ∀ a ∈ before ++ more, ∀ e, ¬ fs.Fault a e := by
      intro a ha
      rcases List.mem_append.1 ha with ha | ha
      · exact hb a ha
      · exact hm a ha
    have hcovered : ∀ q ∈ (more.map fun m => Path.sort (fs.reached m)).flatten,
        q.components ∈ ((before.map fun b => Path.sort (fs.reached b)).flatten).map
          Path.components := by
      intro q hq
      rw [← List.flatMap_def] at hq ⊢
      obtain ⟨m, hmem, hq⟩ := List.mem_flatMap.1 hq
      rcases h m hmem with hmb | ⟨-, hs⟩
      · exact List.mem_map_of_mem (List.mem_flatMap.2 ⟨m, hmb, hq⟩)
      · obtain ⟨b, hbm, p, hp, hc⟩ := hs q (Path.mem_sort.1 hq)
        rw [← hc]
        exact List.mem_map_of_mem (List.mem_flatMap.2 ⟨b, hbm, Path.mem_sort.2 hp⟩)
    rw [resolve_append, resolve_append, hreach _ hbm, hreach _ hb]
    cases allOrError (after.map fs.pathsOf) with
    | error e => rfl
    | ok found =>
      simp only [Except.map, List.map_append, List.flatten_append]
      rw [Path.distinct_append_of_subset hcovered]
  · push Not at hb
    obtain ⟨b, hbm, e, hf⟩ := hb
    obtain ⟨e, he⟩ := exists_allOrError_map_eq_error_iff.2 ⟨b, hbm, e, pathsOf_of_fault hf⟩
    rw [List.append_assoc, resolve_append, resolve_append, he]

theorem resolve_characterized (fs : FileSystem) (arguments : List String) :
    (∀ e, fs.resolve arguments = .error e ↔
      ∃ before a after, arguments = before ++ a :: after ∧
        (∀ b ∈ before, ∀ e, ¬ fs.Fault b e) ∧ fs.Fault a e) ∧
    (∀ paths, fs.resolve arguments = .ok paths ↔
      (∀ a ∈ arguments, ∀ e, ¬ fs.Fault a e) ∧ fs.IsResolution arguments paths) ∧
    (∀ before more after, arguments = before ++ after →
      (∀ m ∈ more, fs.AddsNothing before m) →
        fs.resolve (before ++ more ++ after) = fs.resolve arguments) ∧
    (arguments ≠ [] → fs.resolve arguments ≠ .ok []) := by
  refine ⟨fun e => resolve_eq_error_iff, fun paths => resolve_eq_ok_iff_isResolution, ?_, ?_⟩
  · rintro before more after rfl h
    exact resolve_append_eq before more after h
  · intro ha h
    exact ne_nil_of_resolve ha h rfl

def mixedFiles : FileSystem where
  root := .directory [("a.json", .file .empty), ("b.json", .file .empty), ("c.json", .directory [])]

theorem matching_mixedFiles {first : Glob.Token} (h : first = .anyText ∨ first = .anyChar) :
    mixedFiles.matching ⟨false, [.entry (first :: ".json".toList.map .char)], false⟩ =
      [⟨"a.json"⟩, ⟨"b.json"⟩, ⟨"c.json"⟩].map .ok := by
  have hdot : (first :: ".json".toList.map .char).head? ≠ some (.char '.') := by
    rcases h with rfl | rfl <;> decide
  rw [matching_entry rfl (by decide +kernel) hdot]
  rcases h with rfl | rfl <;> rfl

theorem paths_mixedFiles {argument : String} {first : Glob.Token}
    (hw : hasWildcard argument = true)
    (hp : Glob.Plan.ofText argument =
      .ok ⟨false, [.entry (first :: ".json".toList.map .char)], false⟩)
    (h : first = .anyText ∨ first = .anyChar) :
    mixedFiles.reached argument = [⟨"a.json"⟩, ⟨"b.json"⟩] ∧
      mixedFiles.pathsOf argument = .ok [⟨"a.json"⟩, ⟨"b.json"⟩] := by
  have hm := matching_mixedFiles h
  have hsort : Path.sort [⟨"a.json"⟩, ⟨"b.json"⟩] = [⟨"a.json"⟩, ⟨"b.json"⟩] :=
    Path.sort_of_pairwise (by decide +kernel)
  have hpaths : mixedFiles.pathsOf argument = .ok (Path.sort [⟨"a.json"⟩, ⟨"b.json"⟩]) :=
    pathsOf_of_matching hw hp hm rfl (List.cons_ne_nil _ _)
  exact ⟨reached_of_matching hw hp hm, hpaths.trans (congrArg Except.ok hsort)⟩

theorem resolve_characterized_repeated :
    ["b.json", "*.json"] ≠ [] ∧ mixedFiles.AddsNothing ["b.json", "*.json"] "?.json" ∧
      "?.json" ∉ ["b.json", "*.json"] ∧
      mixedFiles.resolve ["b.json", "*.json", "?.json"] =
        mixedFiles.resolve ["b.json", "*.json"] ∧
      mixedFiles.resolve ["b.json", "*.json"] = .ok [⟨"b.json"⟩, ⟨"a.json"⟩] ∧
      mixedFiles.resolve ["b.json", "*.json"] ≠ .ok [] := by
  have hne : ["b.json", "*.json"] ≠ [] := by decide
  obtain ⟨hstar, hpstar⟩ : mixedFiles.reached "*.json" = [⟨"a.json"⟩, ⟨"b.json"⟩] ∧
      mixedFiles.pathsOf "*.json" = .ok [⟨"a.json"⟩, ⟨"b.json"⟩] :=
    paths_mixedFiles (by decide +kernel) (by decide +kernel) (.inl rfl)
  obtain ⟨hmark, hpmark⟩ : mixedFiles.reached "?.json" = [⟨"a.json"⟩, ⟨"b.json"⟩] ∧
      mixedFiles.pathsOf "?.json" = .ok [⟨"a.json"⟩, ⟨"b.json"⟩] :=
    paths_mixedFiles (by decide +kernel) (by decide +kernel) (.inr rfl)
  have hadds : mixedFiles.AddsNothing ["b.json", "*.json"] "?.json" := by
    refine .inr ⟨fun e => not_fault_of_pathsOf hpmark, ?_⟩
    intro p hp
    exact ⟨"*.json", by simp, p, by rwa [hstar, ← hmark], rfl⟩
  have hpaths : mixedFiles.resolve ["b.json", "*.json"] = .ok [⟨"b.json"⟩, ⟨"a.json"⟩] := by
    have hplain : mixedFiles.pathsOf "b.json" = .ok [⟨"b.json"⟩] :=
      if_neg (by decide +kernel)
    refine resolve_eq_ok_iff.2 ⟨[[⟨"b.json"⟩], [⟨"a.json"⟩, ⟨"b.json"⟩]], ?_, rfl⟩
    simp only [List.map_cons, List.map_nil, hplain, hpstar]
  obtain ⟨-, -, hinsert, hfull⟩ := resolve_characterized mixedFiles ["b.json", "*.json"]
  exact ⟨hne, hadds, by decide,
    hinsert ["b.json", "*.json"] ["?.json"] [] rfl (by simpa using hadds), hpaths, hfull hne⟩

end FileSystem

end TemplateQuery
