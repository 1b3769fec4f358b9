import Mathlib.Tactic
import TemplateQuery.Command.Run
import TemplateQuery.Proofs.Files.Reached
import TemplateQuery.Proofs.Json.Record

namespace TemplateQuery

open Json

namespace Document

def analysis (text : String) (c : Config) : Analysis :=
  ⟨(parse text).nodes, (parse text).diagnostics, c⟩

theorem analysis_of_broken {text : String} {f : Fault} (h : read text = .error f) (c : Config) :
    ∃ d, analysis text c = ⟨[], [d], c⟩ ∧ (Problem.ofDiagnostic d).level = .error := by
  have hp : parse text = { diagnostics := [diagnostic text f] } := by
    rw [parse, h]
  refine ⟨diagnostic text f, ?_, rfl⟩
  rw [analysis, hp]

end Document

namespace Report

variable {report : Report} {a : Analysis} {f : Finding}

def Malformed (report : Report) : Prop :=
  ∃ s e, report = .elements s ∧ Selector.parse s = .error e

theorem finding_of_malformed (h : report.Malformed) (a : Analysis) :
    ∃ e, report.finding a = .error e := by
  obtain ⟨s, e, rfl, hs⟩ := h
  refine ⟨⟨s, e⟩, ?_⟩
  rw [finding, Analysis.findElements, hs]
  rfl

theorem exists_finding (h : ¬ report.Malformed) (a : Analysis) :
    ∃ f, report.finding a = .ok f := by
  cases report with
  | elements s =>
    cases hs : Selector.parse s with
    | error e => exact absurd ⟨s, e, rfl, hs⟩ h
    | ok L =>
      rw [finding, Analysis.findElements, hs]
      exact ⟨_, rfl⟩
  | dependencies legacy => cases legacy <;> exact ⟨_, rfl⟩
  | _ => exact ⟨_, rfl⟩

theorem failed_iff (h : report.finding a = .ok f) :
    f.failed = true ↔ report = .errors ∧ ∃ p ∈ a.validateBindings, p.level = .error := by
  cases report with
  | elements s =>
    rw [finding] at h
    cases hs : a.findElements s with
    | error e =>
      rw [hs] at h
      contradiction
    | ok es =>
      rw [hs] at h
      obtain rfl := Except.ok.inj h
      simp
  | dependencies legacy => cases legacy <;> (obtain rfl := Except.ok.inj h; simp)
  | errors =>
    obtain rfl := Except.ok.inj h
    simp [Problem.isError]
  | _ =>
    obtain rfl := Except.ok.inj h
    simp

theorem findings_of_malformed (h : report.Malformed) {ts : List Template} (ht : ts ≠ []) :
    ∃ e, report.findings ts = .error e := by
  obtain ⟨t, rest, rfl⟩ := List.exists_cons_of_ne_nil ht
  obtain ⟨e, he⟩ := finding_of_malformed h t.analysis.1
  rw [findings, he]
  exact ⟨_, rfl⟩

end Report

theorem Results.output_of_several {r : Results} (h : 2 ≤ r.findings.length) :
    r.output = .ofMembers ((r.templates.map (·.path)).zip (r.findings.map (·.output))) := by
  rw [output]
  split
  · next hf => simp [hf] at h
  · rfl

structure Reading where
  path : Path
  text : String
  finding : Finding

namespace Reading

def document (c : Config) (r : Reading) : Template :=
  .ofDocument r.text r.path.text c

def template (c : Config) (r : Reading) : Template :=
  (r.document c).parsed.2

def analysis (c : Config) (r : Reading) : Analysis :=
  Document.analysis r.text c

def member (r : Reading) : String × Json :=
  (r.path.text, r.finding.output)

theorem exists_map_path_eq {p : Reading → Prop} {paths : List Path}
    (h : ∀ path ∈ paths, ∃ r : Reading, r.path = path ∧ p r) :
    ∃ readings : List Reading, readings.map (·.path) = paths ∧ ∀ r ∈ readings, p r := by
  induction paths with
  | nil => exact ⟨[], rfl, by simp⟩
  | cons path rest ih =>
    obtain ⟨r, hr, hp⟩ := h path (by simp)
    obtain ⟨readings, hrest, hps⟩ := ih fun path' hm => h path' (by simp [hm])
    exact ⟨r :: readings, by rw [List.map_cons, hr, hrest], by simpa using ⟨hp, hps⟩⟩

structure IsKeyed (readings : List Reading) (members : List (String × Json)) : Prop where
  keys : members.map Prod.fst = firstSeen (readings.map (·.path.text))
  last : ∀ name, members.lookup name = (readings.map member).reverse.lookup name
  whole : members = readings.map member ↔ (readings.map (·.path.text)).Nodup

theorem isKeyed_lastOfEach (readings : List Reading) :
    IsKeyed readings (lastOfEach (readings.map member)) := by
  have hkeys : (readings.map member).map Prod.fst = readings.map (·.path.text) := List.map_map ..
  refine ⟨?_, lookup_lastOfEach _, ?_⟩
  · rw [keys_lastOfEach, hkeys]
  · rw [lastOfEach_eq_self_iff, hkeys]

end Reading

section

variable {c : Config} {readings : List Reading}

theorem Report.findings_of_readings {report : Report}
    (h : ∀ r ∈ readings, report.finding (r.analysis c) = .ok r.finding) :
    report.findings (readings.map (·.template c)) = .ok (readings.map (·.finding)) := by
  induction readings with
  | nil => rfl
  | cons r rest ih =>
    have hr : report.finding (r.template c).analysis.1 = .ok r.finding := h r (by simp)
    rw [List.map_cons, findings, hr, ih fun r' hr' => h r' (by simp [hr'])]
    rfl

namespace FileSystem

variable {fs : FileSystem} {arguments : List String}

theorem loadTemplates_of_readings
    (hp : fs.resolve arguments = .ok (readings.map (·.path)))
    (hr : ∀ r ∈ readings, fs.readText r.path = .ok r.text) :
    fs.loadTemplates c arguments = .ok (readings.map (·.document c)) := by
  have ht : (readings.map (·.path)).map (fs.loadTemplate c) =
      (readings.map (·.document c)).map .ok := by
    rw [List.map_map, List.map_map]
    refine List.map_congr_left ?_
    intro r hm
    rw [Function.comp_apply, loadTemplate, hr r hm]
    rfl
  rw [loadTemplates, hp]
  exact allOrError_eq_ok_iff.2 ht

theorem exists_loadTemplates_eq_error_iff :
    (∃ e, fs.loadTemplates c arguments = .error e) ↔
      (∃ a ∈ arguments, ∃ e, fs.pathsOf a = .error e) ∨
        ∃ paths, fs.resolve arguments = .ok paths ∧
          ∃ p ∈ paths, ∃ e, fs.readText p = .error e := by
  rw [← exists_resolve_eq_error_iff, loadTemplates]
  cases hr : fs.resolve arguments with
  | error e => simp [bind, Except.bind]
  | ok paths =>
    have hl : ∀ p, (∃ e, fs.loadTemplate c p = .error e) ↔ ∃ e, fs.readText p = .error e := by
      intro p
      rw [loadTemplate]
      cases fs.readText p <;> simp
    have ha : (∃ e, allOrError (paths.map (fs.loadTemplate c)) = .error e) ↔ _ :=
      exists_allOrError_map_eq_error_iff
    simpa [bind, Except.bind, hl] using ha

theorem ne_nil_of_loadTemplates {loaded : List Template} (ha : arguments ≠ [])
    (h : fs.loadTemplates c arguments = .ok loaded) : loaded ≠ [] := by
  rw [loadTemplates] at h
  cases hr : fs.resolve arguments with
  | error e =>
    rw [hr] at h
    contradiction
  | ok paths =>
    rw [hr] at h
    have hp : paths.map (fs.loadTemplate c) = loaded.map .ok := allOrError_eq_ok_iff.1 h
    rintro rfl
    exact ne_nil_of_resolve ha hr (List.map_eq_nil_iff.1 hp)

end FileSystem

end

namespace Invocation

variable {i : Invocation} {fs : FileSystem} {readings : List Reading}

def Fails (i : Invocation) (fs : FileSystem) : Prop :=
  (∃ a ∈ i.arguments, ∃ e, fs.pathsOf a = .error e) ∨
    (∃ paths, fs.resolve i.arguments = .ok paths ∧ ∃ p ∈ paths, ∃ e, fs.readText p = .error e) ∨
    i.report.Malformed

structure Reads (i : Invocation) (fs : FileSystem) (readings : List Reading) : Prop where
  resolved : fs.resolve i.arguments = .ok (readings.map (·.path))
  read : ∀ r ∈ readings, fs.readText r.path = .ok r.text
  found : ∀ r ∈ readings, i.report.finding (r.analysis i.config) = .ok r.finding

def Prints (i : Invocation) (fs : FileSystem) (j : Json) : Prop :=
  (i.run fs).stdout = linesText [j.pretty]

structure Answers (i : Invocation) (fs : FileSystem) (readings : List Reading) : Prop
    extends i.Reads fs readings where
  nonempty : readings ≠ []
  single : ∀ r, readings = [r] → i.Prints fs r.finding.output
  several : 2 ≤ readings.length →
    ∃ members, i.Prints fs (.object members) ∧ Reading.IsKeyed readings members
  distinct : (readings.map (·.path.components)).Nodup
  textual : (∀ r ∈ readings, r.path.IsText) → (readings.map (·.path.text)).Nodup
  alone : ∀ r ∈ readings, ∀ (i' : Invocation) (fs' : FileSystem),
    i'.report = i.report → i'.config = i.config → fs'.resolve i'.arguments = .ok [r.path] →
    fs'.readText r.path = .ok r.text → i'.Prints fs' r.finding.output
  byName : ∀ r ∈ readings, ∀ argument : String, r.path = ⟨argument⟩ →
    hasWildcard argument = false →
    { i with arguments := [argument] }.Prints fs r.finding.output
  broken : ∀ r ∈ readings, ∀ f, Document.read r.text = .error f →
    ∃ d, r.analysis i.config = ⟨[], [d], i.config⟩ ∧ (Problem.ofDiagnostic d).level = .error
  code : (i.run fs).code =
    if i.report = .errors ∧ ∃ r ∈ readings, ∃ p ∈ (r.analysis i.config).validateBindings,
      p.level = .error
    then 1 else 0

theorem results_of_reads (ha : i.arguments ≠ []) (h : i.Reads fs readings) :
    i.results fs = .ok ⟨readings.map (·.template i.config), readings.map (·.finding)⟩ := by
  have hf : i.report.findings _ = _ := Report.findings_of_readings h.found
  have ht : (readings.map (·.document i.config)).map (fun t => t.parsed.2) =
      readings.map (·.template i.config) := List.map_map ..
  rw [results, if_neg (by simpa using ha),
    FileSystem.loadTemplates_of_readings h.resolved h.read]
  simp only [ht, hf]

theorem exists_reads (h : ¬ i.Fails fs) : ∃ readings, i.Reads fs readings := by
  simp only [Fails, not_or] at h
  obtain ⟨hp, hr, hm⟩ := h
  cases hpaths : fs.resolve i.arguments with
  | error e => exact absurd (FileSystem.exists_resolve_eq_error_iff.1 ⟨e, hpaths⟩) hp
  | ok paths =>
    have hread : ∀ path ∈ paths, ∃ r : Reading, r.path = path ∧
        fs.readText r.path = .ok r.text ∧
          i.report.finding (r.analysis i.config) = .ok r.finding := by
      intro path hpath
      cases ht : fs.readText path with
      | error e => exact absurd ⟨paths, hpaths, path, hpath, e, ht⟩ hr
      | ok text =>
        obtain ⟨f, hf⟩ := Report.exists_finding hm (Document.analysis text i.config)
        exact ⟨⟨path, text, f⟩, rfl, ht, hf⟩
    obtain ⟨readings, rfl, hall⟩ := Reading.exists_map_path_eq hread
    exact ⟨readings, hpaths, fun r hr => (hall r hr).1, fun r hr => (hall r hr).2⟩

theorem exists_results_eq_error (ha : i.arguments ≠ []) (h : i.Fails fs) :
    ∃ e, i.results fs = .error e := by
  rw [Fails, ← or_assoc, ← FileSystem.exists_loadTemplates_eq_error_iff (c := i.config)] at h
  rw [results, if_neg (by simpa using ha)]
  cases hl : fs.loadTemplates i.config i.arguments with
  | error e => exact ⟨e, rfl⟩
  | ok loaded =>
    have hm : i.report.Malformed := by simpa [hl] using h
    have hne : loaded.map (fun t => t.parsed.2) ≠ [] := by
      simpa using FileSystem.ne_nil_of_loadTemplates ha hl
    obtain ⟨e, he⟩ := Report.findings_of_malformed hm hne
    simp only [he]
    exact ⟨e, rfl⟩

theorem run_of_fails (ha : i.arguments ≠ []) (h : i.Fails fs) :
    (i.run fs).stdout = "" ∧ (i.run fs).code = 1 := by
  obtain ⟨e, he⟩ := exists_results_eq_error ha h
  rw [run, he]
  exact ⟨rfl, rfl⟩

theorem ne_nil_of_reads (ha : i.arguments ≠ []) (h : i.Reads fs readings) : readings ≠ [] := by
  have hp : readings.map (·.path) ≠ [] := FileSystem.ne_nil_of_resolve ha h.resolved
  simpa using hp

theorem nodup_components_of_reads (h : i.Reads fs readings) :
    (readings.map (·.path.components)).Nodup := by
  have hp : ((readings.map (·.path)).map Path.components).Nodup :=
    FileSystem.nodup_components_of_resolve h.resolved
  rwa [List.map_map] at hp

theorem nodup_text_of_reads (h : i.Reads fs readings) (ht : ∀ r ∈ readings, r.path.IsText) :
    (readings.map (·.path.text)).Nodup := by
  have hp : ((readings.map (·.path)).map Path.text).Nodup :=
    FileSystem.nodup_text_of_resolve h.resolved (by simpa using ht)
  rwa [List.map_map] at hp

theorem prints_of_reads_singleton {r : Reading} (ha : i.arguments ≠ []) (h : i.Reads fs [r]) :
    i.Prints fs r.finding.output := by
  rw [Prints, run, results_of_reads ha h]
  rfl

theorem prints_of_reads_several (ha : i.arguments ≠ []) (h : i.Reads fs readings)
    (hl : 2 ≤ readings.length) :
    i.Prints fs (.object (lastOfEach (readings.map Reading.member))) := by
  have hz : ((readings.map (·.template i.config)).map (·.path)).zip
      ((readings.map (·.finding)).map (·.output)) = readings.map Reading.member := by
    rw [List.map_map, List.map_map, List.zip_map']
    rfl
  rw [Prints, run, results_of_reads ha h]
  simp only
  rw [Results.output_of_several (by simpa using hl), hz, ofMembers]

theorem Reads.alone {r : Reading} (h : i.Reads fs readings) (hr : r ∈ readings)
    {i' : Invocation} {fs' : FileSystem} (hreport : i'.report = i.report)
    (hconfig : i'.config = i.config) (hp : fs'.resolve i'.arguments = .ok [r.path])
    (ht : fs'.readText r.path = .ok r.text) : i'.Prints fs' r.finding.output := by
  have ha : i'.arguments ≠ [] := by
    intro h0
    simp [h0, FileSystem.resolve, allOrError, Except.map, Path.distinct] at hp
  refine prints_of_reads_singleton ha ⟨hp, ?_, ?_⟩
  · simpa using ht
  · simpa [hreport, hconfig] using h.found r hr

theorem code_of_reads (ha : i.arguments ≠ []) (h : i.Reads fs readings) :
    (i.run fs).code =
      if i.report = .errors ∧ ∃ r ∈ readings, ∃ p ∈ (r.analysis i.config).validateBindings,
        p.level = .error
      then 1 else 0 := by
  have hf : (readings.map (·.finding)).any (·.failed) = true ↔
      i.report = .errors ∧ ∃ r ∈ readings, ∃ p ∈ (r.analysis i.config).validateBindings,
        p.level = .error := by
    rw [List.any_map, List.any_eq_true]
    constructor
    · rintro ⟨r, hr, hfailed⟩
      obtain ⟨he, hp⟩ := (Report.failed_iff (h.found r hr)).1 hfailed
      exact ⟨he, r, hr, hp⟩
    · rintro ⟨he, r, hr, hp⟩
      exact ⟨r, hr, (Report.failed_iff (h.found r hr)).2 ⟨he, hp⟩⟩
  rw [run, results_of_reads ha h]
  simp only [Results.failed, hf]

theorem code_of_broken {r : Reading} {f : Fault} (ha : i.arguments ≠ []) (h : i.Reads fs readings)
    (he : i.report = .errors) (hr : r ∈ readings) (hf : Document.read r.text = .error f) :
    (i.run fs).code = 1 := by
  obtain ⟨d, hd, hlevel⟩ := Document.analysis_of_broken hf i.config
  rw [code_of_reads ha h, if_pos]
  refine ⟨he, r, hr, Problem.ofDiagnostic d, ?_, hlevel⟩
  rw [Reading.analysis, hd]
  simp [Analysis.validateBindings, Analysis.problems]

theorem answers_of_reads (ha : i.arguments ≠ []) (h : i.Reads fs readings) :
    i.Answers fs readings where
  toReads := h
  nonempty := ne_nil_of_reads ha h
  single r hr := by
    subst hr
    exact prints_of_reads_singleton ha h
  several hl := ⟨_, prints_of_reads_several ha h hl, Reading.isKeyed_lastOfEach readings⟩
  distinct := nodup_components_of_reads h
  textual := nodup_text_of_reads h
  alone r hr i' fs' := h.alone hr
  byName r hr argument hp hw :=
    h.alone hr rfl rfl (hp ▸ FileSystem.resolve_plain hw) (h.read r hr)
  broken r _ f hf := Document.analysis_of_broken hf i.config
  code := code_of_reads ha h

theorem run_of_arguments (i : Invocation) (fs : FileSystem) (ha : i.arguments ≠ []) :
    ((∃ e, i.results fs = .error e) ↔ i.Fails fs) ∧
      (i.Fails fs → (i.run fs).stdout = "" ∧ (i.run fs).code = 1) ∧
      (¬ i.Fails fs → ∃ readings, i.Answers fs readings) := by
  refine ⟨⟨?_, exists_results_eq_error ha⟩, run_of_fails ha, ?_⟩
  · intro he
    by_contra hf
    obtain ⟨readings, h⟩ := exists_reads hf
    rw [results_of_reads ha h] at he
    simp at he
  · intro hf
    obtain ⟨readings, h⟩ := exists_reads hf
    exact ⟨readings, answers_of_reads ha h⟩

def sampleFiles : FileSystem where
  root := .directory [("a.json", .file "\x7b\x7d".toUTF8), ("b.json", .file "\x7b".toUTF8)]

def sampleRun : Invocation := ⟨["a.json", "b.json"], {}, .errors⟩

theorem resolve_sample :
    sampleFiles.resolve sampleRun.arguments = .ok [⟨"a.json"⟩, ⟨"b.json"⟩] := by
  have ha : sampleFiles.pathsOf "a.json" = .ok [⟨"a.json"⟩] := if_neg (by decide +kernel)
  have hb : sampleFiles.pathsOf "b.json" = .ok [⟨"b.json"⟩] := if_neg (by decide +kernel)
  refine FileSystem.resolve_eq_ok_iff.2 ⟨[[⟨"a.json"⟩], [⟨"b.json"⟩]], ?_, rfl⟩
  simp only [sampleRun, List.map_cons, List.map_nil, ha, hb]

theorem readText_sample :
    sampleFiles.readText ⟨"a.json"⟩ = .ok "\x7b\x7d" ∧
      sampleFiles.readText ⟨"b.json"⟩ = .ok "\x7b" :=
  ⟨rfl, rfl⟩

theorem not_fails_sample : ¬ sampleRun.Fails sampleFiles := by
  rintro (h | ⟨paths, hp, p, hm, e, he⟩ | ⟨s, e, hs, -⟩)
  · obtain ⟨e, he⟩ := FileSystem.exists_resolve_eq_error_iff.2 h
    rw [resolve_sample] at he
    contradiction
  · obtain rfl : paths = _ := Except.ok.inj (hp.symm.trans resolve_sample)
    simp only [List.mem_cons, List.not_mem_nil, or_false] at hm
    rcases hm with rfl | rfl
    · rw [readText_sample.1] at he
      contradiction
    · rw [readText_sample.2] at he
      contradiction
  · contradiction

theorem read_brace : ∃ f, Document.read "\x7b" = .error f := by
  cases h : Document.read "\x7b" with
  | error f => exact ⟨f, rfl⟩
  | ok t =>
    have hn : (Document.read "\x7b").toOption.isNone = true := by decide +kernel
    rw [h] at hn
    contradiction

theorem run_of_sample :
    sampleRun.arguments ≠ [] ∧
      (∃ readings, sampleRun.Answers sampleFiles readings ∧
        readings.map (·.path.text) = ["a.json", "b.json"]) ∧
      (sampleRun.run sampleFiles).code = 1 := by
  have ha : sampleRun.arguments ≠ [] := by decide
  obtain ⟨readings, h⟩ := (run_of_arguments sampleRun sampleFiles ha).2.2 not_fails_sample
  have hp : readings.map (·.path) = [⟨"a.json"⟩, ⟨"b.json"⟩] :=
    Except.ok.inj (h.resolved.symm.trans resolve_sample)
  obtain ⟨r, hr, hpath⟩ : ∃ r ∈ readings, r.path = ⟨"b.json"⟩ := by
    rw [← List.mem_map, hp]
    simp
  have ht : r.text = "\x7b" := by
    have hread := h.read r hr
    rw [hpath, readText_sample.2] at hread
    exact (Except.ok.inj hread).symm
  obtain ⟨f, hf⟩ := read_brace
  refine ⟨ha, ⟨readings, h, ?_⟩, code_of_broken ha h.toReads rfl hr (ht ▸ hf)⟩
  have htexts := congrArg (List.map Path.text) hp
  rwa [List.map_map] at htexts

def twinFiles : FileSystem where
  root := .directory [
    (⟨[0xfe]⟩, .directory [("a.json", .file "\x7b".toUTF8)]),
    (⟨[0xff]⟩, .directory [("a.json", .file "\x7b\x7d".toUTF8)])]

def twinRun : Invocation := ⟨["**/a.json"], {}, .errors⟩

def twin (b : UInt8) : Path :=
  ⟨⟨b :: Path.separator :: (RawText.ofString "a.json").bytes⟩⟩

theorem descendants_twin :
    twinFiles.descendants .current =
      [.ok ⟨⟨[0xfe]⟩, ⟨⟨[0xfe]⟩⟩⟩, .ok ⟨"a.json", twin 0xfe⟩,
        .ok ⟨⟨[0xff]⟩, ⟨⟨[0xff]⟩⟩⟩, .ok ⟨"a.json", twin 0xff⟩] := by
  have hroot : twinFiles.find? .current = .ok twinFiles.root := rfl
  rw [FileSystem.descendants, hroot]
  simp only [twinFiles, Tree.descendants, Tree.descendantsOfEach]
  rw [inNameOrder_of_pairwise (List.pairwise_singleton ..),
    inNameOrder_of_pairwise (List.pairwise_singleton ..),
    inNameOrder_of_pairwise (by decide +kernel)]
  rfl

theorem resolve_twin : twinFiles.resolve twinRun.arguments = .ok [twin 0xfe, twin 0xff] := by
  have hplan : Glob.Plan.ofText "**/a.json" =
      .ok ⟨false, [.below ("a.json".toList.map .char)], false⟩ := by decide +kernel
  have hsearch : twinFiles.search [.below ("a.json".toList.map .char)] .current =
      [twin 0xfe, twin 0xff].map .ok := by
    rw [FileSystem.search, descendants_twin]
    rfl
  have hmatching : twinFiles.matching ⟨false, [.below ("a.json".toList.map .char)], false⟩ =
      [twin 0xfe, twin 0xff].map .ok := by
    rw [FileSystem.matching]
    simp only [Bool.false_eq_true, if_false, hsearch]
    rfl
  have hsort : Path.sort [twin 0xfe, twin 0xff] = [twin 0xfe, twin 0xff] :=
    Path.sort_of_pairwise (by decide +kernel)
  have hpaths : twinFiles.pathsOf "**/a.json" = .ok (Path.sort [twin 0xfe, twin 0xff]) :=
    FileSystem.pathsOf_of_matching (by decide +kernel) hplan hmatching rfl (List.cons_ne_nil _ _)
  refine FileSystem.resolve_eq_ok_iff.2 ⟨[[twin 0xfe, twin 0xff]], ?_, rfl⟩
  rw [twinRun, List.map_singleton, hpaths, hsort]
  rfl

theorem run_of_twins :
    twinFiles.resolve twinRun.arguments = .ok [twin 0xfe, twin 0xff] ∧
      (twin 0xfe).components ≠ (twin 0xff).components ∧
      (twinRun.run twinFiles).stdout = "\x7b\n  \"\ufffd/a.json\": []\n\x7d\n" ∧
      (twinRun.run twinFiles).code = 1 := by
  have ha : twinRun.arguments ≠ [] := by decide
  have hparsed : Document.parse "\x7b\x7d" = {} := by
    have hread : Document.read "\x7b\x7d" = .ok {} := rfl
    rw [Document.parse, hread]
  obtain ⟨fault, hbroken⟩ := read_brace
  obtain ⟨f, hf⟩ : ∃ f, Report.errors.finding (Document.analysis "\x7b" {}) = .ok f := ⟨_, rfl⟩
  have h : twinRun.Reads twinFiles
      [⟨twin 0xfe, "\x7b", f⟩, ⟨twin 0xff, "\x7b\x7d", ⟨.array [], false⟩⟩] := by
    refine ⟨resolve_twin, ?_, ?_⟩
    · simp only [List.forall_mem_cons]
      exact ⟨rfl, rfl, by simp⟩
    · simp only [List.forall_mem_cons]
      refine ⟨hf, ?_, by simp⟩
      have hvisits : walk false [] = [] := by
        rw [walk, walkStack]
        rfl
      rw [Reading.analysis, Document.analysis, hparsed]
      simp [twinRun, Report.finding, Analysis.validateBindings, Analysis.problems,
        Analysis.visits, hvisits, list]
  have hmembers : lastOfEach ([⟨twin 0xfe, "\x7b", f⟩,
      ⟨twin 0xff, "\x7b\x7d", ⟨.array [], false⟩⟩].map Reading.member) =
        [("\ufffd/a.json", .array [])] := by
    have hfe : (twin 0xfe).text = "\ufffd/a.json" := by decide +kernel
    have hff : (twin 0xff).text = "\ufffd/a.json" := by decide +kernel
    simp [Reading.member, lastOfEach, insertMember, hfe, hff]
  refine ⟨resolve_twin, by decide +kernel, ?_, code_of_broken ha h rfl List.mem_cons_self hbroken⟩
  have hout : (twinRun.run twinFiles).stdout = _ := prints_of_reads_several ha h (by simp)
  rw [hout, hmembers]
  decide +kernel

end Invocation

end TemplateQuery
