import ActionSchema.CommandLine
import ActionSchema.Proofs.ByteOrder
import ActionSchema.Proofs.Classification
import ActionSchema.Proofs.Compilation
import ActionSchema.Proofs.Except

/-! What a check leaves behind. The progress after some lines is a table of these lines: their
number, the tally of the verdicts and the reported ones in order. -/

namespace ActionSchema.Check

namespace Line

def action? : Line → Option Json
  | action value => some value
  | _ => none

def Readable (line : Line) : Prop := line ≠ .garbled ∧ line ≠ .malformed

theorem readable_ofText_iff {text : String} : Readable (ofText (some text)) ↔
    (Text.allBlank text = false → (Json.parse? text.toList).isSome) := by
  by_cases hblank : Text.allBlank text = true
  · simp [Readable, ofText, hblank]
  · cases hparse : Json.parse? text.toList <;> simp [Readable, ofText, hblank, hparse]

theorem action?_ofText (text : String) : (ofText (some text)).action? =
    if Text.allBlank text then none else Json.parse? text.toList := by
  by_cases hblank : Text.allBlank text = true
  · simp [ofText, hblank, action?]
  · cases hparse : Json.parse? text.toList <;> simp [ofText, hblank, hparse, action?]

end Line

namespace Summary

def counter (s : Summary) : Verdict → Nat
  | .accepted => s.accepted
  | .ignored => s.ignored
  | .rejected => s.rejected
  | .unknown => s.unknown

def tally (verdicts : List Verdict) : Summary where
  total := verdicts.length
  accepted := verdicts.count .accepted
  ignored := verdicts.count .ignored
  rejected := verdicts.count .rejected
  unknown := verdicts.count .unknown

theorem record_tally (verdicts : List Verdict) (verdict : Verdict) :
    (tally verdicts).record verdict = tally (verdicts ++ [verdict]) := by
  cases verdict <;> simp [tally, record]

theorem counter_tally (verdicts : List Verdict) (verdict : Verdict) :
    (tally verdicts).counter verdict = verdicts.count verdict := by
  cases verdict <;> rfl

theorem total_tally (verdicts : List Verdict) : (tally verdicts).total =
    (tally verdicts).accepted + (tally verdicts).ignored + (tally verdicts).rejected +
      (tally verdicts).unknown := by
  induction verdicts with
  | nil => rfl
  | cons verdict verdicts ih =>
    simp only [tally] at ih
    cases verdict <;> simp [tally] <;> omega

theorem countP_isReported (verdicts : List Verdict) : verdicts.countP (·.isReported) =
    (tally verdicts).rejected + (tally verdicts).unknown := by
  induction verdicts with
  | nil => rfl
  | cons verdict verdicts ih =>
    rw [List.countP_cons, ih]
    cases verdict <;> simp [tally, Verdict.isReported] <;> omega

theorem isClean_iff {s : Summary} : s.isClean = true ↔ s.rejected + s.unknown = 0 := by
  rw [isClean, Bool.and_eq_true, beq_iff_eq, beq_iff_eq, Nat.add_eq_zero_iff]

end Summary

def actions (lines : List Line) : List (Nat × Json) :=
  (lines.zipIdx 1).filterMap fun (line, n) => line.action?.map (n, ·)

theorem actions_concat (lines : List Line) (line : Line) :
    actions (lines ++ [line]) =
      actions lines ++ (line.action?.map (lines.length + 1, ·)).toList := by
  rw [actions, List.zipIdx_append, List.filterMap_append, ← actions, Nat.add_comm]
  cases hline : line.action? <;> simp [hline]

section Run

variable {ρ : Type} (m : ValidationMiddleware Json ρ)

def classified (lines : List Line) : List Entry :=
  (actions lines).map fun (n, value) => ⟨n, m.inspect value, (Format.json.unformat value).type⟩

def Progress.after (lines : List Line) : Progress where
  line := lines.length
  summary := Summary.tally ((classified m lines).map (·.verdict))
  entries := ((classified m lines).filter (·.verdict.isReported)).toArray

theorem classified_concat_of_none {lines : List Line} {line : Line} (h : line.action? = none) :
    classified m (lines ++ [line]) = classified m lines := by
  rw [classified, actions_concat, h, Option.map_none, Option.toList_none, List.append_nil,
    ← classified]

theorem classified_concat_action (lines : List Line) (value : Json) :
    classified m (lines ++ [.action value]) = classified m lines ++
      [⟨lines.length + 1, m.inspect value, (Format.json.unformat value).type⟩] := by
  rw [classified, actions_concat, List.map_append, ← classified]
  rfl

theorem step_after_eq_ok_iff {lines : List Line} {line : Line} {p : Progress} :
    step m (.after m lines) line = .ok p ↔ line.Readable ∧ p = .after m (lines ++ [line]) := by
  cases line with
  | garbled => simp [step, Line.Readable]
  | malformed => simp [step, Line.Readable]
  | blank =>
    have hnone : Line.blank.action? = none := rfl
    simp only [step, Progress.after, classified_concat_of_none m hnone, Line.Readable,
      List.length_append, List.length_singleton, Except.ok.injEq, eq_comm]
    simp
  | action value =>
    simp only [step, Progress.after, classified_concat_action, Line.Readable, List.map_append,
      List.map_singleton, ← Summary.record_tally, List.filter_append, List.filter_singleton,
      List.length_append, List.length_singleton, Except.ok.injEq]
    cases (m.inspect value).isReported <;> simp [eq_comm]

theorem scan_eq_ok_iff {lines : List Line} {p : Progress} :
    scan m lines = .ok p ↔ (∀ line ∈ lines, line.Readable) ∧ p = .after m lines := by
  -- from the last line on: the progress before it is known, and one step is left
  induction lines using List.reverseRecOn generalizing p with
  | nil =>
    rw [scan, List.foldlM_nil, pure_eq_ok_iff, eq_comm]
    exact ⟨fun e => ⟨nofun, e⟩, fun h => h.2⟩
  | append_singleton lines line ih =>
    rw [scan, List.foldlM_append, ← scan, bind_eq_ok_iff]
    simp only [ih, List.foldlM_cons, List.foldlM_nil, bind_pure]
    constructor
    · rintro ⟨_, ⟨hlines, rfl⟩, hstep⟩
      obtain ⟨hline, rfl⟩ := (step_after_eq_ok_iff m).mp hstep
      refine ⟨fun l hl => ?_, rfl⟩
      rcases List.mem_append.mp hl with hl | hl
      · exact hlines l hl
      · exact List.mem_singleton.mp hl ▸ hline
    · rintro ⟨hreadable, rfl⟩
      refine ⟨_, ⟨fun l hl => hreadable l (List.mem_append_left _ hl), rfl⟩, ?_⟩
      have hline := hreadable line (List.mem_append_right _ List.mem_cons_self)
      exact (step_after_eq_ok_iff m).mpr ⟨hline, rfl⟩

end Run

def numbered (texts : List String) : List (Nat × Json) :=
  (texts.zipIdx 1).filterMap fun (text, n) =>
    if Text.allBlank text then none else (Json.parse? text.toList).map (n, ·)

theorem actions_ofText (texts : List String) :
    actions (texts.map fun text => Line.ofText (some text)) = numbered texts := by
  rw [actions, numbered, List.zipIdx_map, List.filterMap_map]
  congr
  funext a
  simp only [Function.comp_apply, Prod.map_fst, Prod.map_snd, id_eq, Line.action?_ofText]
  split <;> rfl

theorem length_numbered {texts : List String}
    (h : ∀ text ∈ texts, Text.allBlank text = false → (Json.parse? text.toList).isSome) :
    (numbered texts).length = texts.countP fun text => !Text.allBlank text := by
  rw [numbered, List.length_filterMap_eq_countP]
  conv_rhs => rw [← List.zipIdx_map_fst 1 texts, List.countP_map]
  refine List.countP_congr fun a ha => ?_
  have hjson := h a.1 (List.fst_mem_of_mem_zipIdx ha)
  by_cases hblank : Text.allBlank a.1 = true
  · simp [hblank]
  · simp [hblank, hjson (Bool.eq_false_iff.mpr hblank)]

def reported (verdict : Json → Verdict) (texts : List String) : List (Nat × Json) :=
  (numbered texts).filter fun a => (verdict a.2).isReported

def reportText (verdict : Json → Verdict) (a : Nat × Json) : String :=
  "line " ++ toString a.1 ++ ": " ++ (verdict a.2).name ++ " " ++ (Format.json.unformat a.2).type
    ++ "\n"

structure Classifies (verdict : Json → Verdict) (texts : List String) (output : String)
    (summary : Summary) : Prop where
  output_eq : output = String.join ((reported verdict texts).map (reportText verdict)) ++
    summary.text
  total_eq : summary.total = texts.countP fun text => !Text.allBlank text
  total_eq_sum : summary.total =
    summary.accepted + summary.ignored + summary.rejected + summary.unknown
  counter_eq : ∀ v, summary.counter v = (numbered texts).countP fun a => verdict a.2 == v
  reported_eq : (reported verdict texts).length = summary.rejected + summary.unknown

section Stream

variable {texts : List String}

theorem verdicts_classified {ρ : Type} (m : ValidationMiddleware Json ρ) :
    (classified m (texts.map fun text => Line.ofText (some text))).map (·.verdict) =
      (numbered texts).map fun a => m.inspect a.2 := by
  rw [classified, actions_ofText, List.map_map]
  rfl

theorem output_after {ρ : Type} (m : ValidationMiddleware Json ρ) :
    (Progress.after m (texts.map fun text => Line.ofText (some text))).output =
      String.join ((reported m.inspect texts).map (reportText m.inspect)) := by
  rw [Progress.output, Progress.after, classified, actions_ofText, List.filter_map, List.map_map]
  rfl

theorem classifies_after {ρ : Type} (m : ValidationMiddleware Json ρ)
    (h : ∀ text ∈ texts, Text.allBlank text = false → (Json.parse? text.toList).isSome)
    {p : Progress} (hp : p = .after m (texts.map fun text => Line.ofText (some text))) :
    Classifies m.inspect texts (p.output ++ p.summary.text) p.summary := by
  have hsummary : p.summary = Summary.tally ((numbered texts).map fun a => m.inspect a.2) := by
    rw [hp, ← verdicts_classified, Progress.after]
  constructor
  case output_eq => rw [hp, output_after]
  case total_eq =>
    rw [hsummary, ← length_numbered h]
    exact List.length_map ..
  case total_eq_sum => rw [hsummary, ← Summary.total_tally]
  case counter_eq =>
    intro v
    rw [hsummary, Summary.counter_tally, List.count, List.countP_map]
    rfl
  case reported_eq =>
    rw [hsummary, ← Summary.countP_isReported, List.countP_map, reported,
      ← List.countP_eq_length_filter]
    rfl

end Stream

def Arguments.exempt (args : Arguments) : List String :=
  MiddlewareSettings.ignoreActions {} ++ args.ignore

theorem contains_options_iff {args : Arguments} {type : String} :
    (options args).ignored.contains type = true ↔ type ∈ args.exempt := by
  change ((MiddlewareOptions.default.change (.checkPayloads args.checkPayloads)).changeAll
    (args.ignore.map .ignore)).ignored.contains type = true ↔ _
  rw [MiddlewareOptions.contains_changeAll_ignore_iff, Arguments.exempt, List.mem_append]
  exact or_congr_left MiddlewareOptions.contains_ignoreSet_iff

theorem checkPayloads_options (args : Arguments) :
    (options args).checkPayloads = args.checkPayloads :=
  MiddlewareOptions.checkPayloads_changeAll_ignore args.ignore

theorem inspect_options (args : Arguments) (s : CompiledSchema Json) :
    (s.createMiddleware (options args)).inspect = s.classify args.exempt args.checkPayloads := by
  funext action
  rw [inspect_eq_classify fun type => contains_options_iff, checkPayloads_options]

def Arguments.stream (args : Arguments) (files : String → File) (stdin : List UInt8) : File :=
  match args.actions with
  | some path => if path == "-" then .ok stdin else files path
  | none => .ok stdin

theorem openInput_of_stream {args : Arguments} {files : String → File} {stdin bytes : List UInt8}
    (h : args.stream files stdin = .ok bytes) :
    openInput args files stdin = .ok (lines bytes) := by
  unfold Arguments.stream at h
  unfold openInput
  cases hactions : args.actions with
  | none =>
    rw [hactions] at h
    rw [Except.ok.inj h]
  | some path =>
    simp only [hactions] at h ⊢
    split at h
    · next hdash => rw [if_pos hdash, Except.ok.inj h]
    · next hdash => rw [if_neg hdash, h, openFile]

theorem load_eq_ok_iff {args : Arguments} {file : File} {s : CompiledSchema Json} :
    load args file = .ok s ↔
      ∃ m, Manifest.load args.manifest file = .ok m ∧ m.compileWith .json = .ok s := by
  simp only [load, bind_eq_ok_iff, mapError_eq_ok_iff]

/-- A check of a stream that can be read to its end classifies what the stream holds, and succeeds
just if nothing had to be reported. -/
theorem check_classifies_stream {args : Arguments} {files : String → File}
    {stdin bytes : List UInt8} {m : Manifest} {s : CompiledSchema Json} {texts : List String}
    (hload : Manifest.load args.manifest (files args.manifest) = .ok m)
    (hcompile : m.compileWith .json = .ok s) (hstream : args.stream files stdin = .ok bytes)
    (htexts : Text.lines bytes = texts.map some)
    (hjson : ∀ text ∈ texts, Text.allBlank text = false → (Json.parse? text.toList).isSome) :
    ∃ output summary,
      Classifies (s.classify args.exempt args.checkPayloads) texts output summary ∧
      (command args files stdin).output = output ∧
      (command args files stdin).result = .ok summary ∧
      CommandLine.run files stdin (.check args) =
        ⟨if reported (s.classify args.exempt args.checkPayloads) texts = [] then 0 else 1,
          output, ""⟩ := by
  have hlines : lines bytes = texts.map fun text => Line.ofText (some text) := by
    rw [lines, htexts, List.map_map]
    rfl
  have hreadable : ∀ line ∈ lines bytes, line.Readable := by
    intro line hline
    rw [hlines] at hline
    obtain ⟨text, htext, rfl⟩ := List.mem_map.mp hline
    exact Line.readable_ofText_iff.mpr (hjson text htext)
  have hscan := (scan_eq_ok_iff (s.createMiddleware (options args))).mpr ⟨hreadable, rfl⟩
  have hclassifies := classifies_after (s.createMiddleware (options args)) hjson
    (congrArg (Progress.after _) hlines)
  have hcommand : command args files stdin = runSchema args s (lines bytes) := by
    rw [command, openInput_of_stream hstream]
    simp only [run, load_eq_ok_iff.mpr ⟨m, hload, hcompile⟩]
  rw [runSchema, hscan] at hcommand
  rw [inspect_options] at hclassifies
  refine ⟨_, _, hclassifies, by rw [hcommand], by rw [hcommand], ?_⟩
  have hclean := hclassifies.reported_eq
  simp only [CommandLine.run, hcommand, Summary.isClean_iff, ← hclean, List.length_eq_zero_iff]

def logoutManifest : Manifest := ⟨sessionNamespace, [⟨"LOGOUT", none, none, []⟩]⟩

def logoutArguments : Arguments := { manifest := "auth.json", checkPayloads := true }

def logoutFiles (path : String) : File :=
  if path == "auth.json" then .ok (Text.utf8 "[\"auth\", [[\"LOGOUT\"]]]") else .error .missing

def logoutStream : List UInt8 :=
  Text.utf8 "\x7b\"type\":\"auth_LOGOUT\"\x7d\n \n\x7b\"type\":\"LOGOUT\"\x7d\r\n"

def logoutTexts : List String :=
  ["\x7b\"type\":\"auth_LOGOUT\"\x7d", " ", "\x7b\"type\":\"LOGOUT\"\x7d"]

theorem load_logoutManifest :
    Manifest.load logoutArguments.manifest (logoutFiles logoutArguments.manifest) =
      .ok logoutManifest := by
  rw [← toOption_eq_some_iff]
  decide +kernel

theorem logout_check_classifies_stream : ∃ s summary,
    logoutManifest.compileWith .json = .ok s ∧
      Classifies (s.classify logoutArguments.exempt true) logoutTexts
        "line 3: Unknown LOGOUT\n2 actions: 1 accepted, 0 ignored, 0 rejected, 1 unknown\n"
        summary := by
  obtain ⟨s, hs⟩ : ∃ s, logoutManifest.compileWith .json = .ok s := ⟨_, rfl⟩
  have hjson : ∀ text ∈ logoutTexts, Text.allBlank text = false →
      (Json.parse? text.toList).isSome := by decide +kernel
  have hstream : logoutArguments.stream logoutFiles logoutStream = .ok logoutStream := rfl
  have htexts : Text.lines logoutStream = logoutTexts.map some := by decide +kernel
  obtain ⟨output, summary, hclassifies, houtput, -, -⟩ :=
    check_classifies_stream load_logoutManifest hs hstream htexts hjson
  have htext : (command logoutArguments logoutFiles logoutStream).output =
      "line 3: Unknown LOGOUT\n2 actions: 1 accepted, 0 ignored, 0 rejected, 1 unknown\n" := by
    decide +kernel
  rw [htext] at houtput
  exact ⟨s, summary, hs, houtput ▸ hclassifies⟩

end ActionSchema.Check
