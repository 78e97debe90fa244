import ActionSchema.Proofs.CheckRun
import ActionSchema.Proofs.Lines

/-! Checks that cannot be finished. A fault in the stream ends a run where it stands: the lines
before it have been worked off, and those after it are never looked at. -/

namespace ActionSchema.Check

inductive Fault
  | notUtf8
  | notJson

def Fault.complaint (line : Nat) : Fault → String
  | notUtf8 => "reading line " ++ toString line
  | notJson => "line " ++ toString line ++ ": invalid JSON"

inductive Faulty : Option String → Fault → Prop
  | notUtf8 : Faulty none .notUtf8
  | notJson {text : String} (printed : Text.allBlank text = false)
    (malformed : Json.parse? text.toList = none) : Faulty (some text) .notJson

structure StopsAfter (n : Nat) (bytes : List UInt8) (fault : Fault) : Prop where
  sound : ∀ text ∈ (Text.lines bytes).take n, ∀ f, ¬ Faulty text f
  faulty : ∃ text, (Text.lines bytes)[n]? = some text ∧ Faulty text fault

namespace Line

def failure? (n : Nat) : Line → Option Failure
  | garbled => some (.reading n)
  | malformed => some (.parsing n)
  | blank | action _ => none

theorem readable_of_sound {text : Option String} (h : ∀ f, ¬ Faulty text f) :
    (ofText text).Readable := by
  cases text with
  | none => exact absurd .notUtf8 (h .notUtf8)
  | some text =>
    refine readable_ofText_iff.mpr fun hprinted => Option.isSome_iff_ne_none.mpr fun hparse => ?_
    exact h .notJson (.notJson hprinted hparse)

theorem failure?_of_faulty {text : Option String} {fault : Fault} (h : Faulty text fault)
    (n : Nat) :
    ∃ failure, (ofText text).failure? n = some failure ∧ failure.message = fault.complaint n := by
  cases h with
  | notUtf8 => exact ⟨.reading n, rfl, rfl⟩
  | notJson printed malformed =>
    refine ⟨.parsing n, ?_, rfl⟩
    simp only [ofText, printed, malformed, Bool.false_eq_true, if_false, failure?]

end Line

section Run

variable {ρ : Type} (m : ValidationMiddleware Json ρ) {before : List Line} {line : Line}
  {failure : Failure}

theorem step_after_of_failure (h : line.failure? (before.length + 1) = some failure) :
    step m (.after m before) line = .error ⟨failure, .after m before⟩ := by
  cases line with
  | garbled =>
    obtain rfl := Option.some.inj h
    rfl
  | malformed =>
    obtain rfl := Option.some.inj h
    rfl
  | blank => cases h
  | action value => cases h

theorem scan_of_failure (hbefore : ∀ l ∈ before, l.Readable)
    (h : line.failure? (before.length + 1) = some failure) (after : List Line) :
    scan m (before ++ line :: after) = .error ⟨failure, .after m before⟩ := by
  have hscan := (scan_eq_ok_iff m).mpr ⟨hbefore, rfl⟩
  rw [scan] at hscan ⊢
  rw [List.foldlM_append, hscan]
  change (line :: after).foldlM (step m) (.after m before) = _
  rw [List.foldlM_cons, step_after_of_failure m h]
  rfl

end Run

section Stream

variable {args : Arguments} {file : File} {s : CompiledSchema Json} {n : Nat}
  {bytes : List UInt8} {fault : Fault}

def halted (args : Arguments) (s : CompiledSchema Json) (before : List Line) (failure : Failure) :
    Outcome :=
  let p := Progress.after (s.createMiddleware (options args)) before
  ⟨p.output, .compiledSchema s.ns.name s.size :: p.log, .error failure⟩

theorem run_of_readable (hload : load args file = .ok s) {before : List Line}
    (h : ∀ l ∈ before, l.Readable) (failure : Failure) :
    ∃ summary, (run args file before).result = .ok summary ∧
      (run args file before).output = (halted args s before failure).output ++ summary.text := by
  have hscan := (scan_eq_ok_iff (s.createMiddleware (options args))).mpr ⟨h, rfl⟩
  simp only [run, hload, runSchema, hscan, halted]
  exact ⟨_, rfl, rfl⟩

theorem run_of_failure (hload : load args file = .ok s) {before after : List Line} {line : Line}
    {failure : Failure} (hbefore : ∀ l ∈ before, l.Readable)
    (h : line.failure? (before.length + 1) = some failure) :
    run args file (before ++ line :: after) = halted args s before failure := by
  have hscan := scan_of_failure (s.createMiddleware (options args)) hbefore h after
  simp only [run, hload, runSchema, hscan, halted]

theorem StopsAfter.readable (h : StopsAfter n bytes fault) :
    ∀ l ∈ (lines bytes).take n, l.Readable := by
  intro l hl
  rw [lines, ← List.map_take] at hl
  obtain ⟨text, htext, rfl⟩ := List.mem_map.mp hl
  exact Line.readable_of_sound (h.sound text htext)

theorem run_of_stopsAfter (hload : load args file = .ok s) (h : StopsAfter n bytes fault) :
    ∃ failure, failure.message = fault.complaint (n + 1) ∧
      ∀ bytes', (Text.lines bytes').take (n + 1) = (Text.lines bytes).take (n + 1) →
        run args file (lines bytes') = halted args s ((lines bytes).take n) failure := by
  obtain ⟨text, htext, hfaulty⟩ := h.faulty
  obtain ⟨failure, hfailure, hmessage⟩ := Line.failure?_of_faulty hfaulty (n + 1)
  refine ⟨failure, hmessage, fun bytes' hagree => ?_⟩
  have hlength : ((lines bytes).take n).length = n := by
    obtain ⟨hlt, -⟩ := List.getElem?_eq_some_iff.mp htext
    rw [List.length_take, lines, List.length_map]
    exact Nat.min_eq_left (Nat.le_of_lt hlt)
  -- the other stream has the same sound lines and the same line at fault
  have hsplit : lines bytes' = (lines bytes).take n ++
      Line.ofText text :: (lines bytes').drop (n + 1) := by
    have htake : (lines bytes').take (n + 1) = (lines bytes).take n ++ [Line.ofText text] := by
      rw [lines, lines, ← List.map_take, hagree, List.take_add_one, htext, ← List.map_take,
        List.map_append]
      rfl
    rw [List.append_cons, ← htake, List.take_append_drop]
  rw [hsplit]
  exact run_of_failure hload h.readable (hlength.symm ▸ hfailure)

end Stream

/-- A check that fails has done the work before the failure and none after it. Without a schema
nothing is written; a fault in the stream leaves what its sound lines alone would have. -/
theorem failed_check_keeps_earlier_work (args : Arguments) (file : File) (bytes : List UInt8) :
    ((∀ m s, Manifest.load args.manifest file = .ok m → m.compileWith .json ≠ .ok s) →
      (run args file (lines bytes)).output = "" ∧
        ∃ failure, (run args file (lines bytes)).result = .error failure) ∧
    ∀ m s n fault, Manifest.load args.manifest file = .ok m → m.compileWith .json = .ok s →
      StopsAfter n bytes fault →
        (∃ failure, (run args file (lines bytes)).result = .error failure ∧
          failure.message = fault.complaint (n + 1)) ∧
        (∃ summary, (run args file (lines (Text.takeLines n bytes))).result = .ok summary ∧
          (run args file (lines (Text.takeLines n bytes))).output =
            (run args file (lines bytes)).output ++ summary.text) ∧
        ∀ bytes', (Text.lines bytes').take (n + 1) = (Text.lines bytes).take (n + 1) →
          run args file (lines bytes') = run args file (lines bytes) := by
  constructor
  · intro hnone
    cases hload : load args file with
    | ok s =>
      obtain ⟨m, hm, hs⟩ := load_eq_ok_iff.mp hload
      exact absurd hs (hnone m s hm)
    | error failure =>
      simp only [run, hload, true_and]
      exact ⟨failure, rfl⟩
  · intro m s n fault hm hs h
    have hload := load_eq_ok_iff.mpr ⟨m, hm, hs⟩
    obtain ⟨failure, hmessage, hrun⟩ := run_of_stopsAfter hload h
    have hself := hrun bytes rfl
    refine ⟨⟨failure, by rw [hself, halted], hmessage⟩, ?_, fun bytes' hagree => ?_⟩
    · have hcut : lines (Text.takeLines n bytes) = (lines bytes).take n := by
        rw [lines, Text.lines_takeLines, List.map_take, ← lines]
      rw [hcut, hself]
      exact run_of_readable hload h.readable failure
    · rw [hrun bytes' hagree, hself]

def brokenStream : List UInt8 := Text.utf8 "\x7b\"type\":\"LOGOUT\"\x7d\n \n\x7b\n" ++ [0xFF]

theorem brokenStream_stops : StopsAfter 2 brokenStream .notJson where
  sound := by
    have htake : (Text.lines brokenStream).take 2 =
        [some "\x7b\"type\":\"LOGOUT\"\x7d", some " "] := by decide +kernel
    have hjson : (Json.parse? "\x7b\"type\":\"LOGOUT\"\x7d".toList).isSome := by decide +kernel
    have hblank : Text.allBlank " " = true := by decide
    rw [htake]
    intro text htext fault hfaulty
    simp only [List.mem_cons, List.not_mem_nil, or_false] at htext
    rcases htext with rfl | rfl
    · cases hfaulty with
      | notJson printed malformed =>
        rw [malformed] at hjson
        cases hjson
    · cases hfaulty with
      | notJson printed malformed =>
        rw [printed] at hblank
        cases hblank
  faulty := by
    have hline : (Text.lines brokenStream)[2]? = some (some "\x7b") := by decide +kernel
    have hparse : Json.parse? "\x7b".toList = none := by
      rw [← Option.isNone_iff_eq_none]
      decide +kernel
    exact ⟨_, hline, .notJson (by decide) hparse⟩

theorem broken_check_keeps_earlier_work :
    (run logoutArguments (.error .missing) (lines brokenStream)).output = "" ∧
      (run logoutArguments (logoutFiles "auth.json") (lines brokenStream)).output =
        "line 1: Unknown LOGOUT\n" ∧
      ∃ failure, (run logoutArguments (logoutFiles "auth.json") (lines brokenStream)).result =
        .error failure ∧ failure.message = "line 3: invalid JSON" := by
  obtain ⟨s, hs⟩ : ∃ s, logoutManifest.compileWith .json = .ok s := ⟨_, rfl⟩
  have hmissing : ∀ m s, Manifest.load logoutArguments.manifest (.error .missing) = .ok m →
      m.compileWith .json ≠ .ok s := nofun
  have hnothing := (failed_check_keeps_earlier_work logoutArguments (.error .missing)
    brokenStream).1 hmissing
  have hearlier := (failed_check_keeps_earlier_work logoutArguments (logoutFiles "auth.json")
    brokenStream).2 logoutManifest s 2 .notJson load_logoutManifest hs brokenStream_stops
  have houtput : (run logoutArguments (logoutFiles "auth.json") (lines brokenStream)).output =
      "line 1: Unknown LOGOUT\n" := by decide +kernel
  exact ⟨hnothing.1, houtput, hearlier.1⟩

end ActionSchema.Check
