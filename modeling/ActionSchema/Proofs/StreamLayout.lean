import ActionSchema.Proofs.LineEnds
import ActionSchema.Proofs.Lockstep

/-! The layout of a stream. How its lines end makes no difference to a check, and blank lines among
them do nothing but move the numbers of the lines after them. -/

namespace ActionSchema

theorem Json.parse?_append_of_isBlank (cs : List Char) {c : Char} (h : Outline.isBlank c = true) :
    parse? (cs ++ [c]) = parse? cs := by
  rw [parse?, trimEnd_append_of_isBlank cs h, ← parse?]

structure Text.BlankLine (line : List UInt8) : Prop where
  unbroken : lineFeed ∉ line
  blank : ∃ text, decode? line = some text ∧ allBlank text = true

def Text.spread (pads : List (List (List UInt8))) (bytes : List UInt8) : List UInt8 :=
  (List.zipWith (fun pad line => pad.flatMap (· ++ [lineFeed]) ++ line) pads
    (rawLines bytes)).flatten

def Failure.renumber (f : Nat → Nat) : Failure → Failure
  | reading line => reading (f line)
  | parsing line => parsing (f line)
  | failure => failure

namespace Check

open Text (lineFeed carriageReturn decode? lineText? rawLines withReturns spread BlankLine)

theorem Line.ofText_append_return (text : Option String) :
    ofText (text.map (· ++ "\r")) = ofText text := by
  cases text with
  | none => rfl
  | some text =>
    have hblank : Text.allBlank (text ++ "\r") = Text.allBlank text := by
      rw [Text.allBlank, String.toList_append, List.all_append]
      exact Bool.and_true _
    have hparse : Json.parse? (text ++ "\r").toList = Json.parse? text.toList := by
      rw [String.toList_append]
      exact Json.parse?_append_of_isBlank text.toList (by decide)
    simp only [Option.map_some, ofText, hblank, hparse]

theorem ofText_lineText?_append_feed (line : List UInt8) :
    Line.ofText (lineText? (line ++ [lineFeed])) = Line.ofText (decode? line) := by
  rcases Text.lineText?_append_feed line with h | h
  · rw [h]
  · rw [h, Line.ofText_append_return]

section Lines

variable {line : List UInt8} (h : lineFeed ∉ line)
include h

theorem lines_append_feed (rest : List UInt8) :
    lines (line ++ lineFeed :: rest) = Line.ofText (decode? line) :: lines rest := by
  rw [lines, Text.lines, Text.rawLines_append_feed h, List.map_cons, List.map_cons,
    ofText_lineText?_append_feed]
  rfl

theorem lines_of_not_mem (hne : line ≠ []) : lines line = [Line.ofText (decode? line)] := by
  rw [lines, Text.lines, Text.rawLines_of_not_mem h hne, List.map_singleton, List.map_singleton,
    Text.lineText?_of_not_mem h]

end Lines

theorem lines_withReturns (bytes : List UInt8) : lines (withReturns bytes) = lines bytes := by
  induction bytes using Text.lines_induction with
  | last line h => rw [Text.withReturns_of_not_mem h]
  | more line rest h ih =>
    have hreturn : lineFeed ∉ line ++ [carriageReturn] := by
      simpa [lineFeed, carriageReturn] using h
    rw [Text.withReturns_append_feed h, lines_append_feed hreturn, lines_append_feed h, ih,
      Text.decode?_append_return, Line.ofText_append_return]

theorem lines_append_last_feed {bytes : List UInt8} (hne : bytes ≠ [])
    (hopen : bytes.getLast? ≠ some lineFeed) : lines (bytes ++ [lineFeed]) = lines bytes := by
  induction bytes using Text.lines_induction with
  | last line h =>
    rw [lines_append_feed h, lines_of_not_mem h hne]
    rfl
  | more line rest h ih =>
    -- with nothing after its last line feed the stream would end in it
    have hrest : rest ≠ [] := by
      rintro rfl
      exact hopen List.getLast?_concat
    have hlast : (line ++ lineFeed :: rest).getLast? = rest.getLast? := by
      rw [List.append_cons, List.getLast?_append, List.getLast?_eq_some_getLast hrest]
      rfl
    rw [List.append_assoc, List.cons_append, lines_append_feed h, lines_append_feed h,
      ih hrest (hlast ▸ hopen)]

section Spread

variable {pad : List (List UInt8)} (hblank : ∀ line ∈ pad, BlankLine line)
include hblank

theorem lines_append_pad (bytes : List UInt8) :
    lines (pad.flatMap (· ++ [lineFeed]) ++ bytes) =
      List.replicate pad.length .blank ++ lines bytes := by
  induction pad with
  | nil => rfl
  | cons line pad ih =>
    obtain ⟨hunbroken, text, htext, htextBlank⟩ := hblank line List.mem_cons_self
    have hline : Line.ofText (decode? line) = .blank := by
      rw [htext, Line.ofText, if_pos htextBlank]
    rw [List.flatMap_cons, List.append_assoc, List.append_assoc, List.singleton_append,
      lines_append_feed hunbroken, hline, ih fun l hl => hblank l (List.mem_cons_of_mem line hl)]
    rfl

end Spread

def padded (ks : List Nat) (stream : List Line) : List Line :=
  (List.zipWith (fun k line => List.replicate k .blank ++ [line]) ks stream).flatten

theorem padded_cons (k : Nat) (ks : List Nat) (line : Line) (stream : List Line) :
    padded (k :: ks) (line :: stream) = List.replicate k .blank ++ line :: padded ks stream := by
  simp [padded]

theorem lines_spread {pads : List (List (List UInt8))} {bytes : List UInt8}
    (hlength : pads.length = (rawLines bytes).length)
    (hblank : ∀ pad ∈ pads, ∀ line ∈ pad, BlankLine line) :
    lines (spread pads bytes) = padded (pads.map List.length) (lines bytes) := by
  induction bytes using Text.lines_induction generalizing pads with
  | last line h =>
    by_cases hne : line = []
    · subst hne
      obtain rfl := List.length_eq_zero_iff.mp hlength
      rfl
    · rw [Text.rawLines_of_not_mem h hne] at hlength
      obtain ⟨pad, rfl⟩ := List.length_eq_one_iff.mp hlength
      rw [spread, Text.rawLines_of_not_mem h hne, lines_of_not_mem h hne]
      simp only [List.zipWith_cons_cons, List.zipWith_nil_left, List.flatten_cons,
        List.flatten_nil, List.append_nil]
      rw [lines_append_pad (hblank pad List.mem_cons_self), lines_of_not_mem h hne]
      simp [padded]
  | more line rest h ih =>
    rw [Text.rawLines_append_feed h] at hlength
    cases pads with
    | nil => cases hlength
    | cons pad pads =>
      have hrest := ih (Nat.succ.inj hlength) fun p hp => hblank p (List.mem_cons_of_mem pad hp)
      rw [spread] at hrest ⊢
      rw [Text.rawLines_append_feed h, List.zipWith_cons_cons, List.flatten_cons,
        List.append_assoc, List.append_assoc, lines_append_pad (hblank pad List.mem_cons_self),
        List.singleton_append, lines_append_feed h, hrest, lines_append_feed h, List.map_cons,
        padded_cons]

theorem foldlM_blanks {ρ : Type} (m : ValidationMiddleware Json ρ) (k : Nat) (stream : List Line)
    (p : Progress) : (List.replicate k Line.blank ++ stream).foldlM (step m) p =
      stream.foldlM (step m) { p with line := p.line + k } := by
  induction k generalizing p with
  | zero => rfl
  | succ k ih =>
    rw [List.replicate_succ, List.cons_append, List.foldlM_cons]
    change (List.replicate k Line.blank ++ stream).foldlM (step m) { p with line := p.line + 1 } = _
    rw [ih, Nat.add_assoc, Nat.add_comm 1 k]

theorem load_eq_error {args : Arguments} {file : File} {failure : Failure}
    (h : load args file = .error failure) :
    (∃ cause, failure = .loading args.manifest cause) ∨ ∃ cause, failure = .compiling cause := by
  rw [load, bind_eq_error_iff] at h
  rcases h with h | ⟨m, -, h⟩
  · obtain ⟨cause, -, rfl⟩ := mapError_eq_error_iff.mp h
    exact .inl ⟨cause, rfl⟩
  · obtain ⟨cause, -, rfl⟩ := mapError_eq_error_iff.mp h
    exact .inr ⟨cause, rfl⟩

def Entry.renumber (f : Nat → Nat) (e : Entry) : Entry := { e with line := f e.line }

def Report.renumber (f : Nat → Nat) (r : Report) : Report :=
  ⟨r.entries.map (·.renumber f), r.result.mapError (·.renumber f)⟩

/-- A run has come through `n` lines, and another one through these lines as they are numbered by
`f` among others that show nothing. -/
structure Progress.Renumbered (f : Nat → Nat) (n : Nat) (p p' : Progress) : Prop where
  line : p.line = n
  line' : p'.line = f n
  summary : p'.summary = p.summary
  entries : p'.entries.toList = p.entries.toList.map (·.renumber f)

structure Halt.Renumbered (f : Nat → Nat) (h h' : Halt) : Prop where
  failure : h'.failure = h.failure.renumber f
  entries : h'.progress.entries.toList = h.progress.entries.toList.map (·.renumber f)

section Run

variable {ρ : Type} (m : ValidationMiddleware Json ρ) {f : Nat → Nat} {n : Nat} {p p' : Progress}

theorem step_renumbered {k : Nat} (hp : p.Renumbered f n p') (hf : f (n + 1) = f n + k + 1)
    (line : Line) : Lockstep (Halt.Renumbered f) (Progress.Renumbered f (n + 1)) (step m p line)
      (step m { p' with line := p'.line + k } line) := by
  have hnext : p'.line + k + 1 = f (p.line + 1) := by rw [hp.line', hp.line, hf]
  have hline' : p'.line + k + 1 = f (n + 1) := by rw [hp.line', hf]
  cases line with
  | garbled => exact .error ⟨congrArg Failure.reading hnext, hp.entries⟩
  | malformed => exact .error ⟨congrArg Failure.parsing hnext, hp.entries⟩
  | blank => exact .ok ⟨congrArg (· + 1) hp.line, hline', hp.summary, hp.entries⟩
  | action value =>
    refine .ok ⟨congrArg (· + 1) hp.line, hline', ?_, ?_⟩
    · simp only [hp.summary]
    · by_cases hreported : (m.inspect value).isReported = true
      · simp only [if_pos hreported, Array.toList_push, List.map_append, hp.entries,
          List.map_singleton, Entry.renumber, hnext]
      · simp only [if_neg hreported, hp.entries]

theorem foldlM_padded {ks : List Nat} {stream : List Line} (hlength : ks.length = stream.length)
    (hp : p.Renumbered f n p')
    (hf : ∀ i (hi : i < ks.length), f (n + i + 1) = f (n + i) + ks[i] + 1) :
    Lockstep (Halt.Renumbered f) (Progress.Renumbered f (n + stream.length))
      (stream.foldlM (step m) p) ((padded ks stream).foldlM (step m) p') := by
  induction stream generalizing ks n p p' with
  | nil =>
    obtain rfl := List.length_eq_zero_iff.mp hlength
    exact .ok hp
  | cons line stream ih =>
    cases ks with
    | nil => cases hlength
    | cons k ks =>
      rw [padded_cons, foldlM_blanks, List.foldlM_cons, List.foldlM_cons, List.length_cons,
        Nat.add_comm stream.length, ← Nat.add_assoc]
      refine (step_renumbered m hp (hf 0 (Nat.succ_pos _)) line).bind fun q q' hq => ?_
      -- the numbering is the same, seen from one line further on
      refine ih (Nat.succ.inj hlength) hq fun i hi => ?_
      have hnext := hf (i + 1) (Nat.succ_lt_succ hi)
      rwa [List.getElem_cons_succ, Nat.add_comm i, ← Nat.add_assoc] at hnext

end Run

theorem ofScan_renumbered {f : Nat → Nat} {n : Nat} {x x' : Except Halt Progress}
    (h : Lockstep (Halt.Renumbered f) (Progress.Renumbered f n) x x') :
    Report.ofScan x' = (Report.ofScan x).renumber f := by
  cases h with
  | error h => simp only [Report.ofScan, Report.renumber, h.failure, h.entries, Except.mapError]
  | ok h => simp only [Report.ofScan, Report.renumber, h.summary, h.entries, Except.mapError]

def moved (pads : List (List (List UInt8))) (n : Nat) : Nat := n + (pads.take n).flatten.length

theorem report_spread (args : Arguments) (file : File) {bytes : List UInt8}
    {pads : List (List (List UInt8))} (hlength : pads.length = (rawLines bytes).length)
    (hblank : ∀ pad ∈ pads, ∀ line ∈ pad, BlankLine line) :
    report args file (lines (spread pads bytes)) =
      (report args file (lines bytes)).renumber (moved pads) := by
  have hcount : (pads.map List.length).length = (lines bytes).length := by
    rw [List.length_map, hlength, lines, Text.lines, List.length_map, List.length_map]
  have hstart : ({} : Progress).Renumbered (moved pads) 0 {} := ⟨rfl, rfl, rfl, rfl⟩
  -- a line moves on by its own pad and as far as the line before it
  have hmoved : ∀ i (hi : i < (pads.map List.length).length),
      moved pads (0 + i + 1) = moved pads (0 + i) + (pads.map List.length)[i] + 1 := by
    intro i hi
    have hpad : i < pads.length := by rwa [List.length_map] at hi
    rw [Nat.zero_add, moved, moved, ← List.take_append_getElem hpad, List.flatten_append,
      List.length_append, List.flatten_singleton, List.getElem_map]
    omega
  unfold report
  cases hload : load args file with
  | error failure =>
    rcases load_eq_error hload with ⟨cause, rfl⟩ | ⟨cause, rfl⟩
    · rfl
    · rfl
  | ok s =>
    have hscan := foldlM_padded (s.createMiddleware (options args)) hcount hstart hmoved
    rw [← lines_spread hlength hblank] at hscan
    exact ofScan_renumbered hscan

/-- A check reads the same from a stream however its lines end, and lines that show nothing only
move the numbers of the lines after them. -/
theorem layout_only_numbers_lines (args : Arguments) (file : File) (bytes : List UInt8) :
    run args file (lines (withReturns bytes)) = run args file (lines bytes) ∧
      (bytes ≠ [] → bytes.getLast? ≠ some lineFeed →
        run args file (lines (bytes ++ [lineFeed])) = run args file (lines bytes)) ∧
      ∀ pads, pads.length = (rawLines bytes).length →
        (∀ pad ∈ pads, ∀ line ∈ pad, BlankLine line) →
          (report args file (lines bytes)).ToldBy (run args file (lines bytes)) ∧
            ((report args file (lines bytes)).renumber (moved pads)).ToldBy
              (run args file (lines (spread pads bytes))) := by
  refine ⟨by rw [lines_withReturns], fun hne hopen => by rw [lines_append_last_feed hne hopen],
    fun pads hlength hblank => ⟨toldBy_run .., ?_⟩⟩
  rw [← report_spread args file hlength hblank]
  exact toldBy_run ..

def openStream : List UInt8 :=
  Text.utf8 "\x7b\"type\":\"auth_LOGOUT\"\x7d\n\x7b\"type\":\"LOGOUT\"\x7d"

def openPads : List (List (List UInt8)) := [[Text.utf8 "\u00a0", [carriageReturn]], [[]]]

theorem openPads_blank : ∀ pad ∈ openPads, ∀ line ∈ pad, BlankLine line := by
  have hspace : BlankLine (Text.utf8 "\u00a0") :=
    ⟨by decide, "\u00a0", Text.decode?_eq_some_iff.mpr rfl, by decide⟩
  have hreturn : BlankLine [carriageReturn] :=
    ⟨by decide, "\r", Text.decode?_eq_some_iff.mpr (by decide), by decide⟩
  have hempty : BlankLine [] :=
    ⟨by decide, "", Text.decode?_eq_some_iff.mpr (by decide), by decide⟩
  simp [openPads, hspace, hreturn, hempty]

theorem logout_check_moved :
    (run logoutArguments (logoutFiles "auth.json") (lines openStream)).output =
        "line 2: Unknown LOGOUT\n2 actions: 1 accepted, 0 ignored, 0 rejected, 1 unknown\n" ∧
      run logoutArguments (logoutFiles "auth.json") (lines (openStream ++ [lineFeed])) =
        run logoutArguments (logoutFiles "auth.json") (lines openStream) ∧
      (run logoutArguments (logoutFiles "auth.json") (lines (spread openPads openStream))).output =
        "line 5: Unknown LOGOUT\n2 actions: 1 accepted, 0 ignored, 0 rejected, 1 unknown\n" := by
  obtain ⟨-, hlast, hspread⟩ := layout_only_numbers_lines logoutArguments
    (logoutFiles "auth.json") openStream
  have hne : openStream ≠ [] := by decide
  have hopen : openStream.getLast? ≠ some lineFeed := by decide
  have hlength : openPads.length = (rawLines openStream).length := by decide
  obtain ⟨htold, hmoved⟩ := hspread openPads hlength openPads_blank
  exact ⟨htold.output.trans (by decide +kernel), hlast hne hopen,
    hmoved.output.trans (by decide +kernel)⟩

end Check

end ActionSchema
