import ActionSchema.Proofs.CheckRun
import ActionSchema.Proofs.Namespace

/-! The text of a check as lines. Every report has a line of its own as long as no reported type
holds a line feed; a type that does can pass for other reports. -/

namespace ActionSchema.Text

def closedLines (text : String) : List String :=
  (text.toList.splitOn '\n').dropLast.map String.ofList

theorem splitOn_append_feed (before after : List Char) :
    (before ++ '\n' :: after).splitOn '\n' = before.splitOn '\n' ++ after.splitOn '\n' :=
  List.splitOnP_append_cons before after (beq_self_eq_true '\n')

theorem closedLines_append (text rest : String) :
    closedLines (text ++ "\n" ++ rest) = closedLines (text ++ "\n") ++ closedLines rest := by
  have hrest : (text ++ "\n" ++ rest).toList = text.toList ++ '\n' :: rest.toList := by simp
  have htext : (text ++ "\n").toList = text.toList ++ '\n' :: [] := by simp
  have hne (cs : List Char) : cs.splitOn '\n' ≠ [] := List.splitOnP_ne_nil _ cs
  rw [closedLines, closedLines, closedLines, hrest, htext, splitOn_append_feed,
    splitOn_append_feed, List.dropLast_append_of_ne_nil (hne _),
    List.dropLast_append_of_ne_nil (hne []), List.map_append, List.map_append]
  simp

theorem closedLines_line {line : String} (h : '\n' ∉ line.toList) :
    closedLines (line ++ "\n") = [line] := by
  have hline : (line ++ "\n").toList = line.toList ++ '\n' :: [] := by simp
  rw [closedLines, hline, splitOn_append_feed, List.splitOn_eq_singleton h]
  simp

theorem length_closedLines (text : String) :
    (closedLines text).length = text.toList.count '\n' := by
  have hsplit (cs : List Char) : (cs.splitOn '\n').length = cs.count '\n' + 1 := by
    induction cs with
    | nil => simp
    | cons c cs ih =>
      have hcons : (c :: cs).splitOn '\n' = if (c == '\n') = true then [] :: cs.splitOn '\n'
          else (cs.splitOn '\n').modifyHead (c :: ·) := List.splitOnP_cons_eq_if_modifyHead c cs
      rw [hcons, List.count_cons]
      split
      · rw [List.length_cons, ih]
      · rw [List.length_modifyHead, ih]
  rw [closedLines, List.length_map, List.length_dropLast, hsplit, Nat.add_sub_cancel]

theorem closedLines_join (rows : List String) (rest : String) :
    closedLines (String.join (rows.map (· ++ "\n")) ++ rest) =
      rows.flatMap (fun row => closedLines (row ++ "\n")) ++ closedLines rest := by
  induction rows with
  | nil => simp
  | cons row rows ih =>
    rw [List.map_cons, String.join_cons, String.append_assoc, closedLines_append, ih,
      List.flatMap_cons, List.append_assoc]

theorem eq_of_append_separator_eq {front front' separator rest rest' : String} {c : Char}
    (hseparator : separator.toList.head? = some c) (hfront : c ∉ front.toList)
    (hfront' : c ∉ front'.toList)
    (h : front ++ (separator ++ rest) = front' ++ (separator ++ rest')) :
    front = front' ∧ rest = rest' := by
  obtain ⟨cs, hcs⟩ := List.head?_eq_some_iff.mp hseparator
  have hlist : front.toList ++ c :: (cs ++ rest.toList) =
      front'.toList ++ c :: (cs ++ rest'.toList) := by
    simpa [hcs] using congrArg String.toList h
  rcases Namespace.append_cons_eq_append_cons_iff.mp hlist with
    ⟨hfronts, hrests⟩ | ⟨u, hu, -⟩ | ⟨u, hu, -⟩
  · exact ⟨String.toList_inj.mp hfronts, String.toList_inj.mp (List.append_cancel_left hrests)⟩
  · exact absurd (hu ▸ List.mem_append_right _ List.mem_cons_self) hfront'
  · exact absurd (hu ▸ List.mem_append_right _ List.mem_cons_self) hfront

theorem toString_nat_injective : Function.Injective (toString : Nat → String) := by
  intro n k h
  have hdigits : Nat.toDigits 10 n = Nat.toDigits 10 k := by
    simpa using congrArg String.toList h
  rw [← Nat.ofDigitChars_ten_toDigits (n := n), hdigits, Nat.ofDigitChars_ten_toDigits]

theorem not_mem_toDigits {c : Char} (hc : c.isDigit = false) (n : Nat) :
    c ∉ Nat.toDigits 10 n := by
  intro hmem
  have hdigit : c.isDigit = true := Nat.isDigit_of_mem_toDigits (by decide) (by decide) hmem
  rw [hdigit] at hc
  cases hc

theorem eq_of_toString_append_eq {n k : Nat} {separator rest rest' : String} (c : Char)
    (hseparator : separator.toList.head? = some c) (hc : c.isDigit = false)
    (h : toString n ++ (separator ++ rest) = toString k ++ (separator ++ rest')) :
    n = k ∧ rest = rest' := by
  have hfree (n : Nat) : c ∉ (toString n).toList := by
    simpa using not_mem_toDigits hc n
  obtain ⟨hnumber, hrest⟩ := eq_of_append_separator_eq hseparator (hfree n) (hfree k) h
  exact ⟨toString_nat_injective hnumber, hrest⟩

end ActionSchema.Text

namespace ActionSchema.Check

open Text (closedLines)

namespace Entry

def row (e : Entry) : String :=
  "line " ++ toString e.line ++ ": " ++ e.verdict.name ++ " " ++ e.type

theorem row_injective : Function.Injective row := by
  rintro ⟨n, v, type⟩ ⟨k, v', type'⟩ h
  have hspace (verdict : Verdict) : ' ' ∉ verdict.name.toList := by
    cases verdict <;> decide
  have hname : Function.Injective Verdict.name := by
    intro v v' h
    cases v <;> cases v' <;> first | rfl | exact absurd h (by decide)
  simp only [row, String.append_assoc, String.append_right_inj] at h
  obtain ⟨rfl, hrest⟩ := Text.eq_of_toString_append_eq ':' (by decide) (by decide) h
  obtain ⟨hv, rfl⟩ := Text.eq_of_append_separator_eq (by decide) (hspace v) (hspace v') hrest
  rw [hname hv]

theorem count_row (e : Entry) : e.row.toList.count '\n' = e.type.toList.count '\n' := by
  have hnumber := List.count_eq_zero.mpr (Text.not_mem_toDigits (c := '\n') (by decide) e.line)
  have hname : e.verdict.name.toList.count '\n' = 0 := by
    cases e.verdict <;> decide
  simp [row, hnumber, hname]

end Entry

namespace Summary

def row (s : Summary) : String :=
  toString s.total ++ " actions: " ++ toString s.accepted ++ " accepted, " ++ toString s.ignored
    ++ " ignored, " ++ toString s.rejected ++ " rejected, " ++ toString s.unknown ++ " unknown"

theorem text_eq_row_append (s : Summary) : s.text = s.row ++ "\n" := by
  have hend : " unknown\n" = " unknown" ++ "\n" := by decide
  simp only [text, row, hend, String.append_assoc]

theorem feed_not_mem_row (s : Summary) : '\n' ∉ s.row.toList := by
  have hfeed := Text.not_mem_toDigits (c := '\n') (by decide)
  simp [row, hfeed]

theorem row_injective : Function.Injective row := by
  rintro ⟨t, a, i, r, u⟩ ⟨t', a', i', r', u'⟩ h
  simp only [row, String.append_assoc] at h
  obtain ⟨rfl, ha⟩ := Text.eq_of_toString_append_eq ' ' (by decide) (by decide) h
  obtain ⟨rfl, hi⟩ := Text.eq_of_toString_append_eq ' ' (by decide) (by decide) ha
  obtain ⟨rfl, hr⟩ := Text.eq_of_toString_append_eq ' ' (by decide) (by decide) hi
  obtain ⟨rfl, hu⟩ := Text.eq_of_toString_append_eq ' ' (by decide) (by decide) hr
  rw [Text.toString_nat_injective ((String.append_left_inj _).mp hu)]

end Summary

def reports (args : Arguments) (s : CompiledSchema Json) (stream : List Line) : List Entry :=
  (classified (s.createMiddleware (options args)) stream).filter (·.verdict.isReported)

inductive ReportOf (verdict : Json → Verdict) (stream : List Line) : Entry → Prop
  | action {n : Nat} {value : Json} (line : stream[n]? = some (.action value))
    (reported : (verdict value).isReported = true) :
    ReportOf verdict stream ⟨n + 1, verdict value, (Format.json.unformat value).type⟩

structure Lists (verdict : Json → Verdict) (stream : List Line) (reports : List Entry)
    (summary : Summary) (output : String) : Prop where
  mem_iff : ∀ e, e ∈ reports ↔ ReportOf verdict stream e
  ordered : reports.Pairwise (·.line < ·.line)
  head : ∀ e ∈ reports, ∃ name, (name = "Rejected" ∨ name = "Unknown") ∧
    e.row = "line " ++ toString e.line ++ ": " ++ name ++ " " ++ e.type
  length_eq : reports.length = summary.rejected + summary.unknown
  output_eq : output = String.join (reports.map fun e => e.row ++ "\n") ++ (summary.row ++ "\n")

def Plain (reports : List Entry) : Prop := ∀ e ∈ reports, '\n' ∉ e.type.toList

structure Finished (args : Arguments) (file : File) (m : Manifest) (s : CompiledSchema Json)
    (bytes : List UInt8) (summary : Summary) : Prop where
  loads : Manifest.load args.manifest file = .ok m
  compiles : m.compileWith .json = .ok s
  ends : (run args file (lines bytes)).result = .ok summary

section Reports

variable {args : Arguments} {s : CompiledSchema Json} {stream : List Line}

theorem mem_actions_iff {n : Nat} {value : Json} :
    (n, value) ∈ actions stream ↔ ∃ k, stream[k]? = some (.action value) ∧ n = k + 1 := by
  have haction {line : Line} {value : Json} :
      line.action? = some value ↔ line = .action value := by
    cases line <;> simp [Line.action?]
  rw [actions, List.mem_filterMap]
  constructor
  · intro h
    obtain ⟨⟨line, k⟩, hk, hline⟩ := h
    obtain ⟨_, hvalue, hpair⟩ := Option.map_eq_some_iff.mp hline
    obtain ⟨rfl, rfl⟩ := Prod.mk.inj hpair
    obtain rfl := haction.mp hvalue
    obtain ⟨hle, hget⟩ := List.mem_zipIdx_iff_le_and_getElem?_sub.mp hk
    exact ⟨k - 1, hget, (Nat.sub_add_cancel hle).symm⟩
  · intro h
    obtain ⟨k, hk, rfl⟩ := h
    have hmem : (Line.action value, k + 1) ∈ stream.zipIdx 1 :=
      List.mem_zipIdx_iff_le_and_getElem?_sub.mpr ⟨Nat.le_add_left 1 k, hk⟩
    exact ⟨_, hmem, rfl⟩

theorem pairwise_actions (stream : List Line) : (actions stream).Pairwise (·.1 < ·.1) := by
  have hnumbers : (stream.zipIdx 1).Pairwise (·.2 < ·.2) := by
    rw [← List.pairwise_map (f := Prod.snd) (R := (· < ·)), List.zipIdx_map_snd]
    exact List.pairwise_lt_range'
  refine hnumbers.filterMap _ ?_
  rintro ⟨line, n⟩ ⟨line', n'⟩ hlt a ha a' ha'
  obtain ⟨value, -, rfl⟩ := Option.map_eq_some_iff.mp ha
  obtain ⟨value', -, rfl⟩ := Option.map_eq_some_iff.mp ha'
  exact hlt

theorem mem_reports_iff {e : Entry} : e ∈ reports args s stream ↔
    ReportOf (s.classify args.exempt args.checkPayloads) stream e := by
  rw [reports, List.mem_filter, classified, inspect_options, List.mem_map]
  constructor
  · intro h
    obtain ⟨⟨⟨n, value⟩, hmem, rfl⟩, hreported⟩ := h
    obtain ⟨k, hk, rfl⟩ := mem_actions_iff.mp hmem
    exact .action hk hreported
  · intro h
    obtain ⟨hline, hreported⟩ := h
    exact ⟨⟨_, mem_actions_iff.mpr ⟨_, hline, rfl⟩, rfl⟩, hreported⟩

theorem pairwise_reports : (reports args s stream).Pairwise (·.line < ·.line) := by
  refine List.Pairwise.filter _ ?_
  rw [classified, List.pairwise_map]
  exact pairwise_actions stream

end Reports

section Finished

variable {args : Arguments} {file : File} {m : Manifest} {s : CompiledSchema Json}
  {bytes : List UInt8} {summary : Summary}

theorem Finished.after_eq (h : Finished args file m s bytes summary) :
    summary = Summary.tally
      ((classified (s.createMiddleware (options args)) (lines bytes)).map (·.verdict)) ∧
    (run args file (lines bytes)).output =
      String.join ((reports args s (lines bytes)).map Entry.text) ++ summary.text := by
  have hends := h.ends
  simp only [run, load_eq_ok_iff.mpr ⟨m, h.loads, h.compiles⟩, runSchema] at hends ⊢
  cases hscan : scan (s.createMiddleware (options args)) (lines bytes) with
  | ok p =>
    obtain ⟨-, rfl⟩ := (scan_eq_ok_iff _).mp hscan
    rw [hscan] at hends
    obtain rfl := Except.ok.inj hends
    exact ⟨rfl, rfl⟩
  | error halt =>
    -- a run that halts has no summary
    rw [hscan] at hends
    cases hends

theorem Finished.lists (h : Finished args file m s bytes summary) :
    Lists (s.classify args.exempt args.checkPayloads) (lines bytes) (reports args s (lines bytes))
      summary (run args file (lines bytes)).output := by
  obtain ⟨hsummary, houtput⟩ := h.after_eq
  constructor
  case mem_iff => exact fun e => mem_reports_iff
  case ordered => exact pairwise_reports
  case head =>
    intro e he
    have hreported := (List.mem_filter.mp he).2
    refine ⟨e.verdict.name, ?_, rfl⟩
    cases hverdict : e.verdict with
    | rejected => exact .inl rfl
    | unknown => exact .inr rfl
    | ignored => simp [hverdict, Verdict.isReported] at hreported
    | accepted => simp [hverdict, Verdict.isReported] at hreported
  case length_eq =>
    rw [hsummary, ← Summary.countP_isReported, List.countP_map, reports,
      ← List.countP_eq_length_filter]
    rfl
  case output_eq =>
    rw [houtput, Summary.text_eq_row_append]
    rfl

end Finished

section Lists

variable {verdict : Json → Verdict} {stream : List Line} {entries : List Entry}
  {summary : Summary} {output : String}

theorem Lists.closedLines_eq (h : Lists verdict stream entries summary output) :
    closedLines output = entries.flatMap (fun e => closedLines (e.row ++ "\n")) ++
      [summary.row] := by
  have hrows : entries.map (fun e => e.row ++ "\n") = (entries.map Entry.row).map (· ++ "\n") := by
    rw [List.map_map]
    rfl
  rw [h.output_eq, hrows, Text.closedLines_join, Text.closedLines_line summary.feed_not_mem_row,
    List.flatMap_map]

theorem Lists.length_closedLines (h : Lists verdict stream entries summary output) :
    (closedLines output).length = summary.rejected + summary.unknown + 1 +
      (entries.flatMap fun e => e.type.toList).count '\n' := by
  have hrow (e : Entry) : (closedLines (e.row ++ "\n")).length =
      e.type.toList.count '\n' + 1 := by
    rw [Text.length_closedLines, String.toList_append, List.count_append, e.count_row]
    rfl
  have hrows (entries : List Entry) :
      (entries.flatMap fun e => closedLines (e.row ++ "\n")).length =
        entries.length + (entries.flatMap fun e => e.type.toList).count '\n' := by
    induction entries with
    | nil => rfl
    | cons e entries ih =>
      rw [List.flatMap_cons, List.length_append, hrow, ih, List.length_cons, List.flatMap_cons,
        List.count_append]
      omega
  rw [h.closedLines_eq, List.length_append, hrows, h.length_eq, List.length_singleton]
  omega

theorem Lists.plain_iff_length (h : Lists verdict stream entries summary output) :
    Plain entries ↔ (closedLines output).length = summary.rejected + summary.unknown + 1 := by
  have hfeeds : Plain entries ↔ (entries.flatMap fun e => e.type.toList).count '\n' = 0 := by
    rw [List.count_eq_zero, List.mem_flatMap, Plain]
    simp only [not_exists, not_and]
  rw [hfeeds, h.length_closedLines]
  omega

theorem Lists.plain_iff_closedLines (h : Lists verdict stream entries summary output) :
    Plain entries ↔ closedLines output = entries.map Entry.row ++ [summary.row] := by
  constructor
  · intro hplain
    have hrow : ∀ e ∈ entries, closedLines (e.row ++ "\n") = [e.row] := by
      intro e he
      apply Text.closedLines_line
      rw [← List.count_eq_zero, e.count_row, List.count_eq_zero]
      exact hplain e he
    rw [h.closedLines_eq, List.flatMap_congr hrow, ← List.map_eq_flatMap]
  · intro hlines
    rw [h.plain_iff_length, hlines, List.length_append, List.length_map, h.length_eq,
      List.length_singleton]

theorem Lists.eq_of_plain (h : Lists verdict stream entries summary output)
    (hplain : Plain entries) {verdict' : Json → Verdict} {stream' : List Line}
    {entries' : List Entry} {summary' : Summary}
    (h' : Lists verdict' stream' entries' summary' output) : entries' = entries := by
  have hsummary : summary' = summary := by
    have hlines := h'.closedLines_eq.symm.trans h.closedLines_eq
    exact Summary.row_injective (List.append_singleton_inj.mp hlines).2
  have hplain' : Plain entries' := by
    rw [h'.plain_iff_length, hsummary]
    exact h.plain_iff_length.mp hplain
  have hlines := (h'.plain_iff_closedLines.mp hplain').symm.trans
    (h.plain_iff_closedLines.mp hplain)
  exact List.map_injective_iff.mpr Entry.row_injective (List.append_singleton_inj.mp hlines).1

end Lists

def checkLogout (bytes : List UInt8) : Outcome :=
  run logoutArguments (logoutFiles "auth.json") (lines bytes)

def LogoutFinished (s : CompiledSchema Json) (bytes : List UInt8) (summary : Summary) : Prop :=
  Finished logoutArguments (logoutFiles "auth.json") logoutManifest s bytes summary

theorem exists_logoutFinished : ∃ s, logoutManifest.compileWith .json = .ok s ∧
    ∀ bytes summary, (checkLogout bytes).result.toOption = some summary →
      LogoutFinished s bytes summary := by
  obtain ⟨s, hs⟩ : ∃ s, logoutManifest.compileWith .json = .ok s := ⟨_, rfl⟩
  exact ⟨s, hs, fun bytes summary hends => ⟨load_logoutManifest, hs, toOption_eq_some_iff.mp hends⟩⟩

theorem reports_logout {s : CompiledSchema Json} {bytes : List UInt8} {entries : List Entry}
    (hs : logoutManifest.compileWith .json = .ok s)
    (h : (logoutManifest.compileWith .json).toOption.map
      (fun s => reports logoutArguments s (lines bytes)) = some entries) :
    reports logoutArguments s (lines bytes) = entries := by
  rw [hs] at h
  exact Option.some.inj h

/-- A check that gets to the end lists what it reports, line by line. Each report stands on one
line just if no reported type has a line feed, and then the text tells which reports were made. -/
theorem plain_reports_have_lines_of_their_own {args : Arguments} {file : File} {m : Manifest}
    {s : CompiledSchema Json} {bytes : List UInt8} {summary : Summary}
    (h : Finished args file m s bytes summary) :
    let entries := reports args s (lines bytes)
    let output := (run args file (lines bytes)).output
    Lists (s.classify args.exempt args.checkPayloads) (lines bytes) entries summary output ∧
      (Plain entries ↔ closedLines output = entries.map Entry.row ++ [summary.row]) ∧
      (Plain entries ↔
        (closedLines output).length = summary.rejected + summary.unknown + 1) ∧
      (Plain entries → ∀ args' file' m' s' bytes' summary',
        Finished args' file' m' s' bytes' summary' →
        (run args' file' (lines bytes')).output = output →
          reports args' s' (lines bytes') = entries) := by
  refine ⟨h.lists, h.lists.plain_iff_closedLines, h.lists.plain_iff_length, ?_⟩
  intro hplain args' file' m' s' bytes' summary' h' houtput
  exact h.lists.eq_of_plain hplain (houtput ▸ h'.lists)

theorem logout_check_has_two_lines : ∃ s summary, LogoutFinished s logoutStream summary ∧
    Plain (reports logoutArguments s (lines logoutStream)) ∧
      closedLines (checkLogout logoutStream).output =
        ["line 3: Unknown LOGOUT", "2 actions: 1 accepted, 0 ignored, 0 rejected, 1 unknown"] := by
  obtain ⟨s, hs, hfinished⟩ := exists_logoutFinished
  have hends : (checkLogout logoutStream).result.toOption = some ⟨2, 1, 0, 0, 1⟩ := by
    decide +kernel
  have hreports : reports logoutArguments s (lines logoutStream) =
      [⟨3, .unknown, "LOGOUT"⟩] := reports_logout hs (by decide +kernel)
  have hplain : Plain (reports logoutArguments s (lines logoutStream)) := by
    rw [hreports]
    unfold Plain
    decide
  have hlines := (plain_reports_have_lines_of_their_own (hfinished _ _ hends)).2.1.mp hplain
  rw [hreports] at hlines
  exact ⟨s, _, hfinished _ _ hends, hplain, hlines.trans (by decide)⟩

-- two actions outside the namespace; a type goes on with what looks like a report on line 2
def forgedStream : List UInt8 :=
  Text.utf8 "\x7b\"type\":\"A\\nline 2: Unknown B\"\x7d\n\x7b\"type\":\"C\"\x7d\n"

def forgedStreamShifted : List UInt8 :=
  Text.utf8 "\x7b\"type\":\"A\"\x7d\n\x7b\"type\":\"B\\nline 2: Unknown C\"\x7d\n"

/-- A type with a line feed forges a report, and hides which actions were reported. -/
theorem forged_reports_look_alike : ∃ s summary,
    LogoutFinished s forgedStream summary ∧ LogoutFinished s forgedStreamShifted summary ∧
      (checkLogout forgedStream).output = "line 1: Unknown A\nline 2: Unknown B\n" ++
        "line 2: Unknown C\n2 actions: 0 accepted, 0 ignored, 0 rejected, 2 unknown\n" ∧
      (checkLogout forgedStreamShifted).output = (checkLogout forgedStream).output ∧
      reports logoutArguments s (lines forgedStreamShifted) ≠
        reports logoutArguments s (lines forgedStream) ∧
      (closedLines (checkLogout forgedStream).output).length ≠
        summary.rejected + summary.unknown + 1 := by
  obtain ⟨s, hs, hfinished⟩ := exists_logoutFinished
  have hends : (checkLogout forgedStream).result.toOption = some ⟨2, 0, 0, 0, 2⟩ := by
    decide +kernel
  have hends' : (checkLogout forgedStreamShifted).result.toOption = some ⟨2, 0, 0, 0, 2⟩ := by
    decide +kernel
  have hreports : reports logoutArguments s (lines forgedStream) =
      [⟨1, .unknown, "A\nline 2: Unknown B"⟩, ⟨2, .unknown, "C"⟩] :=
    reports_logout hs (by decide +kernel)
  have hreports' : reports logoutArguments s (lines forgedStreamShifted) =
      [⟨1, .unknown, "A"⟩, ⟨2, .unknown, "B\nline 2: Unknown C"⟩] :=
    reports_logout hs (by decide +kernel)
  have htext := (hfinished _ _ hends).lists.output_eq
  have htext' := (hfinished _ _ hends').lists.output_eq
  rw [hreports] at htext
  rw [hreports'] at htext'
  have houtput : (checkLogout forgedStream).output = "line 1: Unknown A\nline 2: Unknown B\n" ++
      "line 2: Unknown C\n2 actions: 0 accepted, 0 ignored, 0 rejected, 2 unknown\n" :=
    htext.trans (by decide +kernel)
  have houtput' : (checkLogout forgedStreamShifted).output = (checkLogout forgedStream).output :=
    htext'.trans (.trans (by decide +kernel) htext.symm)
  refine ⟨s, _, hfinished _ _ hends, hfinished _ _ hends', houtput, houtput', ?_, ?_⟩
  · rw [hreports, hreports']
    decide
  · rw [houtput, Text.length_closedLines]
    decide +kernel

end ActionSchema.Check
