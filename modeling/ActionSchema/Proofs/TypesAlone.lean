import ActionSchema.Proofs.Collision
import ActionSchema.Proofs.Lockstep
import ActionSchema.Proofs.ManifestFaults

/-! Checks that do not look at payloads. Of an action they see the type, and of a manifest the
namespace and the set of its types; nothing else of either shows in what they leave behind. -/

namespace ActionSchema

theorem CompiledSchema.classify_false_eq {A : Type} {s s' : CompiledSchema A}
    {exempt exempt' : List String} {x y : A}
    (hexempt : (s.format.unformat x).type ∈ exempt ↔ (s'.format.unformat y).type ∈ exempt')
    (htest : s.test x = none ↔ s'.test y = none) :
    s.classify exempt false x = s'.classify exempt' false y := by
  unfold classify
  rw [if_congr hexempt rfl rfl]
  cases hx : s.test x with
  | none => rw [htest.mp hx]
  | some passes =>
    cases hy : s'.test y with
    | none => exact absurd (hx.symm.trans (htest.mpr hy)) (Option.some_ne_none passes)
    | some passes' => rfl

structure Manifest.SameTypes (m m' : Manifest) : Prop where
  ns : m.ns = m'.ns
  types : ∀ type, type ∈ m.actions.map (·.type) ↔ type ∈ m'.actions.map (·.type)

section Compiled

variable {A : Type} {format : Format A} {m m' : Manifest} {s s' : CompiledSchema A}
  (h : m.compileWith format = .ok s)
include h

theorem Manifest.test_eq_none_iff {action : A} : s.test action = none ↔
    ∀ type ∈ m.actions.map (·.type), (format.unformat action).type ≠ m.ns.qualify type := by
  obtain ⟨ds, hdecls, hcompile⟩ := compileWith_eq_ok_iff.mp h
  rw [CompiledSchema.test_eq_none_iff hcompile, ← ActionEntry.types_of_declarations hdecls,
    List.forall_mem_map]

theorem Manifest.format_of_compileWith : s.format = format := by
  obtain ⟨ds, -, hcompile⟩ := compileWith_eq_ok_iff.mp h
  exact format_of_compile hcompile

theorem Manifest.ns_of_compileWith : s.ns = m.ns := by
  obtain ⟨ds, -, hcompile⟩ := compileWith_eq_ok_iff.mp h
  obtain ⟨as, -, -, rfl⟩ := compile_eq_ok_iff.mp hcompile
  rfl

theorem Manifest.size_of_compileWith : s.size = (m.actions.map (·.type)).length ∧
    (m.actions.map (·.type)).Nodup := by
  obtain ⟨ds, hdecls, hcompile⟩ := compileWith_eq_ok_iff.mp h
  obtain ⟨as, hparses, hnodup, rfl⟩ := compile_eq_ok_iff.mp hcompile
  rw [types_of_parses hparses, ActionEntry.types_of_declarations hdecls] at hnodup
  refine ⟨?_, hnodup⟩
  rw [List.length_map, hdecls.length_eq, hparses.length_eq]
  rfl

end Compiled

namespace Check

/-- Two lines that differ at most in what a check without payloads does not see: both are blank, or
they hold actions of one type. -/
inductive SameType : Option String → Option String → Prop
  | blank {text text' : String} (unprinted : Text.allBlank text = true)
    (unprinted' : Text.allBlank text' = true) : SameType (some text) (some text')
  | action {text text' : String} {value value' : Json} (printed : Text.allBlank text = false)
    (printed' : Text.allBlank text' = false) (parses : Json.parse? text.toList = some value)
    (parses' : Json.parse? text'.toList = some value')
    (type : (Format.json.unformat value).type = (Format.json.unformat value').type) :
    SameType (some text) (some text')

namespace Line

inductive SameType : Line → Line → Prop
  | blank : SameType .blank .blank
  | action {value value' : Json}
    (type : (Format.json.unformat value).type = (Format.json.unformat value').type) :
    SameType (.action value) (.action value')

theorem sameType_ofText {text text' : Option String} (h : Check.SameType text text') :
    (ofText text).SameType (ofText text') := by
  cases h with
  | blank unprinted unprinted' =>
    rw [ofText, ofText, if_pos unprinted, if_pos unprinted']
    exact .blank
  | action printed printed' parses parses' type =>
    simp only [ofText, printed, printed', parses, parses', Bool.false_eq_true, if_false]
    exact .action type

theorem SameType.readable {line line' : Line} (h : line.SameType line') : line.Readable := by
  cases h <;> exact ⟨nofun, nofun⟩

end Line

section Run

variable {ρ ρ' : Type} {m : ValidationMiddleware Json ρ} {m' : ValidationMiddleware Json ρ'}
  (h : ∀ value value', (Format.json.unformat value).type = (Format.json.unformat value').type →
    m.inspect value = m'.inspect value')
include h

theorem step_eq_of_sameType {line line' : Line} (hline : line.SameType line') (p : Progress) :
    step m p line = step m' p line' := by
  cases hline with
  | blank => rfl
  | action type => simp only [step, h _ _ type, type]

theorem scan_eq_of_sameType {stream stream' : List Line}
    (hstream : List.Forall₂ Line.SameType stream stream') : scan m stream = scan m' stream' := by
  have hstep : ∀ p p' line line', p = p' → Line.SameType line line' →
      Lockstep Eq Eq (step m p line) (step m' p' line') := by
    rintro p _ line line' rfl hline
    rw [step_eq_of_sameType h hline]
    cases step m' p line' with
    | error halt => exact .error rfl
    | ok p => exact .ok rfl
  exact (lockstep_foldlM hstep hstream rfl).eq

end Run

section Manifests

variable {args args' : Arguments} {file file' : File} {bytes bytes' : List UInt8}
  {m m' : Manifest} {s s' : CompiledSchema Json}

theorem inspect_eq_of_sameTypes (hcheck : args.checkPayloads = false)
    (hcheck' : args'.checkPayloads = false)
    (hignore : ∀ type, type ∈ args.ignore ↔ type ∈ args'.ignore)
    (hcompile : m.compileWith .json = .ok s) (hcompile' : m'.compileWith .json = .ok s')
    (hmanifest : m.SameTypes m') {value value' : Json}
    (htype : (Format.json.unformat value).type = (Format.json.unformat value').type) :
    (s.createMiddleware (options args)).inspect value =
      (s'.createMiddleware (options args')).inspect value' := by
  have hformat : s.format = .json := Manifest.format_of_compileWith hcompile
  have hformat' : s'.format = .json := Manifest.format_of_compileWith hcompile'
  rw [inspect_options, inspect_options, hcheck, hcheck']
  apply CompiledSchema.classify_false_eq
  · rw [hformat, hformat', htype, Arguments.exempt, Arguments.exempt, List.mem_append,
      List.mem_append, hignore]
  · rw [Manifest.test_eq_none_iff hcompile, Manifest.test_eq_none_iff hcompile', hmanifest.ns,
      htype]
    exact forall_congr' fun type => imp_congr_left (hmanifest.types type)

/-- A check without payloads leaves the same behind for all streams of the same types, whatever else
their actions hold, all manifests of the same types and all orders of the exempted types. -/
theorem check_sees_types_alone (hcheck : args.checkPayloads = false)
    (hcheck' : args'.checkPayloads = false)
    (hignore : ∀ type, type ∈ args.ignore ↔ type ∈ args'.ignore)
    (hload : Manifest.load args.manifest file = .ok m)
    (hload' : Manifest.load args'.manifest file' = .ok m')
    (hcompile : m.compileWith .json = .ok s) (hcompile' : m'.compileWith .json = .ok s')
    (hmanifest : m.SameTypes m')
    (hstream : List.Forall₂ SameType (Text.lines bytes) (Text.lines bytes')) :
    run args file (lines bytes) = run args' file' (lines bytes') ∧
      ∃ summary, (run args file (lines bytes)).result = .ok summary := by
  have hlines : List.Forall₂ Line.SameType (lines bytes) (lines bytes') := by
    rw [lines, lines, List.forall₂_map_left_iff, List.forall₂_map_right_iff]
    exact hstream.imp fun _ _ => Line.sameType_ofText
  have hscan : scan (s.createMiddleware (options args)) (lines bytes) =
      scan (s'.createMiddleware (options args')) (lines bytes') :=
    scan_eq_of_sameType (fun _ _ => inspect_eq_of_sameTypes hcheck hcheck' hignore hcompile
      hcompile' hmanifest) hlines
  -- the scans agree, so what is left is the heading: the namespace and the size of the schema
  have hns : s.ns = s'.ns := by
    rw [Manifest.ns_of_compileWith hcompile, Manifest.ns_of_compileWith hcompile', hmanifest.ns]
  have hsize : s.size = s'.size := by
    obtain ⟨hs, hnodup⟩ := Manifest.size_of_compileWith hcompile
    obtain ⟨hs', hnodup'⟩ := Manifest.size_of_compileWith hcompile'
    have hperm := (List.perm_ext_iff_of_nodup hnodup hnodup').mpr hmanifest.types
    rw [hs, hs', hperm.length_eq]
  have hreadable : ∀ line ∈ lines bytes, line.Readable := by
    intro line hline
    obtain ⟨line', -, hsame⟩ := exists_mem_of_forall₂ hlines hline
    exact hsame.readable
  have hends := (scan_eq_ok_iff (s.createMiddleware (options args))).mpr ⟨hreadable, rfl⟩
  simp only [run, load_eq_ok_iff.mpr ⟨m, hload, hcompile⟩,
    load_eq_ok_iff.mpr ⟨m', hload', hcompile'⟩, runSchema, hns, hsize, ← hscan, hends, true_and]
  exact ⟨_, rfl⟩

end Manifests

theorem SameType.of_map_type (type : String) {text text' : String}
    (printed : Text.allBlank text = false) (printed' : Text.allBlank text' = false)
    (h : (Json.parse? text.toList).map (fun value => (Format.json.unformat value).type) = some type)
    (h' : (Json.parse? text'.toList).map (fun value => (Format.json.unformat value).type) =
      some type) : SameType (some text) (some text') := by
  obtain ⟨value, parses, htype⟩ := Option.map_eq_some_iff.mp h
  obtain ⟨value', parses', htype'⟩ := Option.map_eq_some_iff.mp h'
  exact .action printed printed' parses parses' (htype.trans htype'.symm)

def hastyArguments : Arguments := { manifest := "auth.json", ignore := ["PING", "PONG"] }

def hastyArgumentsAgain : Arguments :=
  { manifest := "auth.json", ignore := ["PONG", "PING", "PONG"] }

def farewellManifest : Manifest :=
  ⟨sessionNamespace, [⟨"LOGOUT", some "User logs out", some "string", []⟩]⟩

def farewellFile : File :=
  .ok (Text.utf8 "[\"auth\", [[\"LOGOUT\", \"User logs out\", \"string\"]]]")

theorem load_farewellManifest :
    Manifest.load hastyArgumentsAgain.manifest farewellFile = .ok farewellManifest := by
  rw [← toOption_eq_some_iff]
  decide +kernel

def ladenStream : List UInt8 :=
  Text.utf8 <| "\x7b\"payload\":7,\"type\":\"auth_LOGOUT\"\x7d\n\n" ++
    "\x7b\"type\":\"LOGOUT\",\"at\":[]\x7d"

theorem logoutStream_sameType :
    List.Forall₂ SameType (Text.lines logoutStream) (Text.lines ladenStream) := by
  have hbare : Text.lines logoutStream = [some "\x7b\"type\":\"auth_LOGOUT\"\x7d", some " ",
      some "\x7b\"type\":\"LOGOUT\"\x7d"] := by decide +kernel
  have hladen : Text.lines ladenStream =
      [some "\x7b\"payload\":7,\"type\":\"auth_LOGOUT\"\x7d", some "",
        some "\x7b\"type\":\"LOGOUT\",\"at\":[]\x7d"] := by decide +kernel
  rw [hbare, hladen]
  refine .cons ?_ (.cons (.blank (by decide) (by decide)) (.cons ?_ .nil))
  · exact .of_map_type "auth_LOGOUT" (by decide) (by decide) (by decide +kernel) (by decide +kernel)
  · exact .of_map_type "LOGOUT" (by decide) (by decide) (by decide +kernel) (by decide +kernel)

theorem logout_checks_agree :
    logoutManifest.SameTypes farewellManifest ∧
      run hastyArguments (logoutFiles "auth.json") (lines logoutStream) =
        run hastyArgumentsAgain farewellFile (lines ladenStream) ∧
      (run hastyArguments (logoutFiles "auth.json") (lines logoutStream)).output =
        "line 3: Unknown LOGOUT\n2 actions: 1 accepted, 0 ignored, 0 rejected, 1 unknown\n" := by
  obtain ⟨s, hs⟩ : ∃ s, logoutManifest.compileWith .json = .ok s := ⟨_, rfl⟩
  obtain ⟨s', hs'⟩ : ∃ s, farewellManifest.compileWith .json = .ok s := ⟨_, rfl⟩
  have hignore : ∀ type, type ∈ hastyArguments.ignore ↔ type ∈ hastyArgumentsAgain.ignore := by
    intro type
    simp only [hastyArguments, hastyArgumentsAgain, List.mem_cons, List.not_mem_nil, or_false]
    tauto
  have hmanifest : logoutManifest.SameTypes farewellManifest := ⟨rfl, fun type => Iff.rfl⟩
  have hcheck : hastyArguments.checkPayloads = false := rfl
  have hcheck' : hastyArgumentsAgain.checkPayloads = false := rfl
  obtain ⟨hagree, -⟩ := check_sees_types_alone hcheck hcheck' hignore load_logoutManifest
    load_farewellManifest hs hs' hmanifest logoutStream_sameType
  exact ⟨hmanifest, hagree, by decide +kernel⟩

end Check

end ActionSchema
