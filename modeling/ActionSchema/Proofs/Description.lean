import ActionSchema.Describe
import ActionSchema.Proofs.ClosedShape
import ActionSchema.Proofs.ManifestFaults

/-! What a description says. Of an entry it takes the type, the documentation, the arguments without
their predicates and whether there is a payload, and the entries follow each other in blocks that
have nothing to do with one another. -/

namespace ActionSchema.Describe

/-- What a description takes from an entry. No documentation is as good as an empty one. -/
structure Sketch where
  type : String
  doc : String
  whole : Bool
  args : List (String × String)
deriving DecidableEq

namespace Sketch

def ofEntry (entry : ActionEntry) : Sketch where
  type := entry.type
  doc := entry.doc.getD ""
  whole := entry.payload.isSome
  args := entry.args.map fun arg => (arg.id, arg.doc.getD "")

def argumentLine (id doc : String) : String :=
  if doc = "" then "    - " ++ id else "    - " ++ id ++ ": " ++ doc

def payloadLines (k : Sketch) : List String :=
  if k.whole then ["    payload: whole value"]
  else if k.args = [] then ["    payload: none"]
  else k.args.map fun arg => argumentLine arg.1 arg.2

def docLines (k : Sketch) : List String := if k.doc = "" then [] else ["    " ++ k.doc]

def lines (ns : Namespace) (k : Sketch) : List String :=
  (k.type ++ " (" ++ ns.qualify k.type ++ ")") :: (k.docLines ++ k.payloadLines)

def block (ns : Namespace) (k : Sketch) : String := String.join ((k.lines ns).map (· ++ "\n"))

end Sketch

def description (m : Manifest) : String :=
  (if m.ns.name = "" then "" else "namespace: " ++ m.ns.name ++ "\n") ++
    String.join (m.actions.map fun entry => (Sketch.ofEntry entry).block m.ns)

theorem description_congr {m m' : Manifest} (hns : m.ns = m'.ns)
    (hsketches : m.actions.map Sketch.ofEntry = m'.actions.map Sketch.ofEntry) :
    description m = description m' := by
  have hblocks (ns : Namespace) (entries : List ActionEntry) :
      (entries.map fun entry => (Sketch.ofEntry entry).block ns) =
        (entries.map Sketch.ofEntry).map (Sketch.block ns) := by
    rw [List.map_map]
    rfl
  rw [description, description, hblocks, hblocks, hns, hsketches]

theorem description_append (ns : Namespace) (xs ys : List ActionEntry) :
    description ⟨ns, xs ++ ys⟩ = description ⟨ns, xs⟩ ++
      String.join (ys.map fun entry => (Sketch.ofEntry entry).block ns) := by
  simp only [description, List.map_append, String.join_append, String.append_assoc]

theorem header_eq (ns : Namespace) :
    header ns = if ns.name = "" then "" else "namespace: " ++ ns.name ++ "\n" := by
  simp only [header, Namespace.isEmpty, String.isEmpty_iff]

theorem argumentText_of_id {spec : ArgumentSpec} {id : String} (h : spec.id = some id) :
    argumentText spec = Sketch.argumentLine id spec.doc ++ "\n" := by
  unfold argumentText Sketch.argumentLine
  rw [h, Option.getD_some]
  by_cases hdoc : spec.doc = ""
  · simp only [String.isEmpty_iff, hdoc, if_true, String.append_empty]
  · simp only [String.isEmpty_iff, hdoc, if_false, String.append_assoc]

theorem map_argumentText {args : List ArgEntry} {specs : List ArgumentSpec}
    (h : List.Forall₂ (fun (arg : ArgEntry) (spec : ArgumentSpec) =>
      spec.id = some arg.id ∧ spec.doc = arg.doc.getD "") args specs) :
    specs.map argumentText =
      args.map fun arg => Sketch.argumentLine arg.id (arg.doc.getD "") ++ "\n" := by
  induction h with
  | nil => rfl
  | cons hspec _ ih =>
    obtain ⟨hid, hdoc⟩ := hspec
    rw [List.map_cons, List.map_cons, argumentText_of_id hid, hdoc, ih]

section Entry

variable {entry : ActionEntry} {a : ParsedAction}

theorem not_isWholePayload (h : entry.Means a) (hpayload : entry.payload = none) :
    ¬ a.isWholePayload = true := by
  intro hwhole
  obtain ⟨spec, hargs, hspec⟩ := ParsedAction.isWholePayload_iff.mp hwhole
  have hmem : spec ∈ a.args := hargs ▸ List.mem_singleton_self spec
  obtain ⟨arg, -, -, -, hnamed, -⟩ := exists_mem_of_forall₂ (h.fields hpayload).flip hmem
  rw [hspec] at hnamed
  cases hnamed

theorem payloadText_of_means (h : entry.Means a) :
    payloadText a = String.join ((Sketch.ofEntry entry).payloadLines.map (· ++ "\n")) := by
  unfold payloadText Sketch.payloadLines Sketch.ofEntry
  cases hpayload : entry.payload with
  | some name =>
    obtain ⟨test, -, hargs⟩ := h.whole name hpayload
    have hwhole : a.isWholePayload = true := ParsedAction.isWholePayload_iff.mpr ⟨_, hargs, rfl⟩
    rw [hargs, hwhole]
    rfl
  | none =>
    have hfields := h.fields hpayload
    have hnil : a.args.isEmpty = true ↔ entry.args = [] := by
      rw [List.isEmpty_iff, ← List.length_eq_zero_iff, ← List.length_eq_zero_iff,
        hfields.length_eq]
    rw [map_argumentText (hfields.imp fun _ _ hspec => ⟨hspec.1, hspec.2.1⟩)]
    simp only [hnil, not_isWholePayload h hpayload, Option.isSome_none, Bool.false_eq_true,
      if_false, List.map_eq_nil_iff]
    split
    · rfl
    · rw [List.map_map, List.map_map]
      rfl

theorem docText_of_means (h : entry.Means a) :
    (if a.doc.isEmpty then "" else "    " ++ a.doc ++ "\n") =
      String.join ((Sketch.ofEntry entry).docLines.map (· ++ "\n")) := by
  unfold Sketch.docLines Sketch.ofEntry
  rw [h.doc]
  by_cases hempty : entry.doc.getD "" = ""
  · simp only [String.isEmpty_iff, hempty, if_true, List.map_nil, String.join_nil]
  · simp only [String.isEmpty_iff, hempty, if_false, List.map_singleton, String.join_cons,
      String.join_nil, String.append_empty]

theorem actionText_of_means (h : entry.Means a) (ns : Namespace) :
    actionText (ns.qualify a.type) a = (Sketch.ofEntry entry).block ns := by
  have hclose : (")\n" : String) = ")" ++ "\n" := rfl
  unfold actionText Sketch.block Sketch.lines
  rw [docText_of_means h, payloadText_of_means h, List.map_cons, List.map_append,
    String.join_cons, String.join_append, h.type, hclose]
  simp only [Sketch.ofEntry, String.append_assoc]

end Entry

theorem map_actionText {entries : List ActionEntry} {as : List ParsedAction}
    (h : List.Forall₂ ActionEntry.Means entries as) (ns : Namespace) :
    (as.map fun a => actionText (ns.qualify a.type) a) =
      entries.map fun entry => (Sketch.ofEntry entry).block ns := by
  induction h with
  | nil => rfl
  | cons hmeans _ ih => rw [List.map_cons, List.map_cons, actionText_of_means hmeans, ih]

theorem foldlM_writeAction {A : Type} {s : CompiledSchema A} {ns : Namespace}
    {as : List ParsedAction} (h : ∀ a ∈ as, s.actions.get a.type = .ok (ns.qualify a.type))
    (written : String) : as.foldlM (writeAction s) written =
      .ok (written ++ String.join (as.map fun a => actionText (ns.qualify a.type) a)) := by
  induction as generalizing written with
  | nil => rw [List.map_nil, String.join_nil, String.append_empty]; rfl
  | cons a as ih =>
    have hstep : writeAction s written a = .ok (written ++ actionText (ns.qualify a.type) a) := by
      rw [writeAction, h a List.mem_cons_self]
    rw [List.foldlM_cons, hstep, ok_bind, ih fun b hb => h b (List.mem_cons_of_mem a hb),
      List.map_cons, String.join_cons, String.append_assoc]

section Compiled

variable {A : Type} {format : Format A} {m : Manifest} {s : CompiledSchema A}

theorem exists_means_of_compile (h : m.compileWith format = .ok s) :
    ∃ as, List.Forall₂ ActionEntry.Means m.actions as ∧ (as.map (·.type)).Nodup ∧
      s = .tabulate format m.ns as := by
  obtain ⟨ds, hdecls, hcompile⟩ := Manifest.compileWith_eq_ok_iff.mp h
  obtain ⟨as, hparses, hnodup, hs⟩ := compile_eq_ok_iff.mp hcompile
  exact ⟨as, means_of_parses hdecls hparses, hnodup, hs⟩

theorem actions_get_of_mem_toList (h : m.compileWith format = .ok s) :
    ∀ a ∈ s.toList, s.actions.get a.type = .ok (m.ns.qualify a.type) := by
  obtain ⟨as, -, hnodup, rfl⟩ := exists_means_of_compile h
  exact fun a ha => CompiledSchema.actions_get_tabulate hnodup ha

theorem writeSchema_of_compile (h : m.compileWith format = .ok s) :
    writeSchema s = .ok (description m) := by
  have hget := actions_get_of_mem_toList h
  obtain ⟨as, hmeans, -, rfl⟩ := exists_means_of_compile h
  have hwrite : writeSchema (.tabulate format m.ns as) = .ok (header m.ns ++
      String.join (as.map fun a => actionText (m.ns.qualify a.type) a)) :=
    foldlM_writeAction hget (header m.ns)
  rw [hwrite, map_actionText hmeans, header_eq]
  rfl

theorem exists_compile_of_append {ns : Namespace} {xs ys : List ActionEntry}
    (h : (⟨ns, xs ++ ys⟩ : Manifest).compileWith format = .ok s) :
    ∃ s', (⟨ns, xs⟩ : Manifest).compileWith format = .ok s' := by
  obtain ⟨ds, hdecls, hcompile⟩ := Manifest.compileWith_eq_ok_iff.mp h
  obtain ⟨hparses, hnodup⟩ := exists_compile_iff.mp ⟨s, hcompile⟩
  have hfirst : List.Forall₂ (fun (entry : ActionEntry) d => entry.declaration = .ok d) xs
      (ds.take xs.length) := (List.forall₂_take_append _ _ _ hdecls.flip).flip
  have htypes : ((ds.take xs.length).map (·.type)).Nodup := by
    rw [List.map_take]
    exact hnodup.sublist (List.take_sublist ..)
  obtain ⟨s', hs'⟩ := exists_compile_iff.mpr
    ⟨fun d hd => hparses d (List.mem_of_mem_take hd), htypes⟩
  exact ⟨s', Manifest.compileWith_eq_ok_iff.mpr ⟨_, hfirst, hs'⟩⟩

theorem compileWith_ne_unknown {e : ManifestError} (h : m.compileWith format = .error e)
    (type : String) : e ≠ .schema (.unknownActionType type) := by
  rw [Manifest.compileWith, bind_eq_error_iff] at h
  rcases h with hdecls | ⟨ds, -, hcompile⟩
  · obtain ⟨i, ⟨entry, -, hunusable⟩, -⟩ := Manifest.declarations_eq_error_iff.mp hdecls
    intro hsame
    cases hunusable <;> cases hsame
  · obtain ⟨e', he', rfl⟩ := mapError_eq_error_iff.mp hcompile
    obtain ⟨i, ⟨d, -, hrefused⟩, -⟩ := compile_eq_error_iff.mp he'
    intro hsame
    exact (hrefused.ne_unknown type).1 (ManifestError.schema.inj hsame)

end Compiled

section Run

variable {path : String} {file : File}

theorem run_eq_ok_iff {text : String} : run path file = .ok text ↔
    ∃ m s, Manifest.load path file = .ok m ∧ m.compile = .ok s ∧ text = description m := by
  simp only [run, bind_eq_ok_iff, mapError_eq_ok_iff]
  constructor
  · intro h
    obtain ⟨m, hload, s, hcompile, hwrite⟩ := h
    rw [writeSchema_of_compile hcompile] at hwrite
    exact ⟨m, s, hload, hcompile, (Except.ok.inj hwrite).symm⟩
  · intro h
    obtain ⟨m, s, hload, hcompile, rfl⟩ := h
    exact ⟨m, hload, s, hcompile, writeSchema_of_compile hcompile⟩

theorem run_eq_error_iff {halt : Halt} : run path file = .error halt ↔
    (∃ cause, Manifest.load path file = .error cause ∧ halt = ⟨.loading path cause, ""⟩) ∨
    ∃ m cause, Manifest.load path file = .ok m ∧ m.compile = .error cause ∧
      halt = ⟨.compiling cause, ""⟩ := by
  simp only [run, bind_eq_error_iff, mapError_eq_error_iff, mapError_eq_ok_iff]
  constructor
  · intro h
    rcases h with ⟨cause, hload, rfl⟩ | ⟨m, hload, ⟨cause, hcompile, rfl⟩ | ⟨s, hcompile, hwrite⟩⟩
    · exact .inl ⟨cause, hload, rfl⟩
    · exact .inr ⟨m, cause, hload, hcompile, rfl⟩
    · rw [writeSchema_of_compile hcompile] at hwrite
      cases hwrite
  · intro h
    rcases h with ⟨cause, hload, rfl⟩ | ⟨m, cause, hload, hcompile, rfl⟩
    · exact .inl ⟨cause, hload, rfl⟩
    · exact .inr ⟨m, hload, .inl ⟨cause, hcompile, rfl⟩⟩

end Run

/-- A manifest that loads and compiles is described entry by entry, and of any other nothing is
written. The entries are known to the schema, so looking one up is never why a description stops.
Predicates do not show, and further entries add their blocks at the end. -/
theorem describes_every_entry_or_nothing :
    (∀ (path : String) (file : File) (text : String), run path file = .ok text ↔
      ∃ m s, Manifest.load path file = .ok m ∧ m.compile = .ok s ∧ text = description m) ∧
    (∀ (path : String) (file : File) (halt : Halt), run path file = .error halt →
      halt.written = "" ∧
        ∀ type, halt.failure ≠ .compiling (.schema (.unknownActionType type))) ∧
    (∀ (m : Manifest) (s : CompiledSchema Action), m.compile = .ok s →
      writeSchema s = .ok (description m) ∧
        ∀ a ∈ s.toList, s.actions.get a.type = .ok (m.ns.qualify a.type)) ∧
    (∀ (m m' : Manifest) (s s' : CompiledSchema Action), m.compile = .ok s → m'.compile = .ok s' →
      m.ns = m'.ns → m.actions.map Sketch.ofEntry = m'.actions.map Sketch.ofEntry →
      writeSchema s = writeSchema s') ∧
    ∀ (ns : Namespace) (xs ys : List ActionEntry) (s : CompiledSchema Action),
      (⟨ns, xs ++ ys⟩ : Manifest).compile = .ok s →
      ∃ s' text, (⟨ns, xs⟩ : Manifest).compile = .ok s' ∧ writeSchema s' = .ok text ∧
        writeSchema s =
          .ok (text ++ String.join (ys.map fun entry => (Sketch.ofEntry entry).block ns)) := by
  refine ⟨fun path file text => run_eq_ok_iff, fun path file halt h => ⟨?_, fun type => ?_⟩,
    fun m s h => ⟨writeSchema_of_compile h, actions_get_of_mem_toList h⟩, ?_, ?_⟩
  · rcases run_eq_error_iff.mp h with ⟨cause, -, rfl⟩ | ⟨m, cause, -, -, rfl⟩
    · rfl
    · rfl
  · rcases run_eq_error_iff.mp h with ⟨cause, -, rfl⟩ | ⟨m, cause, -, hcompile, rfl⟩
    · exact nofun
    · intro hsame
      exact compileWith_ne_unknown hcompile type (Failure.compiling.inj hsame)
  · intro m m' s s' h h' hns hsketches
    rw [writeSchema_of_compile h, writeSchema_of_compile h', description_congr hns hsketches]
  · intro ns xs ys s h
    obtain ⟨s', hs'⟩ := exists_compile_of_append h
    refine ⟨s', description ⟨ns, xs⟩, hs', writeSchema_of_compile hs', ?_⟩
    rw [writeSchema_of_compile h, description_append]

def sessionFile : File := .ok <| Text.utf8 <|
  "[\"auth\", [[\"LOGIN\", \"User logs in\", null, [[\"user\", null, \"string\"], "
    ++ "[\"remember\", \"Keep the session\", \"boolean?\"]]], "
    ++ "[\"LOGOUT\"], [\"SET_TOKEN\", null, \"string\"]]]"

theorem load_sessionFile : Manifest.load "auth.json" sessionFile = .ok sessionManifest := by
  rw [← toOption_eq_some_iff]
  decide +kernel

def looseManifest : Manifest :=
  ⟨sessionNamespace,
    [⟨"LOGIN", some "User logs in", none,
      [⟨"user", none, "any"⟩, ⟨"remember", some "Keep the session", "number"⟩]⟩,
    logoutEntry, ⟨"SET_TOKEN", some "", some "object", []⟩]⟩

theorem session_described_entry_by_entry : ∃ s s',
    sessionManifest.compile = .ok s ∧ looseManifest.compile = .ok s' ∧
      run "auth.json" sessionFile = .ok ("namespace: auth\nLOGIN (auth_LOGIN)\n    User logs in\n"
        ++ "    - user\n    - remember: Keep the session\nLOGOUT (auth_LOGOUT)\n    payload: none\n"
        ++ "SET_TOKEN (auth_SET_TOKEN)\n    payload: whole value\n") ∧
      writeSchema s = writeSchema s' ∧
      (∃ s₁ text, (⟨sessionNamespace, [loginEntry, logoutEntry]⟩ : Manifest).compile = .ok s₁ ∧
        writeSchema s₁ = .ok text ∧ writeSchema s = .ok
          (text ++ "SET_TOKEN (auth_SET_TOKEN)\n    payload: whole value\n")) ∧
      ∃ halt, run "auth.json" (.error .missing) = .error halt ∧ halt.written = "" := by
  obtain ⟨hsucceeds, hfails, -, hloose, hmore⟩ := describes_every_entry_or_nothing
  obtain ⟨s, hs⟩ : ∃ s, sessionManifest.compile = .ok s := sessionManifest_compiles .standard
  obtain ⟨s', hs'⟩ : ∃ s', looseManifest.compile = .ok s' := ⟨_, rfl⟩
  have hdescribed := (hsucceeds "auth.json" sessionFile _).mpr
    ⟨sessionManifest, s, load_sessionFile, hs, rfl⟩
  have hmissing : run "auth.json" (.error .missing) = .error _ := rfl
  refine ⟨s, s', hs, hs', hdescribed, hloose _ _ s s' hs hs' rfl rfl, ?_, _, hmissing,
    (hfails _ _ _ hmissing).1⟩
  exact hmore sessionNamespace [loginEntry, logoutEntry] [⟨"SET_TOKEN", none, some "string", []⟩]
    s hs

end ActionSchema.Describe
