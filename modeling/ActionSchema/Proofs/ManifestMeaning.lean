import ActionSchema.Manifest.Compile
import ActionSchema.Proofs.Compilation
import ActionSchema.Proofs.PredicateNames
import ActionSchema.Proofs.Shape

/-! What a manifest means. Every entry becomes one declaration, and the actions under its type are
tested by what the entry says. -/

namespace ActionSchema

open Predicate (Denotes)

namespace ArgEntry

def decl (arg : ArgEntry) (test : Predicate) : ArgumentDecl :=
  match arg.doc with
  | some doc => .documented arg.id doc test
  | none => .named arg.id test

theorem spec_decl (arg : ArgEntry) (test : Predicate) :
    (arg.decl test).spec = ⟨some arg.id, arg.doc.getD "", test, false⟩ := by
  unfold decl
  cases arg.doc <;> rfl

theorem field?_decl (arg : ArgEntry) (test : Predicate) :
    (arg.decl test).field? = some ⟨arg.id, arg.doc.getD "", test⟩ := by
  rw [ArgumentDecl.field?_eq_some_iff, spec_decl]
  rfl

def Names (arg : ArgEntry) (f : Field) : Prop :=
  f.id = arg.id ∧ f.doc = arg.doc.getD "" ∧ Denotes arg.predicate f.test

theorem exists_fields {args : List ArgEntry} {decls : List ArgumentDecl}
    (h : List.Forall₂ (fun (arg : ArgEntry) (decl : ArgumentDecl) =>
      ∃ test, Denotes arg.predicate test ∧ decl = arg.decl test) args decls) :
    ∃ fs : List Field, decls.map (·.field?) = fs.map some ∧ List.Forall₂ Names args fs := by
  induction h with
  | nil => exact ⟨[], rfl, .nil⟩
  | @cons arg _ _ _ hdecl _ ih =>
    obtain ⟨test, hdenotes, rfl⟩ := hdecl
    obtain ⟨fs, hfs, hnames⟩ := ih
    refine ⟨⟨arg.id, arg.doc.getD "", test⟩ :: fs, ?_, .cons ⟨rfl, rfl, hdenotes⟩ hnames⟩
    rw [List.map_cons, List.map_cons, hfs, field?_decl]

theorem map_id_of_names {args : List ArgEntry} {fs : List Field}
    (h : List.Forall₂ Names args fs) : fs.map (·.id) = args.map (·.id) := by
  induction h with
  | nil => rfl
  | cons hname _ ih => rw [List.map_cons, List.map_cons, hname.1, ih]

theorem forall_fields_iff {args : List ArgEntry} {fs : List Field}
    (h : List.Forall₂ Names args fs) {value : Table Json} :
    (∀ f ∈ fs, ∃ v, value.get? f.id = some v ∧ f.test (some v) = true) ↔
      ∀ arg ∈ args, ∃ test v, Denotes arg.predicate test ∧ value.get? arg.id = some v ∧
        test (some v) = true := by
  induction h with
  | nil => simp
  | @cons arg f _ _ hname _ ih =>
    obtain ⟨hid, -, hdenotes⟩ := hname
    rw [List.forall_mem_cons, List.forall_mem_cons, ih, hid]
    refine and_congr_left fun _ => ⟨fun ⟨v, hv, htest⟩ => ⟨f.test, v, hdenotes, hv, htest⟩, ?_⟩
    rintro ⟨test, v, hdenotes', hv, htest⟩
    obtain rfl := hdenotes.unique hdenotes'
    exact ⟨v, hv, htest⟩

end ArgEntry

namespace ActionEntry

inductive Allows (entry : ActionEntry) : Option Json → Prop
  | bare (payload : entry.payload = none) (args : entry.args = []) : Allows entry none
  | whole {name : String} {test : Predicate} {value : Option Json}
    (payload : entry.payload = some name) (denotes : Denotes name test)
    (accepted : test value = true) : Allows entry value
  | object {value : Table Json} (payload : entry.payload = none) (nonempty : entry.args ≠ [])
    (closed : ∀ key, key ∈ value.keys ↔ key ∈ entry.args.map (·.id))
    (each : ∀ arg ∈ entry.args, ∃ test v, Denotes arg.predicate test ∧
      value.get? arg.id = some v ∧ test (some v) = true) :
    Allows entry (some (.obj value))

structure Means (entry : ActionEntry) (a : ParsedAction) : Prop where
  type : a.type = entry.type
  doc : a.doc = entry.doc.getD ""
  whole : ∀ name, entry.payload = some name →
    ∃ test, Denotes name test ∧ a.args = [⟨none, "", test, true⟩]
  fields : entry.payload = none → List.Forall₂ (fun (arg : ArgEntry) (spec : ArgumentSpec) =>
    spec.id = some arg.id ∧ spec.doc = arg.doc.getD "" ∧ spec.whole = false ∧
      Denotes arg.predicate spec.test) entry.args a.args

variable {entry : ActionEntry} {decls : List ArgumentDecl}

theorem resolve_eq_ok_iff {name : String} {test : Predicate} :
    entry.resolve name = .ok test ↔ Denotes name test := by
  rw [resolve, mapError_eq_ok_iff, Predicate.byName_eq_ok_iff]

theorem argument_eq_ok_iff {arg : ArgEntry} {decl : ArgumentDecl} :
    entry.argument arg = .ok decl ↔ ∃ test, Denotes arg.predicate test ∧ decl = arg.decl test := by
  simp only [argument, bind_eq_ok_iff, resolve_eq_ok_iff, ArgEntry.decl]
  refine exists_congr fun test => and_congr_right fun _ => ?_
  cases arg.doc <;> exact pure_eq_ok_iff.trans eq_comm

theorem arguments_eq_ok_of_payload {name : String} (h : entry.payload = some name) :
    entry.arguments = .ok decls ↔ entry.args = [] ∧ ∃ test, Denotes name test ∧
      decls = [.whole test] := by
  unfold arguments
  rw [h]
  cases entry.args with
  | nil =>
    simp only [bind_eq_ok_iff, pure_eq_ok_iff, resolve_eq_ok_iff, true_and]
    exact exists_congr fun test => and_congr_right fun _ => eq_comm
  | cons arg args => simp

theorem arguments_eq_ok_of_not_payload (h : entry.payload = none) :
    entry.arguments = .ok decls ↔ List.Forall₂ (fun (arg : ArgEntry) (decl : ArgumentDecl) =>
      ∃ test, Denotes arg.predicate test ∧ decl = arg.decl test) entry.args decls := by
  unfold arguments
  rw [h]
  simp only [mapM_eq_ok_iff, argument_eq_ok_iff]

theorem declaration_eq_ok_iff {d : Declaration} : entry.declaration = .ok d ↔
    ∃ decls, entry.arguments = .ok decls ∧
      d = ⟨entry.type, (entry.doc.map .doc).toList ++ decls.map .arg⟩ := by
  simp only [declaration, bind_eq_ok_iff, pure_eq_ok_iff]
  exact exists_congr fun decls => and_congr_right fun _ => eq_comm

theorem type_of_declaration {d : Declaration} (h : entry.declaration = .ok d) :
    d.type = entry.type := by
  obtain ⟨decls, -, rfl⟩ := declaration_eq_ok_iff.mp h
  rfl

theorem args_declaration (doc : Option String) (decls : List ArgumentDecl) :
    (⟨entry.type, (doc.map .doc).toList ++ decls.map .arg⟩ : Declaration).args = decls := by
  cases doc <;> simp [Declaration.args, Part.argument?]

theorem doc_declaration (doc : Option String) (decls : List ArgumentDecl) :
    (⟨entry.type, (doc.map .doc).toList ++ decls.map .arg⟩ : Declaration).doc = doc.getD "" := by
  cases doc <;> cases decls <;> rfl

theorem describes_iff_allows (h : entry.arguments = .ok decls) {payload : Option Json} :
    Describes decls payload ↔ entry.Allows payload := by
  cases hpayload : entry.payload with
  | some name =>
    obtain ⟨-, test, hdenotes, rfl⟩ := (arguments_eq_ok_of_payload hpayload).mp h
    rw [describes_whole_iff]
    refine ⟨.whole hpayload hdenotes, fun hallows => ?_⟩
    cases hallows with
    | bare payload => simp [hpayload] at payload
    | object payload => simp [hpayload] at payload
    | whole payload hdenotes' accepted =>
      obtain rfl := Option.some.inj (hpayload.symm.trans payload)
      rwa [hdenotes.unique hdenotes']
  | none =>
    rw [arguments_eq_ok_of_not_payload hpayload] at h
    obtain ⟨fs, hfields, hnames⟩ := ArgEntry.exists_fields h
    by_cases hargs : entry.args = []
    -- no fields are declared, and then even the empty object is too much
    · rw [hargs, List.forall₂_nil_left_iff] at h
      rw [h, describes_nil_iff]
      constructor
      · intro habsent
        rw [habsent]
        exact .bare hpayload hargs
      · intro hallows
        cases hallows with
        | bare => rfl
        | whole payload => simp [hpayload] at payload
        | object _ nonempty => exact absurd hargs nonempty
    · have hne : fs ≠ [] := by
        rintro rfl
        exact hargs (List.forall₂_nil_right_iff.mp hnames)
      rw [describes_fields_iff hfields hne, ArgEntry.map_id_of_names hnames]
      constructor
      · rintro ⟨value, rfl, closed, each⟩
        exact .object hpayload hargs closed ((ArgEntry.forall_fields_iff hnames).mp each)
      · intro hallows
        cases hallows with
        | bare _ args => exact absurd args hargs
        | whole payload => simp [hpayload] at payload
        | object _ _ closed each =>
          exact ⟨_, rfl, closed, (ArgEntry.forall_fields_iff hnames).mpr each⟩

variable {d : Declaration} {a : ParsedAction}

theorem tester_eq_true_iff_allows (hdecl : entry.declaration = .ok d) (hparse : d.parse = .ok a)
    {payload : Option Json} : a.tester payload = true ↔ entry.Allows payload := by
  obtain ⟨decls, hdecls, rfl⟩ := declaration_eq_ok_iff.mp hdecl
  rw [Declaration.tester_eq_true_iff_accepts hparse, Declaration.Accepts, args_declaration]
  exact describes_iff_allows hdecls

theorem means_of_parse (hdecl : entry.declaration = .ok d) (hparse : d.parse = .ok a) :
    entry.Means a := by
  obtain ⟨decls, hdecls, rfl⟩ := declaration_eq_ok_iff.mp hdecl
  obtain ⟨-, -, -, rfl⟩ := Declaration.parse_eq_ok_iff.mp hparse
  rw [args_declaration, doc_declaration]
  refine ⟨rfl, rfl, fun name hpayload => ?_, fun hpayload => ?_⟩
  · obtain ⟨-, test, hdenotes, rfl⟩ := (arguments_eq_ok_of_payload hpayload).mp hdecls
    exact ⟨test, hdenotes, rfl⟩
  · rw [List.forall₂_map_right_iff]
    refine ((arguments_eq_ok_of_not_payload hpayload).mp hdecls).imp ?_
    rintro arg _ ⟨test, hdenotes, rfl⟩
    rw [ArgEntry.spec_decl]
    exact ⟨rfl, rfl, rfl, hdenotes⟩

theorem nodup_ids_of_parse (hpayload : entry.payload = none) (hdecl : entry.declaration = .ok d)
    (hparse : d.parse = .ok a) : (entry.args.map (·.id)).Nodup := by
  obtain ⟨decls, hdecls, rfl⟩ := declaration_eq_ok_iff.mp hdecl
  obtain ⟨-, -, hregular, -⟩ := Declaration.parse_eq_ok_iff.mp hparse
  obtain ⟨fs, hfields, hnames⟩ :=
    ArgEntry.exists_fields ((arguments_eq_ok_of_not_payload hpayload).mp hdecls)
  have hids := hregular.nodup_ids
  rwa [args_declaration, map_field?_eq_iff.mp hfields, filterMap_id_spec,
    ArgEntry.map_id_of_names hnames] at hids

theorem payload_eq_none_of_mem (hdecl : entry.declaration = .ok d) {arg : ArgEntry}
    (harg : arg ∈ entry.args) : entry.payload = none := by
  obtain ⟨decls, hdecls, -⟩ := declaration_eq_ok_iff.mp hdecl
  refine Option.eq_none_iff_forall_ne_some.mpr fun name hpayload => ?_
  obtain ⟨hargs, -⟩ := (arguments_eq_ok_of_payload hpayload).mp hdecls
  exact List.ne_nil_of_mem harg hargs

theorem allows_object_iff (hpayload : entry.payload = none) (hargs : entry.args ≠ [])
    {value : Table Json} : entry.Allows (some (.obj value)) ↔
      (∀ key, key ∈ value.keys ↔ key ∈ entry.args.map (·.id)) ∧
      ∀ arg ∈ entry.args, ∃ test v, Denotes arg.predicate test ∧ value.get? arg.id = some v ∧
        test (some v) = true := by
  refine ⟨fun hallows => ?_, fun ⟨closed, each⟩ => .object hpayload hargs closed each⟩
  cases hallows with
  | whole payload => simp [hpayload] at payload
  | object _ _ closed each => exact ⟨closed, each⟩

theorem Allows.insert_null (hpayload : entry.payload = none)
    (hnodup : (entry.args.map (·.id)).Nodup) {value : Table Json}
    (h : entry.Allows (some (.obj value))) {arg : ArgEntry} (harg : arg ∈ entry.args)
    {name : String} (hname : arg.predicate = name ++ "?") :
    entry.Allows (some (.obj (value.insert arg.id .null))) := by
  have hargs := List.ne_nil_of_mem harg
  rw [allows_object_iff hpayload hargs] at h ⊢
  obtain ⟨closed, each⟩ := h
  constructor
  · intro key
    rw [Table.mem_keys_insert, closed]
    refine or_iff_right_of_imp fun hkey => ?_
    rw [hkey]
    exact List.mem_map_of_mem harg
  · intro arg' harg'
    obtain ⟨test, v, hdenotes, hv, htest⟩ := each arg' harg'
    by_cases hid : arg.id = arg'.id
    -- ids are apart, so the field that turns null belongs to no other argument
    · obtain rfl := List.inj_on_of_nodup_map hnodup harg harg' hid
      rw [hname] at hdenotes ⊢
      exact ⟨test, .null, hdenotes, by rw [Table.get?_insert, if_pos rfl], hdenotes.accepts_null⟩
    · exact ⟨test, v, hdenotes, by rwa [Table.get?_insert, if_neg hid], htest⟩

end ActionEntry

theorem means_of_parses {entries : List ActionEntry} {ds : List Declaration}
    {as : List ParsedAction}
    (hdecls : List.Forall₂ (fun (entry : ActionEntry) d => entry.declaration = .ok d) entries ds)
    (hparses : List.Forall₂ (fun (d : Declaration) a => d.parse = .ok a) ds as) :
    List.Forall₂ ActionEntry.Means entries as := by
  induction hdecls generalizing as with
  | nil =>
    cases hparses
    exact .nil
  | cons hdecl _ ih =>
    cases hparses with
    | cons hparse hparses => exact .cons (ActionEntry.means_of_parse hdecl hparse) (ih hparses)

theorem Manifest.compileWith_eq_ok_iff {A : Type} {format : Format A} {m : Manifest}
    {s : CompiledSchema A} : m.compileWith format = .ok s ↔
      ∃ ds, List.Forall₂ (fun (entry : ActionEntry) d => entry.declaration = .ok d) m.actions ds ∧
        ActionSchema.compile format m.ns ds = .ok s := by
  simp only [compileWith, declarations, bind_eq_ok_iff, mapM_eq_ok_iff, mapError_eq_ok_iff]

/-- The declarations of a compiled manifest are those of its entries, each tested by what its entry
lets through. Optional fields may be null, but no field may be missing. -/
theorem compiled_manifest_means_its_entries {A : Type} {format : Format A} {m : Manifest}
    {s : CompiledSchema A} (h : m.compileWith format = .ok s) :
    List.Forall₂ ActionEntry.Means m.actions s.schema.toList ∧
      (∀ entry ∈ m.actions, ∀ action payload,
        format.unformat action = ⟨m.ns.qualify entry.type, payload⟩ →
          ∃ b, s.test action = some b ∧ (b = true ↔ entry.Allows payload)) ∧
      (∀ entry ∈ m.actions, ∀ arg ∈ entry.args, ∀ value : Table Json,
        entry.Allows (some (.obj value)) → value.get? arg.id ≠ none ∧
          ∀ name, arg.predicate = name ++ "?" →
            entry.Allows (some (.obj (value.insert arg.id .null)))) ∧
      ∀ action, (∀ entry ∈ m.actions, (format.unformat action).type ≠ m.ns.qualify entry.type) →
        s.test action = none := by
  obtain ⟨ds, hdecls, hcompile⟩ := Manifest.compileWith_eq_ok_iff.mp h
  obtain ⟨as, hparses, -, hs⟩ := compile_eq_ok_iff.mp hcompile
  refine ⟨?_, fun entry hentry action payload haction => ?_, fun entry hentry arg harg value => ?_,
    fun action hne => ?_⟩
  · rw [hs]
    exact means_of_parses hdecls hparses
  · obtain ⟨d, hd, hdecl⟩ := exists_mem_of_forall₂ hdecls hentry
    obtain ⟨a, -, hparse⟩ := exists_mem_of_forall₂ hparses hd
    rw [← ActionEntry.type_of_declaration hdecl] at haction
    exact ⟨_, CompiledSchema.test_declared hcompile hd hparse haction,
      ActionEntry.tester_eq_true_iff_allows hdecl hparse⟩
  · intro hallows
    obtain ⟨d, hd, hdecl⟩ := exists_mem_of_forall₂ hdecls hentry
    obtain ⟨a, -, hparse⟩ := exists_mem_of_forall₂ hparses hd
    have hpayload := ActionEntry.payload_eq_none_of_mem hdecl harg
    refine ⟨?_, fun name hname => ?_⟩
    · obtain ⟨-, each⟩ :=
        (ActionEntry.allows_object_iff hpayload (List.ne_nil_of_mem harg)).mp hallows
      obtain ⟨test, v, -, hv, -⟩ := each arg harg
      rw [hv]
      exact Option.some_ne_none v
    · have hnodup := ActionEntry.nodup_ids_of_parse hpayload hdecl hparse
      exact hallows.insert_null hpayload hnodup harg hname
  · refine CompiledSchema.test_undeclared hcompile fun d hd => ?_
    obtain ⟨entry, hentry, hdecl⟩ := exists_mem_of_forall₂ hdecls.flip hd
    rw [ActionEntry.type_of_declaration hdecl]
    exact hne entry hentry

def loginEntry : ActionEntry :=
  ⟨"LOGIN", some "User logs in", none,
    [⟨"user", none, "string"⟩, ⟨"remember", some "Keep the session", "boolean?"⟩]⟩

def logoutEntry : ActionEntry := ⟨"LOGOUT", none, none, []⟩

def sessionManifest : Manifest :=
  ⟨sessionNamespace, [loginEntry, logoutEntry, ⟨"SET_TOKEN", none, some "string", []⟩]⟩

theorem sessionManifest_compiles {A : Type} (format : Format A) :
    ∃ s, sessionManifest.compileWith format = .ok s :=
  ⟨_, rfl⟩

theorem sessionManifest_means_its_entries : ∃ s : CompiledSchema Action,
    sessionManifest.compileWith .standard = .ok s ∧
      List.Forall₂ ActionEntry.Means sessionManifest.actions s.schema.toList ∧
      (∃ b, s.test ⟨"auth_LOGOUT", none⟩ = some b ∧ (b = true ↔ logoutEntry.Allows none)) ∧
      s.test ⟨"LOGOUT", none⟩ = none := by
  obtain ⟨s, h⟩ := sessionManifest_compiles .standard
  obtain ⟨means, tests, -, unknown⟩ := compiled_manifest_means_its_entries h
  have hmem : logoutEntry ∈ sessionManifest.actions := by decide
  refine ⟨s, h, means, tests logoutEntry hmem ⟨"auth_LOGOUT", none⟩ none rfl, unknown _ ?_⟩
  decide

/-- An entry without arguments is no entry for objects without fields: a payload has to be absent,
although the empty object has all the keys that the entry asks for. -/
theorem logout_rejects_empty_object : ∃ s : CompiledSchema Action,
    sessionManifest.compileWith .standard = .ok s ∧ logoutEntry ∈ sessionManifest.actions ∧
      logoutEntry.payload = none ∧
      (∀ key, key ∈ (Table.empty : Table Json).keys ↔ key ∈ logoutEntry.args.map (·.id)) ∧
      (∀ arg ∈ logoutEntry.args, ∃ test v, Denotes arg.predicate test ∧
        (Table.empty : Table Json).get? arg.id = some v ∧ test (some v) = true) ∧
      s.test ⟨sessionManifest.ns.qualify logoutEntry.type, some (.obj Table.empty)⟩ =
        some false := by
  refine ⟨_, rfl, by decide, rfl, fun key => Iff.rfl, ?_, rfl⟩
  intro arg harg
  cases harg

end ActionSchema
