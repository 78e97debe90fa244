import ActionSchema.Proofs.CompileFaults
import ActionSchema.Proofs.ManifestMeaning

/-! Why a manifest does not compile. Entries that are no declarations come first, in the order of
the manifest; only if there are none does it matter what the entries declare. -/

namespace ActionSchema

open Predicate (Denotes)

namespace ActionEntry

def names (entry : ActionEntry) : List String :=
  entry.payload.toList ++ entry.args.map (·.predicate)

def Conflicting (entry : ActionEntry) : Prop := entry.payload ≠ none ∧ entry.args ≠ []

instance (entry : ActionEntry) : Decidable entry.Conflicting :=
  inferInstanceAs (Decidable (entry.payload ≠ none ∧ entry.args ≠ []))

def Unresolved (name : String) : Prop := Predicate.stem name ∉ Predicate.builtinNames

instance (name : String) : Decidable (Unresolved name) :=
  inferInstanceAs (Decidable (Predicate.stem name ∉ Predicate.builtinNames))

inductive Unusable (entry : ActionEntry) : ManifestError → Prop
  | conflict (both : entry.Conflicting) : Unusable entry (.conflictingPayload entry.type)
  | predicate {name : String} (one : ¬ entry.Conflicting)
    (first : entry.names.find? (Unresolved ·) = some name) :
    Unusable entry (.predicate entry.type (Predicate.stem name))

end ActionEntry

inductive ArgEntry.Misnamed (type : String) (before : List ArgEntry) (arg : ArgEntry) :
    SchemaError → Prop
  | unnamed (id_eq : arg.id = "") : Misnamed type before arg (.emptyArgumentId type before.length)
  | repeated (named : arg.id ≠ "") (known : arg.id ∈ before.map (·.id)) :
    Misnamed type before arg (.duplicateArgument type arg.id)

namespace ActionEntry

inductive Misdeclared (before : List ActionEntry) (entry : ActionEntry) : SchemaError → Prop
  | untyped (type_eq : entry.type = "") : Misdeclared before entry .emptyActionType
  | argument {i : Nat} {e : SchemaError} (typed : entry.type ≠ "")
    (first : FirstFault (ArgEntry.Misnamed entry.type) entry.args i e) : Misdeclared before entry e
  | repeated (typed : entry.type ≠ "")
    (sound : ∀ i e, ¬ FirstFault (ArgEntry.Misnamed entry.type) entry.args i e)
    (known : entry.type ∈ before.map (·.type)) :
    Misdeclared before entry (.duplicateActionType entry.type)

variable {entry : ActionEntry}

section Unusable

variable {e : ManifestError}

theorem resolve_eq_error_iff {name : String} : entry.resolve name = .error e ↔
    Unresolved name ∧ e = .predicate entry.type (Predicate.stem name) := by
  simp only [resolve, mapError_eq_error_iff, Predicate.byName_eq_error_iff]
  constructor
  · intro h
    obtain ⟨unknown, ⟨rfl, hnot⟩, rfl⟩ := h
    exact ⟨hnot, rfl⟩
  · intro h
    obtain ⟨hnot, rfl⟩ := h
    exact ⟨_, ⟨rfl, hnot⟩, rfl⟩

theorem argument_eq_error_iff {arg : ArgEntry} : entry.argument arg = .error e ↔
    Unresolved arg.predicate ∧ e = .predicate entry.type (Predicate.stem arg.predicate) := by
  rw [argument, bind_eq_error_iff, resolve_eq_error_iff]
  refine or_iff_left ?_
  intro hpure
  obtain ⟨test, -, h⟩ := hpure
  cases hdoc : arg.doc <;> simp [hdoc] at h

theorem mapM_argument_eq_error_iff {args : List ArgEntry} :
    args.mapM entry.argument = .error e ↔
      ∃ name, (args.map (·.predicate)).find? (Unresolved ·) = some name ∧
        e = .predicate entry.type (Predicate.stem name) := by
  simp only [mapM_eq_error_iff, argument_eq_error_iff, exists_firstFault_iff_find?, List.find?_map,
    Option.map_eq_some_iff, exists_exists_and_eq_and]
  rfl

theorem arguments_eq_error_iff : entry.arguments = .error e ↔ entry.Unusable e := by
  have hiff : entry.Unusable e ↔ entry.Conflicting ∧ e = .conflictingPayload entry.type ∨
      ¬ entry.Conflicting ∧ ∃ name, entry.names.find? (Unresolved ·) = some name ∧
        e = .predicate entry.type (Predicate.stem name) := by
    constructor
    · intro hunusable
      rcases hunusable with both | ⟨one, first⟩
      · exact .inl ⟨both, rfl⟩
      · exact .inr ⟨one, _, first, rfl⟩
    · intro h
      rcases h with ⟨both, rfl⟩ | ⟨one, name, first, rfl⟩
      · exact .conflict both
      · exact .predicate one first
  rw [hiff, arguments]
  -- only a payload and arguments together are a conflict
  cases hpayload : entry.payload with
  | none =>
    have hone : ¬ entry.Conflicting := fun both => both.1 hpayload
    have hnames : entry.names = entry.args.map (·.predicate) := by rw [names, hpayload]; rfl
    simp only [mapM_argument_eq_error_iff, hone, hnames, false_and, false_or, not_false_eq_true,
      true_and]
  | some name =>
    cases hargs : entry.args with
    | nil =>
      have hone : ¬ entry.Conflicting := fun both => both.2 hargs
      have hnames : entry.names = [name] := by rw [names, hpayload, hargs]; rfl
      simp only [bind_eq_error_iff, pure_ne_error, and_false, exists_false, or_false,
        resolve_eq_error_iff, hone, hnames, false_and, false_or, not_false_eq_true, true_and]
      by_cases hname : Unresolved name <;> simp [hname]
    | cons arg args =>
      have hboth : entry.Conflicting := ⟨by simp [hpayload], by simp [hargs]⟩
      simp only [hboth, true_and, not_true_eq_false, false_and, or_false, Except.error.injEq]
      exact eq_comm

theorem declaration_eq_error_iff : entry.declaration = .error e ↔ entry.Unusable e := by
  simp only [declaration, bind_eq_error_iff, pure_ne_error, and_false, exists_false, or_false,
    arguments_eq_error_iff]

end Unusable

theorem exists_unusable_iff :
    (∃ e, entry.Unusable e) ↔ entry.Conflicting ∨ ∃ name ∈ entry.names, Unresolved name := by
  constructor
  · intro h
    rcases h with ⟨_, both | ⟨one, first⟩⟩
    · exact .inl both
    · have hname := List.find?_some first
      exact .inr ⟨_, List.mem_of_find?_eq_some first, of_decide_eq_true hname⟩
  · intro h
    by_cases both : entry.Conflicting
    · exact ⟨_, .conflict both⟩
    · obtain ⟨name, hmem, hname⟩ := h.resolve_left both
      have hsome : (entry.names.find? (Unresolved ·)).isSome :=
        List.find?_isSome.mpr ⟨name, hmem, decide_eq_true hname⟩
      obtain ⟨first, hfirst⟩ := Option.isSome_iff_exists.mp hsome
      exact ⟨_, .predicate both hfirst⟩

section Misdeclared

variable {d : Declaration} {decls : List ArgumentDecl} {e : SchemaError}

theorem map_id_of_args {args : List ArgEntry}
    (h : List.Forall₂ (fun (arg : ArgEntry) (decl : ArgumentDecl) =>
      ∃ test, Denotes arg.predicate test ∧ decl = arg.decl test) args decls) :
    decls.filterMap (·.spec.id) = args.map (·.id) := by
  induction h with
  | nil => rfl
  | @cons arg _ _ _ hdecl _ ih =>
    obtain ⟨test, -, rfl⟩ := hdecl
    have hid : (arg.decl test).spec.id = some arg.id := by rw [ArgEntry.spec_decl]
    simp only [List.filterMap_cons, hid, ih, List.map_cons]

theorem fault_decl_iff {type : String} {count : Nat} {args : List ArgEntry} {arg : ArgEntry}
    {test : Predicate} (hids : decls.filterMap (·.spec.id) = args.map (·.id))
    (hlength : decls.length = args.length) :
    ArgumentDecl.Fault type count decls (arg.decl test) e ↔ arg.Misnamed type args e := by
  have hspec := ArgEntry.spec_decl arg test
  generalize hdecl : arg.decl test = decl at hspec
  have hid : decl.spec.id = some arg.id := by rw [hspec]
  constructor
  · intro hfault
    cases hfault with
    | crowded => cases hid
    | unnamed id_eq =>
      rw [hlength]
      exact .unnamed (Option.some.inj (hid.symm.trans id_eq))
    | repeated id_eq named known =>
      obtain rfl := Option.some.inj (hid.symm.trans id_eq)
      exact .repeated named (hids ▸ known)
  · intro hfault
    cases hfault with
    | unnamed id_eq =>
      rw [← hlength]
      exact .unnamed (id_eq ▸ hid)
    | repeated named known => exact .repeated hid named (hids ▸ known)

theorem exists_fault_iff_misnamed (h : entry.arguments = .ok decls) :
    (∃ i, FirstFault (ArgumentDecl.Fault entry.type decls.length) decls i e) ↔
      ∃ i, FirstFault (ArgEntry.Misnamed entry.type) entry.args i e := by
  cases hpayload : entry.payload with
  | some name =>
    -- one whole payload is never at fault, and the entry has no arguments
    obtain ⟨hargs, test, -, rfl⟩ := (arguments_eq_ok_of_payload hpayload).mp h
    have hsound : ¬ ArgumentDecl.Fault entry.type 1 [] (.whole test) e := by
      intro hfault
      cases hfault with
      | crowded others => simp at others
      | unnamed id_eq => cases id_eq
      | repeated id_eq => cases id_eq
    rw [hargs, List.length_singleton, exists_firstFault_cons_iff]
    simp only [not_firstFault_nil, exists_false, and_false, or_false, hsound]
  | none =>
    rw [arguments_eq_ok_of_not_payload hpayload] at h
    refine (exists_firstFault_congr h fun args decls' arg decl hbefore hdecl e => ?_).symm
    obtain ⟨test, -, rfl⟩ := hdecl
    exact (fault_decl_iff (map_id_of_args hbefore) hbefore.length_eq.symm).symm

theorem docFirst_of_declaration (h : entry.declaration = .ok d) : d.DocFirst := by
  obtain ⟨decls, -, rfl⟩ := declaration_eq_ok_iff.mp h
  intro p hp
  have harg : p ∈ decls.map Part.arg := by
    cases hdoc : entry.doc with
    | none => exact List.mem_of_mem_tail (by simpa [hdoc] using hp)
    | some doc => simpa [hdoc] using hp
  obtain ⟨decl, -, rfl⟩ := List.mem_map.mp harg
  exact Option.some_ne_none decl

theorem parse_declaration_eq_error_iff (h : entry.declaration = .ok d) :
    d.parse = .error e ↔ entry.type = "" ∧ e = .emptyActionType ∨
      entry.type ≠ "" ∧ ∃ i, FirstFault (ArgEntry.Misnamed entry.type) entry.args i e := by
  have htype := type_of_declaration h
  have hdoc := docFirst_of_declaration h
  obtain ⟨decls, hdecls, rfl⟩ := declaration_eq_ok_iff.mp h
  have hargs : Declaration.args ⟨entry.type, (entry.doc.map .doc).toList ++ decls.map .arg⟩ =
      decls := args_declaration entry.doc decls
  rw [Declaration.parse_eq_error_iff, ← exists_fault_iff_misnamed hdecls]
  constructor
  · intro hmalformed
    cases hmalformed with
    | untyped type_eq => exact .inl ⟨type_eq, rfl⟩
    | doc _ first => exact absurd first hdoc.not_firstFault
    | argument typed _ first =>
      rw [hargs] at first
      exact .inr ⟨typed, _, first⟩
  · intro hfault
    rcases hfault with ⟨type_eq, rfl⟩ | ⟨typed, i, first⟩
    · exact .untyped type_eq
    · rw [← hargs] at first
      exact .argument typed hdoc first

theorem regular_iff (h : entry.arguments = .ok decls) : Regular (decls.map (·.spec)) ↔
    (∀ arg ∈ entry.args, arg.id ≠ "") ∧ (entry.args.map (·.id)).Nodup := by
  cases hpayload : entry.payload with
  | some name =>
    obtain ⟨hargs, test, -, rfl⟩ := (arguments_eq_ok_of_payload hpayload).mp h
    rw [hargs]
    exact ⟨fun _ => ⟨nofun, List.nodup_nil⟩, fun _ => .whole test⟩
  | none =>
    rw [arguments_eq_ok_of_not_payload hpayload] at h
    have hids := map_id_of_args h
    have hnamed : ∀ decl ∈ decls, ∃ arg ∈ entry.args, decl.spec.id = some arg.id := by
      intro decl hdecl
      obtain ⟨arg, harg, test, -, rfl⟩ := exists_mem_of_forall₂ h.flip hdecl
      exact ⟨arg, harg, by rw [ArgEntry.spec_decl]⟩
    have hnotWhole : ¬ ∃ test, decls = [.whole test] := by
      rintro ⟨test, rfl⟩
      obtain ⟨arg, -, hid⟩ := hnamed _ (List.mem_singleton_self _)
      cases hid
    rw [regular_map_spec_iff, hids, or_iff_right hnotWhole]
    refine and_congr_left fun _ => ⟨fun named arg harg => ?_, fun named decl hdecl => ?_⟩
    · obtain ⟨decl, hdecl, test, -, rfl⟩ := exists_mem_of_forall₂ h harg
      obtain ⟨id, hid, hne⟩ := named _ hdecl
      rw [ArgEntry.spec_decl] at hid
      exact Option.some.inj hid ▸ hne
    · obtain ⟨arg, harg, hid⟩ := hnamed decl hdecl
      exact ⟨arg.id, hid, named arg harg⟩

theorem exists_parse_iff (h : entry.declaration = .ok d) : (∃ a, d.parse = .ok a) ↔
    entry.type ≠ "" ∧ (∀ arg ∈ entry.args, arg.id ≠ "") ∧ (entry.args.map (·.id)).Nodup := by
  have hdoc := docFirst_of_declaration h
  have htype := type_of_declaration h
  obtain ⟨decls, hdecls, hd⟩ := declaration_eq_ok_iff.mp h
  have hargs : d.args = decls := by rw [hd, args_declaration]
  simp only [Declaration.parse_eq_ok_iff, hargs, htype, hdoc, true_and, regular_iff hdecls]
  exact ⟨fun ⟨_, typed, hregular, _⟩ => ⟨typed, hregular⟩,
    fun ⟨typed, hregular⟩ => ⟨_, typed, hregular, rfl⟩⟩

end Misdeclared

theorem types_of_declarations {entries : List ActionEntry} {ds : List Declaration}
    (h : List.Forall₂ (fun (entry : ActionEntry) d => entry.declaration = .ok d) entries ds) :
    ds.map (·.type) = entries.map (·.type) := by
  induction h with
  | nil => rfl
  | cons hdecl _ ih => rw [List.map_cons, List.map_cons, ih, type_of_declaration hdecl]

theorem refused_iff_misdeclared {before : List ActionEntry} {ds : List Declaration}
    {d : Declaration} {e : SchemaError}
    (hbefore : List.Forall₂ (fun (entry : ActionEntry) d => entry.declaration = .ok d) before ds)
    (h : entry.declaration = .ok d) : Declaration.Refused ds d e ↔ entry.Misdeclared before e := by
  have htypes := types_of_declarations hbefore
  constructor
  · intro hrefused
    cases hrefused with
    | unparsed fails =>
      rcases (parse_declaration_eq_error_iff h).mp fails with ⟨type_eq, rfl⟩ | ⟨typed, i, first⟩
      · exact .untyped type_eq
      · exact .argument typed first
    | repeated parses known =>
      -- the declaration parses, so nothing else is wrong with the entry
      have hsound : ∀ e, ¬ (entry.type = "" ∧ e = .emptyActionType ∨
          entry.type ≠ "" ∧ ∃ i, FirstFault (ArgEntry.Misnamed entry.type) entry.args i e) := by
        intro e hfault
        have herror := (parse_declaration_eq_error_iff h).mpr hfault
        rw [parses] at herror
        cases herror
      have typed : entry.type ≠ "" := fun type_eq => hsound _ (.inl ⟨type_eq, rfl⟩)
      rw [type_of_declaration h] at known ⊢
      exact .repeated typed (fun i e first => hsound e (.inr ⟨typed, i, first⟩)) (htypes ▸ known)
  · intro hmisdeclared
    cases hmisdeclared with
    | untyped type_eq =>
      exact .unparsed ((parse_declaration_eq_error_iff h).mpr (.inl ⟨type_eq, rfl⟩))
    | argument typed first =>
      exact .unparsed ((parse_declaration_eq_error_iff h).mpr (.inr ⟨typed, _, first⟩))
    | repeated typed sound known =>
      cases hparse : d.parse with
      | error e =>
        rcases (parse_declaration_eq_error_iff h).mp hparse with ⟨type_eq, -⟩ | ⟨-, i, first⟩
        · exact absurd type_eq typed
        · exact absurd first (sound i e)
      | ok a =>
        rw [← htypes, ← type_of_declaration h] at known
        rw [← type_of_declaration h]
        exact .repeated hparse known

theorem Misdeclared.ne_misplaced {before : List ActionEntry} {e : SchemaError}
    (h : Misdeclared before entry e) (type : String) (place count : Nat) :
    e ≠ .misplacedDoc type place ∧ e ≠ .misplacedWholePayload type place count ∧
      e ≠ .unknownActionType type ∧ e ≠ .unknownHandler type := by
  cases h with
  | untyped => exact ⟨nofun, nofun, nofun, nofun⟩
  | argument _ first =>
    obtain ⟨⟨arg, -, hmisnamed⟩, -⟩ := first
    cases hmisnamed <;> exact ⟨nofun, nofun, nofun, nofun⟩
  | repeated => exact ⟨nofun, nofun, nofun, nofun⟩

end ActionEntry

namespace Manifest

variable {A : Type} {format : Format A} {m : Manifest}

theorem declarations_eq_error_iff {e : ManifestError} : m.declarations = .error e ↔
    ∃ i, FirstFault (fun _ => ActionEntry.Unusable) m.actions i e := by
  rw [declarations, mapM_eq_error_iff]
  simp only [ActionEntry.declaration_eq_error_iff]

theorem compileWith_of_unusable {i : Nat} {e : ManifestError}
    (h : FirstFault (fun _ => ActionEntry.Unusable) m.actions i e) :
    m.compileWith format = .error e := by
  rw [compileWith, declarations_eq_error_iff.mpr ⟨i, h⟩]
  rfl

theorem exists_declarations (h : ∀ entry ∈ m.actions, ∀ e, ¬ entry.Unusable e) :
    ∃ ds, m.declarations = .ok ds := by
  cases hdecls : m.declarations with
  | ok ds => exact ⟨ds, rfl⟩
  | error e =>
    obtain ⟨i, ⟨entry, hentry, hunusable⟩, -⟩ := declarations_eq_error_iff.mp hdecls
    exact absurd hunusable (h entry (List.mem_of_getElem? hentry) e)

section Declarations

variable {ds : List Declaration} (h : m.declarations = .ok ds)
include h

theorem compileWith_of_declarations :
    m.compileWith format = (ActionSchema.compile format m.ns ds).mapError .schema := by
  rw [compileWith, h]
  rfl

theorem compileWith_eq_error_iff {e : ManifestError} : m.compileWith format = .error e ↔
    ∃ i e', FirstFault ActionEntry.Misdeclared m.actions i e' ∧ e = .schema e' := by
  have hdecls := mapM_eq_ok_iff.mp h
  have hfaults (e' : SchemaError) : (∃ i, FirstFault Declaration.Refused ds i e') ↔
      ∃ i, FirstFault ActionEntry.Misdeclared m.actions i e' := by
    refine (exists_firstFault_congr hdecls ?_).symm
    intro before ds entry d hbefore hdecl e
    exact (ActionEntry.refused_iff_misdeclared hbefore hdecl).symm
  simp only [compileWith_of_declarations h, mapError_eq_error_iff, compile_eq_error_iff, hfaults]
  constructor
  · intro herror
    obtain ⟨e', ⟨i, first⟩, rfl⟩ := herror
    exact ⟨i, e', first, rfl⟩
  · intro hfirst
    obtain ⟨i, e', first, rfl⟩ := hfirst
    exact ⟨e', ⟨i, first⟩, rfl⟩

theorem exists_compileWith_iff : (∃ s, m.compileWith format = .ok s) ↔
    (∀ entry ∈ m.actions, entry.type ≠ "" ∧ (∀ arg ∈ entry.args, arg.id ≠ "") ∧
      (entry.args.map (·.id)).Nodup) ∧ (m.actions.map (·.type)).Nodup := by
  have hdecls := mapM_eq_ok_iff.mp h
  have hparse : (∀ d ∈ ds, ∃ a, d.parse = .ok a) ↔
      ∀ entry ∈ m.actions, entry.type ≠ "" ∧ (∀ arg ∈ entry.args, arg.id ≠ "") ∧
        (entry.args.map (·.id)).Nodup := by
    constructor
    · intro hall entry hentry
      obtain ⟨d, hd, hdecl⟩ := exists_mem_of_forall₂ hdecls hentry
      exact (ActionEntry.exists_parse_iff hdecl).mp (hall d hd)
    · intro hall d hd
      obtain ⟨entry, hentry, hdecl⟩ := exists_mem_of_forall₂ hdecls.flip hd
      exact (ActionEntry.exists_parse_iff hdecl).mpr (hall entry hentry)
  simp only [compileWith_of_declarations h, mapError_eq_ok_iff]
  rw [exists_compile_iff, hparse, ActionEntry.types_of_declarations hdecls]

end Declarations

end Manifest

/-- Entries that are no declarations are reported first, whatever is wrong before them; then the
first entry whose declaration cannot follow the earlier ones. -/
theorem manifest_faults_in_order {A : Type} (format : Format A) (m : Manifest) :
    ((∃ entry ∈ m.actions, entry.Conflicting ∨ ∃ name ∈ entry.names, ActionEntry.Unresolved name) →
      ∃ i e, FirstFault (fun _ => ActionEntry.Unusable) m.actions i e ∧
        m.compileWith format = .error e) ∧
    ((∀ entry ∈ m.actions, ¬ entry.Conflicting ∧
        ∀ name ∈ entry.names, ¬ ActionEntry.Unresolved name) →
      ((∃ s, m.compileWith format = .ok s) ↔
        (∀ entry ∈ m.actions, entry.type ≠ "" ∧ (∀ arg ∈ entry.args, arg.id ≠ "") ∧
          (entry.args.map (·.id)).Nodup) ∧ (m.actions.map (·.type)).Nodup) ∧
      ∀ e, m.compileWith format = .error e ↔
        ∃ i e', FirstFault ActionEntry.Misdeclared m.actions i e' ∧ e = .schema e') ∧
    ∀ e, m.compileWith format = .error (.schema e) → ∀ type place count,
      e ≠ .misplacedDoc type place ∧ e ≠ .misplacedWholePayload type place count ∧
        e ≠ .unknownActionType type ∧ e ≠ .unknownHandler type := by
  have hsound : (∀ entry ∈ m.actions, ¬ entry.Conflicting ∧
      ∀ name ∈ entry.names, ¬ ActionEntry.Unresolved name) →
        ∃ ds, m.declarations = .ok ds := by
    intro h
    refine Manifest.exists_declarations fun entry hentry e hunusable => ?_
    obtain ⟨hone, hnames⟩ := h entry hentry
    rcases ActionEntry.exists_unusable_iff.mp ⟨e, hunusable⟩ with both | ⟨name, hname, hunresolved⟩
    · exact hone both
    · exact hnames name hname hunresolved
  refine ⟨?_, fun h => ?_, ?_⟩
  · intro hbad
    obtain ⟨entry, hentry, h⟩ := hbad
    obtain ⟨e, hunusable⟩ := ActionEntry.exists_unusable_iff.mpr h
    obtain ⟨i, hi⟩ := List.mem_iff_getElem?.mp hentry
    have hfirst : ∃ i e, FirstFault (fun _ => ActionEntry.Unusable) m.actions i e :=
      exists_firstFault_iff.mpr ⟨i, entry, e, hi, hunusable⟩
    obtain ⟨j, e', first⟩ := hfirst
    exact ⟨j, e', first, Manifest.compileWith_of_unusable first⟩
  · obtain ⟨ds, hds⟩ := hsound h
    exact ⟨Manifest.exists_compileWith_iff hds, fun e => Manifest.compileWith_eq_error_iff hds⟩
  · intro e he type place count
    -- an entry that is no declaration fails with an error of its own, not with one of the schema
    cases hdecls : m.declarations with
    | error e' =>
      obtain ⟨i, first⟩ := Manifest.declarations_eq_error_iff.mp hdecls
      have hsame := Except.error.inj ((Manifest.compileWith_of_unusable first).symm.trans he)
      obtain ⟨⟨entry, -, hunusable⟩, -⟩ := first
      cases hunusable <;> cases hsame
    | ok ds =>
      obtain ⟨i, e', first, hsame⟩ := (Manifest.compileWith_eq_error_iff hdecls).mp he
      obtain rfl := ManifestError.schema.inj hsame
      obtain ⟨⟨entry, -, hmisdeclared⟩, -⟩ := first
      exact hmisdeclared.ne_misplaced type place count

def conflictManifest : Manifest :=
  ⟨sessionNamespace, [⟨"", none, none, []⟩,
    ⟨"LOGIN", none, some "string", [⟨"user", none, "text?"⟩]⟩,
    ⟨"SET_TOKEN", none, some "token??", []⟩]⟩

def repeatManifest : Manifest :=
  ⟨sessionNamespace, [⟨"LOGIN", none, none, [⟨"user", none, "string"⟩, ⟨"user", none, "any?"⟩]⟩,
    ⟨"LOGIN", none, none, []⟩]⟩

theorem conflict_and_repeat_reported :
    (∃ i e, FirstFault (fun _ => ActionEntry.Unusable) conflictManifest.actions i e ∧
      conflictManifest.compileWith .standard = .error e) ∧
    conflictManifest.compileWith .standard = .error (.conflictingPayload "LOGIN") ∧
    ∃ i e', FirstFault ActionEntry.Misdeclared repeatManifest.actions i e' ∧
      .schema (.duplicateArgument "LOGIN" "user") = ManifestError.schema e' := by
  obtain ⟨hunusable, -, -⟩ := manifest_faults_in_order .standard conflictManifest
  obtain ⟨-, hmisdeclared, -⟩ := manifest_faults_in_order .standard repeatManifest
  have hconflict : ∃ entry ∈ conflictManifest.actions, entry.Conflicting ∨
      ∃ name ∈ entry.names, ActionEntry.Unresolved name := by decide +kernel
  have hsound : ∀ entry ∈ repeatManifest.actions, ¬ entry.Conflicting ∧
      ∀ name ∈ entry.names, ¬ ActionEntry.Unresolved name := by decide +kernel
  have herror : repeatManifest.compileWith .standard =
      .error (.schema (.duplicateArgument "LOGIN" "user")) := rfl
  exact ⟨hunusable hconflict, rfl, ((hmisdeclared hsound).2 _).mp herror⟩

end ActionSchema
