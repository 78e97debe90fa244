import ActionSchema.ParsedAction
import ActionSchema.Proofs.Except

/-! What parsing accepts and what it makes of it. Arguments come out in order and in normal form:
one whole payload, or fields whose ids are not empty and differ. -/

namespace ActionSchema

structure Field where
  id : String
  doc : String
  test : Predicate

def Field.spec (field : Field) : ArgumentSpec := ⟨some field.id, field.doc, field.test, false⟩

inductive Regular : List ArgumentSpec → Prop
  | whole (test : Predicate) : Regular [⟨none, "", test, true⟩]
  | fields (fs : List Field) (named : ∀ f ∈ fs, f.id ≠ "") (apart : (fs.map (·.id)).Nodup) :
    Regular (fs.map Field.spec)

namespace ArgumentDecl

def field? : ArgumentDecl → Option Field
  | whole _ => none
  | named id test => some ⟨id, "", test⟩
  | documented id doc test => some ⟨id, doc, test⟩

def spec : ArgumentDecl → ArgumentSpec
  | whole test => ⟨none, "", test, true⟩
  | named id test => ⟨some id, "", test, false⟩
  | documented id doc test => ⟨some id, doc, test, false⟩

theorem spec_eq_whole_iff {decl : ArgumentDecl} {test : Predicate} :
    decl.spec = ⟨none, "", test, true⟩ ↔ decl = .whole test := by
  cases decl <;> simp [spec]

theorem field?_eq_some_iff {decl : ArgumentDecl} {f : Field} :
    decl.field? = some f ↔ decl.spec = f.spec := by
  obtain ⟨id, doc, test⟩ := f
  cases decl <;> simp [field?, spec, Field.spec]

theorem id_spec (decl : ArgumentDecl) : decl.spec.id = decl.field?.map (·.id) := by
  cases decl <;> rfl

theorem parse_eq_ok_iff {decl : ArgumentDecl} {type : String} {position count : Nat}
    {s : ArgumentSpec} : decl.parse type position count = .ok s ↔
      s = decl.spec ∧ (s.id = none → position = 0 ∧ count = 1) ∧ s.id ≠ some "" := by
  cases decl with
  | whole test =>
    by_cases h : position = 0 ∧ count = 1 <;> simp only [parse, h, spec] <;> grind
  | named id test =>
    by_cases h : id = "" <;> simp [parse, h, spec] <;> grind
  | documented id doc test =>
    by_cases h : id = "" <;> simp [parse, h, spec] <;> grind

end ArgumentDecl

structure Admitted (count : Nat) (seen : List String) (specs : List ArgumentSpec) : Prop where
  alone : ∀ s ∈ specs, s.id = none → count = 1
  named : ∀ s ∈ specs, s.id ≠ some ""
  fresh : ∀ id ∈ specs.filterMap (·.id), id ∉ seen
  apart : (specs.filterMap (·.id)).Nodup

theorem admitted_nil (count : Nat) (seen : List String) : Admitted count seen [] := by
  constructor <;> simp

theorem admitted_cons_of_id {count : Nat} {seen : List String} {s : ArgumentSpec}
    {specs : List ArgumentSpec} {id : String} (h : s.id = some id) :
    Admitted count seen (s :: specs) ↔
      id ≠ "" ∧ id ∉ seen ∧ Admitted count (id :: seen) specs := by
  constructor
  · rintro ⟨alone, named, fresh, apart⟩
    simp only [List.filterMap_cons_some h, List.mem_cons, forall_eq_or_imp, List.nodup_cons]
      at alone named fresh apart
    refine ⟨fun e => named.1 (e ▸ h), fresh.1, alone.2, named.2, fun id' hid' => ?_, apart.2⟩
    have hne : id' ≠ id := fun e => apart.1 (e ▸ hid')
    simpa [hne] using fresh.2 id' hid'
  · rintro ⟨hid, hseen, alone, named, fresh, apart⟩
    simp only [List.mem_cons, not_or] at fresh
    constructor
    · simpa [h] using alone
    · simpa [h, hid] using named
    · simpa [List.filterMap_cons_some h, hseen] using fun id' hid' => (fresh id' hid').2
    · exact List.filterMap_cons_some h ▸
        List.nodup_cons.mpr ⟨fun hmem => (fresh id hmem).1 rfl, apart⟩

theorem admitted_cons_of_not_id {count : Nat} {seen : List String} {s : ArgumentSpec}
    {specs : List ArgumentSpec} (h : s.id = none) :
    Admitted count seen (s :: specs) ↔ count = 1 ∧ Admitted count seen specs := by
  constructor
  · rintro ⟨alone, named, fresh, apart⟩
    simp only [List.filterMap_cons_none h, List.mem_cons, forall_eq_or_imp]
      at alone named fresh apart
    exact ⟨alone.1 h, alone.2, named.2, fresh, apart⟩
  · rintro ⟨hcount, alone, named, fresh, apart⟩
    constructor
    · exact fun _ _ _ => hcount
    · simpa [h] using named
    · simpa [List.filterMap_cons_none h] using fresh
    · simpa [List.filterMap_cons_none h] using apart

namespace Declaration

theorem parseArguments_eq_ok_iff {type : String} {count position : Nat} {seen : List String}
    {decls : List ArgumentDecl} {specs : List ArgumentSpec}
    (hcount : position + decls.length = count) :
    parseArguments type count position seen decls = .ok specs ↔
      specs = decls.map (·.spec) ∧ Admitted count seen specs := by
  induction decls generalizing position seen specs with
  | nil =>
    simp only [parseArguments, List.map_nil, Except.ok.injEq]
    exact ⟨fun h => ⟨h.symm, h ▸ admitted_nil ..⟩, fun h => h.1.symm⟩
  | cons decl decls ih =>
    have hrest : position + 1 + decls.length = count := by
      rw [← hcount, List.length_cons]; omega
    have hplace : position = 0 ∧ count = 1 ↔ count = 1 := by
      rw [List.length_cons] at hcount; omega
    simp only [parseArguments, bind_eq_ok_iff, ArgumentDecl.parse_eq_ok_iff, hplace,
      List.map_cons, and_assoc, exists_eq_left]
    cases hid : decl.spec.id with
    | none =>
      simp only [bind_eq_ok_iff, pure_eq_ok_iff, ih hrest]
      constructor
      · rintro ⟨hone, -, rest, ⟨rfl, hadm⟩, rfl⟩
        exact ⟨rfl, (admitted_cons_of_not_id hid).mpr ⟨hone trivial, hadm⟩⟩
      · rintro ⟨rfl, hadm⟩
        obtain ⟨hone, hadm⟩ := (admitted_cons_of_not_id hid).mp hadm
        exact ⟨fun _ => hone, (Option.some_ne_none "").symm, _, ⟨rfl, hadm⟩, rfl⟩
    | some id =>
      have hne : some id ≠ some "" ↔ id ≠ "" := by simp
      simp only [reduceCtorEq, false_imp_iff, true_and, hne]
      by_cases hseen : id ∈ seen
      · -- the duplicate is refused before the rest is looked at
        have hnot : ¬ Admitted count seen (decl.spec :: decls.map (·.spec)) :=
          fun hadm => ((admitted_cons_of_id hid).mp hadm).2.1 hseen
        simp only [List.contains_iff_mem.mpr hseen, if_true, bind_eq_ok_iff, throw_ne_ok]
        constructor
        · rintro ⟨-, _, ⟨⟩, -⟩
        · rintro ⟨rfl, hadm⟩
          exact absurd hadm hnot
      · simp only [List.contains_iff_mem, hseen, if_false, bind_eq_ok_iff, pure_eq_ok_iff,
          ih hrest]
        constructor
        · rintro ⟨hid₀, rest, ⟨rfl, hadm⟩, rfl⟩
          exact ⟨rfl, (admitted_cons_of_id hid).mpr ⟨hid₀, hseen, hadm⟩⟩
        · rintro ⟨rfl, hadm⟩
          obtain ⟨hid₀, -, hadm⟩ := (admitted_cons_of_id hid).mp hadm
          exact ⟨hid₀, _, ⟨rfl, hadm⟩, rfl⟩

end Declaration

theorem exists_fields_of_id {decls : List ArgumentDecl} (h : ∀ d ∈ decls, d.spec.id ≠ none) :
    ∃ fs : List Field, decls.map (·.spec) = fs.map Field.spec := by
  induction decls with
  | nil => exact ⟨[], rfl⟩
  | cons decl decls ih =>
    obtain ⟨fs, hfs⟩ := ih fun d hd => h d (List.mem_cons_of_mem _ hd)
    have hdecl : decl.field? ≠ none := by
      simpa [ArgumentDecl.id_spec] using h decl List.mem_cons_self
    obtain ⟨f, hf⟩ := Option.ne_none_iff_exists'.mp hdecl
    exact ⟨f :: fs, by rw [List.map_cons, List.map_cons, hfs, ArgumentDecl.field?_eq_some_iff.mp hf]⟩

theorem filterMap_id_spec (fs : List Field) :
    (fs.map Field.spec).filterMap (·.id) = fs.map (·.id) := by
  rw [List.filterMap_map]
  exact congrFun List.filterMap_eq_map' fs

theorem Regular.nodup_ids {specs : List ArgumentSpec} (h : Regular specs) :
    (specs.filterMap (·.id)).Nodup := by
  cases h with
  | whole test => exact List.nodup_nil
  | fields fs named apart => rwa [filterMap_id_spec]

/-- Whole payloads stand alone, so the arguments are one of them or fields throughout. -/
theorem admitted_iff_regular (decls : List ArgumentDecl) :
    Admitted decls.length [] (decls.map (·.spec)) ↔ Regular (decls.map (·.spec)) := by
  constructor
  · rintro ⟨alone, named, -, apart⟩
    -- an argument without an id is a whole payload, and that one has to be alone
    by_cases h : ∀ d ∈ decls, d.spec.id ≠ none
    · obtain ⟨fs, hfs⟩ := exists_fields_of_id h
      rw [hfs] at named apart ⊢
      refine .fields fs (fun f hf e => ?_) (filterMap_id_spec fs ▸ apart)
      exact named f.spec (List.mem_map_of_mem hf) (congrArg some e)
    · simp only [ne_eq, not_forall, not_not] at h
      obtain ⟨d, hd, hid⟩ := h
      obtain ⟨d', rfl⟩ := List.length_eq_one_iff.mp (alone d.spec (List.mem_map_of_mem hd) hid)
      obtain rfl := List.mem_singleton.mp hd
      cases d with
      | whole test => exact .whole test
      | named id test => cases hid
      | documented id doc test => cases hid
  · intro h
    generalize hspecs : decls.map (·.spec) = specs at h
    have hlen : decls.length = specs.length := by rw [← hspecs, List.length_map]
    cases h with
    | whole test => constructor <;> simp [hlen]
    | fields fs named apart =>
      refine ⟨?_, ?_, by simp, filterMap_id_spec fs ▸ apart⟩
      · simp [Field.spec]
      · simpa [Field.spec] using named

theorem map_spec_eq_whole_iff {decls : List ArgumentDecl} {test : Predicate} :
    decls.map (·.spec) = [⟨none, "", test, true⟩] ↔ decls = [.whole test] := by
  simp only [List.map_eq_singleton_iff, ArgumentDecl.spec_eq_whole_iff, exists_eq_right]

theorem regular_map_spec_iff {decls : List ArgumentDecl} : Regular (decls.map (·.spec)) ↔
    (∃ test, decls = [.whole test]) ∨ (∀ decl ∈ decls, ∃ id, decl.spec.id = some id ∧ id ≠ "") ∧
      (decls.filterMap (·.spec.id)).Nodup := by
  have hids : (decls.map (·.spec)).filterMap (·.id) = decls.filterMap (·.spec.id) := by
    rw [List.filterMap_map]
    rfl
  constructor
  · intro h
    have apart := hids ▸ h.nodup_ids
    generalize hspecs : decls.map (·.spec) = specs at h
    cases h with
    | whole test => exact .inl ⟨test, map_spec_eq_whole_iff.mp hspecs⟩
    | fields fs named =>
      refine .inr ⟨fun decl hdecl => ?_, apart⟩
      obtain ⟨f, hf, hspec⟩ := List.mem_map.mp (hspecs ▸ List.mem_map_of_mem hdecl)
      exact ⟨f.id, by rw [← hspec, Field.spec], named f hf⟩
  · rintro (⟨test, rfl⟩ | ⟨named, apart⟩)
    · exact .whole test
    · have hid : ∀ decl ∈ decls, decl.spec.id ≠ none := by
        intro decl hdecl hnone
        obtain ⟨id, hid, -⟩ := named decl hdecl
        cases hnone.symm.trans hid
      obtain ⟨fs, hfs⟩ := exists_fields_of_id hid
      rw [← hids, hfs, filterMap_id_spec] at apart
      rw [hfs]
      refine .fields fs (fun f hf hid => ?_) apart
      obtain ⟨decl, hdecl, hspec⟩ := List.mem_map.mp (hfs ▸ List.mem_map_of_mem hf)
      obtain ⟨id, hid', hne⟩ := named decl hdecl
      rw [hspec, Field.spec, hid] at hid'
      exact hne (Option.some.inj hid').symm

def Part.argument? : Part → Option ArgumentDecl
  | .doc _ => none
  | .arg decl => some decl

theorem eq_map_arg_iff {parts : List Part} {decls : List ArgumentDecl} :
    parts = decls.map .arg ↔
      (∀ p ∈ parts, p.argument? ≠ none) ∧ decls = parts.filterMap (·.argument?) := by
  induction parts generalizing decls with
  | nil => simp [eq_comm]
  | cons p parts ih =>
    cases p with
    | doc text => cases decls <;> simp [Part.argument?]
    | arg decl =>
      cases decls with
      | nil => simp [Part.argument?]
      | cons decl' decls => simp [Part.argument?, ih, eq_comm, and_left_comm]

namespace Declaration

def doc (d : Declaration) : String :=
  match d.parts with
  | .doc text :: _ => text
  | _ => ""

def args (d : Declaration) : List ArgumentDecl := d.parts.filterMap (·.argument?)

def DocFirst (d : Declaration) : Prop := ∀ p ∈ d.parts.tail, p.argument? ≠ none

theorem arguments_eq_ok_iff {type : String} {place : Nat} {parts : List Part}
    {decls : List ArgumentDecl} :
    arguments type place parts = .ok decls ↔ parts = decls.map .arg := by
  induction parts generalizing place decls with
  | nil => cases decls <;> simp [arguments]
  | cons p parts ih =>
    cases p with
    | doc text => cases decls <;> simp [arguments]
    | arg decl =>
      simp only [arguments, bind_eq_ok_iff, pure_eq_ok_iff, ih]
      constructor
      · rintro ⟨rest, rfl, rfl⟩
        rfl
      · intro h
        obtain ⟨decl', rest, rfl, hdecl, rfl⟩ := List.map_eq_cons_iff.mp h.symm
        exact ⟨rest, rfl, by rw [Part.arg.inj hdecl]⟩

theorem arguments_split_eq_ok_iff {d : Declaration} {decls : List ArgumentDecl} :
    arguments d.type d.split.2.2 d.split.2.1 = .ok decls ↔ d.DocFirst ∧ decls = d.args := by
  obtain ⟨type, parts⟩ := d
  rw [arguments_eq_ok_iff, eq_map_arg_iff]
  rcases parts with _ | ⟨text | decl, parts⟩ <;> simp [split, DocFirst, args, Part.argument?]

theorem split_fst (d : Declaration) : d.split.1 = d.doc := by
  obtain ⟨type, parts⟩ := d
  rcases parts with _ | ⟨text | decl, parts⟩ <;> rfl

theorem parse_eq_ok_iff {d : Declaration} {a : ParsedAction} :
    d.parse = .ok a ↔ d.type ≠ "" ∧ d.DocFirst ∧ Regular (d.args.map (·.spec)) ∧
      a = ⟨d.type, d.doc, d.args.map (·.spec)⟩ := by
  by_cases htype : d.type = ""
  · simp [parse, htype]
  · have hcount : 0 + d.args.length = d.args.length := Nat.zero_add _
    simp only [parse, String.isEmpty_iff, htype, if_false, bind_eq_ok_iff, pure_eq_ok_iff,
      arguments_split_eq_ok_iff, split_fst, not_false_eq_true, true_and, ne_eq]
    constructor
    · rintro ⟨_, ⟨hdoc, rfl⟩, specs, hspecs, rfl⟩
      obtain ⟨rfl, hadm⟩ := (parseArguments_eq_ok_iff hcount).mp hspecs
      exact ⟨hdoc, (admitted_iff_regular _).mp hadm, rfl⟩
    · rintro ⟨hdoc, hregular, rfl⟩
      refine ⟨_, ⟨hdoc, rfl⟩, _, ?_, rfl⟩
      exact (parseArguments_eq_ok_iff hcount).mpr ⟨rfl, (admitted_iff_regular _).mpr hregular⟩

theorem type_of_parse {d : Declaration} {a : ParsedAction} (h : d.parse = .ok a) :
    a.type = d.type := by
  obtain ⟨-, -, -, rfl⟩ := parse_eq_ok_iff.mp h
  rfl

theorem regular_of_parse {d : Declaration} {a : ParsedAction} (h : d.parse = .ok a) :
    Regular a.args := by
  obtain ⟨-, -, hregular, rfl⟩ := parse_eq_ok_iff.mp h
  exact hregular

end Declaration

end ActionSchema
