import ActionSchema.Proofs.ParseFaults

/-! Which declarations are legal, and what is said of any other. Faults of several kinds may stand
in one declaration; an empty type comes before misplaced documentation, whose place counts all
parts, and this before faulty arguments, whose places do not count the documentation. -/

namespace ActionSchema

namespace Declaration

def LateDoc (d : Declaration) (i : Nat) : Prop := 1 ≤ i ∧ ∃ text, d.parts[i]? = some (.doc text)

structure Legal (d : Declaration) : Prop where
  typed : d.type ≠ ""
  docFirst : ∀ i, ¬ d.LateDoc i
  args : (∃ test, d.args = [.whole test]) ∨
    (∀ decl ∈ d.args, ∃ id, decl.spec.id = some id ∧ id ≠ "") ∧
      (d.args.filterMap (·.spec.id)).Nodup

/-- What is wrong with the argument at place `k`. An empty id is reported as such also where it
repeats another. -/
inductive WrongAt (d : Declaration) (k : Nat) : SchemaError → Prop
  | crowded {test : Predicate} (here : d.args[k]? = some (.whole test))
    (others : d.args.length ≠ 1) :
    WrongAt d k (.misplacedWholePayload d.type k d.args.length)
  | unnamed {decl : ArgumentDecl} (here : d.args[k]? = some decl)
    (id_eq : decl.spec.id = some "") : WrongAt d k (.emptyArgumentId d.type k)
  | repeated {decl decl' : ArgumentDecl} {id : String} {j : Nat} (here : d.args[k]? = some decl)
    (id_eq : decl.spec.id = some id) (named : id ≠ "") (before : j < k)
    (there : d.args[j]? = some decl') (same : decl'.spec.id = some id) :
    WrongAt d k (.duplicateArgument d.type id)

inductive Reports (d : Declaration) : SchemaError → Prop
  | untyped (type_eq : d.type = "") : Reports d .emptyActionType
  | lateDoc {i : Nat} (typed : d.type ≠ "") (here : d.LateDoc i) (least : ∀ j < i, ¬ d.LateDoc j) :
    Reports d (.misplacedDoc d.type i)
  | argument {k : Nat} {e : SchemaError} (typed : d.type ≠ "") (docFirst : ∀ i, ¬ d.LateDoc i)
    (here : d.WrongAt k e) (least : ∀ j < k, ∀ e', ¬ d.WrongAt j e') : Reports d e

variable {d : Declaration} {e : SchemaError} {i k : Nat}

theorem docFirst_iff_not_lateDoc : d.DocFirst ↔ ∀ i, ¬ d.LateDoc i := by
  constructor
  · intro h i hlate
    obtain ⟨hi, text, hpart⟩ := hlate
    obtain ⟨j, rfl⟩ := Nat.exists_eq_add_of_le' hi
    rw [← List.getElem?_tail] at hpart
    exact h _ (List.mem_of_getElem? hpart) rfl
  · intro h part hpart hdoc
    obtain ⟨j, hj⟩ := List.mem_iff_getElem?.mp hpart
    rw [List.getElem?_tail] at hj
    cases part with
    | doc text => exact h (j + 1) ⟨Nat.le_add_left 1 j, text, hj⟩
    | arg decl => cases hdoc

theorem lateDoc_iff_fault : d.LateDoc i ∧ e = .misplacedDoc d.type i ↔
    ∃ part, d.parts[i]? = some part ∧ Part.Fault d.type (d.parts.take i) part e := by
  constructor
  · rintro ⟨⟨hi, text, hpart⟩, rfl⟩
    have hlength := length_take_of_getElem? hpart
    have hlate : d.parts.take i ≠ [] := List.ne_nil_of_length_pos (by rwa [hlength])
    have hfault := @Part.Fault.misplaced d.type _ text hlate
    rw [hlength] at hfault
    exact ⟨_, hpart, hfault⟩
  · rintro ⟨part, hpart, hfault⟩
    have hlength := length_take_of_getElem? hpart
    cases hfault with
    | @misplaced text late =>
      have hi : 1 ≤ i := hlength ▸ List.length_pos_iff.mpr late
      exact ⟨⟨hi, text, hpart⟩, by rw [hlength]⟩

theorem mem_ids_take_iff {id : String} : id ∈ (d.args.take k).filterMap (·.spec.id) ↔
    ∃ j < k, ∃ decl, d.args[j]? = some decl ∧ decl.spec.id = some id := by
  rw [List.mem_filterMap]
  simp only [List.mem_iff_getElem?, List.getElem?_take, Option.ite_none_right_eq_some]
  constructor
  · rintro ⟨decl, ⟨j, hj, hdecl⟩, hid⟩
    exact ⟨j, hj, decl, hdecl, hid⟩
  · rintro ⟨j, hj, decl, hdecl, hid⟩
    exact ⟨decl, ⟨j, hj, hdecl⟩, hid⟩

theorem wrongAt_iff_fault : d.WrongAt k e ↔ ∃ decl, d.args[k]? = some decl ∧
    ArgumentDecl.Fault d.type d.args.length (d.args.take k) decl e := by
  constructor
  · intro h
    cases h with
    | @crowded test here others =>
      have hfault := @ArgumentDecl.Fault.crowded d.type _ (d.args.take k) test (.inr others)
      rw [length_take_of_getElem? here] at hfault
      exact ⟨_, here, hfault⟩
    | unnamed here id_eq =>
      have hfault := @ArgumentDecl.Fault.unnamed d.type d.args.length (d.args.take k) _ id_eq
      rw [length_take_of_getElem? here] at hfault
      exact ⟨_, here, hfault⟩
    | repeated here id_eq named before there same =>
      have known := mem_ids_take_iff.mpr ⟨_, before, _, there, same⟩
      exact ⟨_, here, .repeated id_eq named known⟩
  · rintro ⟨decl, here, hfault⟩
    have hlength := length_take_of_getElem? here
    cases hfault with
    | crowded others =>
      rw [hlength]
      refine .crowded here ?_
      -- a whole payload behind another argument is not the only one
      rintro hone
      have hk : k < d.args.length := (List.getElem?_eq_some_iff.mp here).1
      have hzero : k = 0 := by omega
      rcases others with hbefore | hcount
      · exact hbefore (by rw [hzero, List.take_zero])
      · exact hcount hone
    | unnamed id_eq =>
      rw [hlength]
      exact .unnamed here id_eq
    | repeated id_eq named known =>
      obtain ⟨j, hj, decl', there, same⟩ := mem_ids_take_iff.mp known
      exact .repeated here id_eq named hj there same

theorem reports_iff_malformed : d.Reports e ↔ d.Malformed e := by
  -- both kinds of faults are told by their places, so the first is the one at the least place
  have hdoc {i : Nat} {e : SchemaError} : FirstFault (Part.Fault d.type) d.parts i e ↔
      (d.LateDoc i ∧ e = .misplacedDoc d.type i) ∧
        ∀ j < i, ∀ e' : SchemaError, ¬ (d.LateDoc j ∧ e' = .misplacedDoc d.type j) :=
    firstFault_iff_place fun _ _ => lateDoc_iff_fault
  have hargs {k : Nat} {e : SchemaError} :
      FirstFault (ArgumentDecl.Fault d.type d.args.length) d.args k e ↔
        d.WrongAt k e ∧ ∀ j < k, ∀ e', ¬ d.WrongAt j e' :=
    firstFault_iff_place fun _ _ => wrongAt_iff_fault
  constructor
  · intro h
    cases h with
    | untyped type_eq => exact .untyped type_eq
    | lateDoc typed here least =>
      exact .doc typed (hdoc.mpr ⟨⟨here, rfl⟩, fun j hj _ hlate => least j hj hlate.1⟩)
    | argument typed docFirst here least =>
      exact .argument typed (docFirst_iff_not_lateDoc.mpr docFirst) (hargs.mpr ⟨here, least⟩)
  · intro h
    cases h with
    | untyped type_eq => exact .untyped type_eq
    | doc typed first =>
      obtain ⟨⟨here, rfl⟩, least⟩ := hdoc.mp first
      exact .lateDoc typed here fun j hj hlate => least j hj _ ⟨hlate, rfl⟩
    | argument typed docFirst first =>
      obtain ⟨here, least⟩ := hargs.mp first
      exact .argument typed (docFirst_iff_not_lateDoc.mp docFirst) here least

theorem exists_parse_iff_legal : (∃ a, d.parse = .ok a) ↔ d.Legal := by
  simp only [parse_eq_ok_iff, docFirst_iff_not_lateDoc, regular_map_spec_iff]
  constructor
  · rintro ⟨_, typed, docFirst, args, -⟩
    exact ⟨typed, docFirst, args⟩
  · rintro ⟨typed, docFirst, args⟩
    exact ⟨_, typed, docFirst, args, rfl⟩

/-- Parsing accepts the legal declarations. Of any other it reports one fault: the kind comes
first, then the place. -/
theorem parse_decides_legality (d : Declaration) :
    ((∃ a, d.parse = .ok a) ↔ d.Legal) ∧ ∀ e, d.parse = .error e ↔ d.Reports e :=
  ⟨exists_parse_iff_legal, fun _ => parse_eq_error_iff.trans reports_iff_malformed.symm⟩

/-- Late documentation hides the empty id; without it the id is found, at the place of its argument
and not of its part. -/
example :
    parse ⟨"MOVE", [.doc "Moves", .arg (.named "" .any), .doc "late", .arg (.whole .any)]⟩ =
      .error (.misplacedDoc "MOVE" 2) ∧
    parse ⟨"MOVE", [.doc "Moves", .arg (.named "" .any), .arg (.whole .any)]⟩ =
      .error (.emptyArgumentId "MOVE" 0) :=
  ⟨rfl, rfl⟩

end Declaration

end ActionSchema
