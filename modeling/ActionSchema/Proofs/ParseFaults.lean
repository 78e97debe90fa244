import ActionSchema.Proofs.FirstFault
import ActionSchema.Proofs.Parsing

/-! Why parsing refuses a declaration. An empty type comes before misplaced documentation, and this
before the first argument at fault. -/

namespace ActionSchema

inductive Part.Fault (type : String) (before : List Part) : Part → SchemaError → Prop
  | misplaced {text : String} (late : before ≠ []) :
    Fault type before (.doc text) (.misplacedDoc type before.length)

inductive ArgumentDecl.Fault (type : String) (count : Nat) (before : List ArgumentDecl) :
    ArgumentDecl → SchemaError → Prop
  | crowded {test : Predicate} (others : before ≠ [] ∨ count ≠ 1) :
    Fault type count before (.whole test) (.misplacedWholePayload type before.length count)
  | unnamed {decl : ArgumentDecl} (id_eq : decl.spec.id = some "") :
    Fault type count before decl (.emptyArgumentId type before.length)
  | repeated {decl : ArgumentDecl} {id : String} (id_eq : decl.spec.id = some id) (named : id ≠ "")
    (known : id ∈ before.filterMap (·.spec.id)) :
    Fault type count before decl (.duplicateArgument type id)

namespace Declaration

inductive Malformed (d : Declaration) : SchemaError → Prop
  | untyped (type_eq : d.type = "") : Malformed d .emptyActionType
  | doc {i : Nat} {e : SchemaError} (typed : d.type ≠ "")
    (first : FirstFault (Part.Fault d.type) d.parts i e) : Malformed d e
  | argument {i : Nat} {e : SchemaError} (typed : d.type ≠ "") (docFirst : d.DocFirst)
    (first : FirstFault (ArgumentDecl.Fault d.type d.args.length) d.args i e) : Malformed d e

end Declaration

namespace ArgumentDecl

variable {type : String} {count : Nat} {before : List ArgumentDecl} {decl : ArgumentDecl}
  {e : SchemaError}

theorem parse_of_fault (h : Fault type count before decl e) :
    decl.parse type before.length count = .error e ∨
      ∃ id, decl.parse type before.length count = .ok decl.spec ∧ decl.spec.id = some id ∧
        id ∈ before.filterMap (·.spec.id) ∧ e = .duplicateArgument type id := by
  cases h with
  | @crowded test others =>
    have hnot : ¬ (before.length = 0 ∧ count = 1) := by
      rw [List.length_eq_zero_iff]
      intro hplace
      obtain ⟨hbefore, hcount⟩ := hplace
      exact others.elim (absurd hbefore) (absurd hcount)
    exact .inl (if_neg hnot)
  | unnamed id_eq =>
    cases decl with
    | whole test => cases id_eq
    | named id test =>
      obtain rfl := Option.some.inj id_eq
      exact .inl rfl
    | documented id doc test =>
      obtain rfl := Option.some.inj id_eq
      exact .inl rfl
  | @repeated _ id id_eq named known =>
    -- by itself the argument is sound: only those before it know its id
    have hparse : decl.parse type before.length count = .ok decl.spec := by
      rw [parse_eq_ok_iff, id_eq]
      refine ⟨rfl, nofun, fun e => named (Option.some.inj e)⟩
    exact .inr ⟨id, hparse, id_eq, known, rfl⟩

theorem parse_of_not_fault (h : ∀ e, ¬ Fault type count before decl e) :
    decl.parse type before.length count = .ok decl.spec ∧
      ∀ id, decl.spec.id = some id → id ∉ before.filterMap (·.spec.id) := by
  have hnamed : decl.spec.id ≠ some "" := fun id_eq => h _ (.unnamed id_eq)
  constructor
  · rw [parse_eq_ok_iff]
    refine ⟨rfl, fun hnone => ?_, hnamed⟩
    cases decl with
    | whole test =>
      by_contra hnot
      rw [List.length_eq_zero_iff, not_and_or] at hnot
      exact h _ (.crowded hnot)
    | named id test => cases hnone
    | documented id doc test => cases hnone
  · intro id id_eq hmem
    exact h _ (.repeated id_eq (fun e => hnamed (e ▸ id_eq)) hmem)

end ArgumentDecl

namespace Declaration

theorem arguments_eq_error_iff {type : String} {place : Nat} {parts : List Part}
    {e : SchemaError} : arguments type place parts = .error e ↔
      ∃ i, FirstFault (fun before p e => p.argument? = none ∧
        e = .misplacedDoc type (place + before.length)) parts i e := by
  have hstops : StopsAtFaults (arguments type) (fun before s => s = place + before.length)
      fun before p e => p.argument? = none ∧ e = .misplacedDoc type (place + before.length) := by
    constructor
    case finish => exact fun _ _ => nofun
    case halt =>
      intro before s p e hs hfault parts
      obtain ⟨hdoc, rfl⟩ := hfault
      subst hs
      cases p with
      | doc text => rfl
      | arg decl => cases hdoc
    case go =>
      intro before s p hs hsound
      subst hs
      cases p with
      | doc text => exact absurd ⟨rfl, rfl⟩ (hsound (.misplacedDoc type (place + before.length)))
      | arg decl =>
        refine ⟨_, by rw [List.length_append, List.length_singleton, ← Nat.add_assoc], ?_⟩
        intro parts e
        simp only [arguments, bind_eq_error_iff, pure_ne_error, and_false, exists_false, or_false]
  exact hstops.eq_error_iff [] place rfl

theorem arguments_split_eq_error_iff {d : Declaration} {e : SchemaError} :
    arguments d.type d.split.2.2 d.split.2.1 = .error e ↔
      ∃ i, FirstFault (Part.Fault d.type) d.parts i e := by
  obtain ⟨type, parts⟩ := d
  have hlate (x : Part) (before : List Part) (p : Part) (e : SchemaError) :
      p.argument? = none ∧ e = .misplacedDoc type (1 + before.length) ↔
        Part.Fault type (x :: before) p e := by
    constructor
    · intro hfault
      obtain ⟨hdoc, rfl⟩ := hfault
      cases p with
      | doc text =>
        rw [Nat.add_comm]
        exact .misplaced (List.cons_ne_nil x before)
      | arg decl => cases hdoc
    · intro hfault
      cases hfault
      exact ⟨rfl, by rw [List.length_cons, Nat.add_comm]⟩
  have hfirst (p : Part) (e : SchemaError) : ¬ Part.Fault type [] p e := by
    intro hfault
    cases hfault with
    | misplaced late => exact late rfl
  rw [arguments_eq_error_iff]
  -- the first part is never at fault, whether it is split off or an argument itself
  rcases parts with _ | ⟨text | decl, parts⟩
  · simp only [split, not_firstFault_nil]
  · simp only [split, hlate (.doc text), exists_firstFault_cons_iff, hfirst, false_or,
      not_false_eq_true, implies_true, true_and]
  · have hplace (before : List Part) :
        0 + (Part.arg decl :: before).length = 1 + before.length := by
      rw [List.length_cons, Nat.zero_add, Nat.add_comm]
    have harg : (Part.arg decl).argument? ≠ none := Option.some_ne_none decl
    simp only [split, exists_firstFault_cons_iff, hfirst, hplace, hlate (.arg decl), harg,
      false_and, false_or, not_false_eq_true, implies_true, true_and]

theorem DocFirst.not_firstFault {d : Declaration} (h : d.DocFirst) {i : Nat} {e : SchemaError} :
    ¬ FirstFault (Part.Fault d.type) d.parts i e := by
  intro first
  have hok := arguments_split_eq_ok_iff.mpr ⟨h, rfl⟩
  have herror := arguments_split_eq_error_iff.mpr ⟨i, first⟩
  rw [hok] at herror
  cases herror

section Step

variable {type id : String} {count position : Nat} {seen : List String} {decl : ArgumentDecl}

theorem parseArguments_cons_of_id (hparse : decl.parse type position count = .ok decl.spec)
    (hid : decl.spec.id = some id) (decls : List ArgumentDecl) :
    parseArguments type count position seen (decl :: decls) =
      if id ∈ seen then .error (.duplicateArgument type id)
      else (parseArguments type count (position + 1) (id :: seen) decls).map (decl.spec :: ·) := by
  rw [parseArguments, hparse]
  simp only [ok_bind, hid, List.contains_iff_mem]
  by_cases hseen : id ∈ seen
  · rw [if_pos hseen, if_pos hseen]
    rfl
  · rw [if_neg hseen, if_neg hseen]
    rfl

theorem parseArguments_cons_of_not_id (hparse : decl.parse type position count = .ok decl.spec)
    (hid : decl.spec.id = none) (decls : List ArgumentDecl) :
    parseArguments type count position seen (decl :: decls) =
      (parseArguments type count (position + 1) seen decls).map (decl.spec :: ·) := by
  rw [parseArguments, hparse]
  simp only [ok_bind, hid]
  rfl

end Step

structure ReadUpTo (before : List ArgumentDecl) (s : Nat × List String) : Prop where
  place : s.1 = before.length
  seen : ∀ id, id ∈ s.2 ↔ id ∈ before.filterMap (·.spec.id)

theorem parseArguments_eq_error_iff {type : String} {decls : List ArgumentDecl} {e : SchemaError} :
    parseArguments type decls.length 0 [] decls = .error e ↔
      ∃ i, FirstFault (ArgumentDecl.Fault type decls.length) decls i e := by
  generalize decls.length = count
  have hstops : StopsAtFaults (fun s => parseArguments type count s.1 s.2) ReadUpTo
      (ArgumentDecl.Fault type count) := by
    constructor
    case finish => exact fun _ _ => nofun
    case halt =>
      rintro before ⟨position, seen⟩ decl e ⟨rfl, hseen⟩ hfault decls
      rcases ArgumentDecl.parse_of_fault hfault with hparse | ⟨id, hparse, hid, hmem, rfl⟩
      · simp only [parseArguments, hparse]
        rfl
      · exact (parseArguments_cons_of_id hparse hid decls).trans (if_pos ((hseen id).mpr hmem))
    case go =>
      rintro before ⟨position, seen⟩ decl ⟨rfl, hseen⟩ hsound
      obtain ⟨hparse, hfresh⟩ := ArgumentDecl.parse_of_not_fault hsound
      -- the argument takes its place, and its id, if it has one, joins those that were seen
      have hlength : before.length + 1 = (before ++ [decl]).length := by
        rw [List.length_append, List.length_singleton]
      cases hid : decl.spec.id with
      | none =>
        have hids : [decl].filterMap (·.spec.id) = [] := List.filterMap_cons_none hid
        refine ⟨(before.length + 1, seen), ⟨hlength, fun id' => ?_⟩, fun decls e => ?_⟩
        · rw [List.filterMap_append, hids, List.append_nil, ← hseen]
        · simp only [parseArguments_cons_of_not_id hparse hid, map_eq_error_iff]
      | some id =>
        have hnew : id ∉ seen := fun hmem => hfresh id hid ((hseen id).mp hmem)
        have hids : [decl].filterMap (·.spec.id) = [id] := List.filterMap_cons_some hid
        refine ⟨(before.length + 1, id :: seen), ⟨hlength, fun id' => ?_⟩, fun decls e => ?_⟩
        · rw [List.filterMap_append, hids, List.mem_append, List.mem_singleton, List.mem_cons,
            or_comm, hseen]
        · simp only [parseArguments_cons_of_id hparse hid, if_neg hnew, map_eq_error_iff]
  exact hstops.eq_error_iff [] (0, []) ⟨rfl, fun id => Iff.rfl⟩

theorem parse_eq_error_iff {d : Declaration} {e : SchemaError} :
    d.parse = .error e ↔ d.Malformed e := by
  by_cases htype : d.type = ""
  · have hparse : d.parse = .error .emptyActionType := by simp [parse, htype]; rfl
    rw [hparse]
    constructor
    · intro he
      rw [← Except.error.inj he]
      exact .untyped htype
    · intro he
      cases he with
      | untyped => rfl
      | doc typed => exact absurd htype typed
      | argument typed => exact absurd htype typed
  · have hparse : d.parse = .error e ↔ arguments d.type d.split.2.2 d.split.2.1 = .error e ∨
        ∃ decls, arguments d.type d.split.2.2 d.split.2.1 = .ok decls ∧
          parseArguments d.type decls.length 0 [] decls = .error e := by
      simp only [parse, String.isEmpty_iff, htype, if_false, bind_eq_error_iff, pure_ne_error,
        and_false, exists_false, or_false]
    simp only [hparse, arguments_split_eq_error_iff, arguments_split_eq_ok_iff,
      parseArguments_eq_error_iff]
    constructor
    · intro herror
      rcases herror with ⟨i, hi⟩ | ⟨_, ⟨hdoc, rfl⟩, i, hi⟩
      · exact .doc htype hi
      · exact .argument htype hdoc hi
    · intro he
      cases he with
      | untyped h => exact absurd h htype
      | doc _ first => exact .inl ⟨_, first⟩
      | argument _ docFirst first => exact .inr ⟨_, ⟨docFirst, rfl⟩, _, first⟩

end Declaration

end ActionSchema
