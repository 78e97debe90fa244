import ActionSchema.Predicate
import ActionSchema.Proofs.Except
import Mathlib.Data.List.Induction

/-! What predicate names stand for: a builtin, made optional once for every question mark. A name
without its question marks that is no builtin stands for nothing. What is optional already is made
no different by another question mark, so a name resolves by its root and by whether a question mark
comes after. -/

namespace ActionSchema.Predicate

inductive Denotes : String → Predicate → Prop
  | builtin {name : String} {test : Predicate} (known : (name, test) ∈ builtins) : Denotes name test
  | optional {name : String} {test : Predicate} (inner : Denotes name test) :
    Denotes (name ++ "?") (optional test)

/-- The names that are published and those that resolve are the same. -/
theorem map_fst_builtins : builtins.map Prod.fst = builtinNames := rfl

theorem nodup_builtinNames : builtinNames.Nodup := by decide

theorem mem_builtinNames_iff {name : String} :
    name ∈ builtinNames ↔ ∃ test, (name, test) ∈ builtins := by
  rw [← map_fst_builtins]
  constructor
  · intro hname
    obtain ⟨⟨_, test⟩, hmem, rfl⟩ := List.mem_map.mp hname
    exact ⟨test, hmem⟩
  · intro hname
    obtain ⟨test, hmem⟩ := hname
    exact List.mem_map_of_mem hmem

theorem lookup_builtins_eq_some_iff {name : String} {test : Predicate} :
    builtins.lookup name = some test ↔ (name, test) ∈ builtins := by
  rw [List.lookup_eq_some_iff]
  constructor
  · rintro ⟨before, after, hsplit, -⟩
    rw [hsplit]
    exact List.mem_append_right _ List.mem_cons_self
  · intro hmem
    obtain ⟨before, after, hsplit⟩ := List.append_of_mem hmem
    refine ⟨before, after, hsplit, fun p hp => bne_iff_ne.mpr fun e => ?_⟩
    -- a builtin of that name further in front would be listed twice
    have hnodup := nodup_builtinNames
    rw [← map_fst_builtins, hsplit, List.map_append, List.nodup_append] at hnodup
    exact hnodup.2.2 _ (List.mem_map_of_mem hp) _ List.mem_cons_self e.symm

theorem builtinName_not_optional {cs : List Char} {test : Predicate} :
    (String.ofList (cs ++ ['?']), test) ∉ builtins := by
  have hlast : ∀ name ∈ builtinNames, name.toList.getLast? ≠ some '?' := by decide
  intro hmem
  refine hlast _ (mem_builtinNames_iff.mpr ⟨test, hmem⟩) ?_
  simp

theorem ofReversed_eq_ok_iff_lookup {cs : List Char} (h : cs.head? ≠ some '?') {test : Predicate} :
    ofReversed cs = .ok test ↔ builtins.lookup (String.ofList cs.reverse) = some test := by
  unfold ofReversed
  split
  · exact absurd rfl h
  · cases hlookup : builtins.lookup (String.ofList cs.reverse) <;> simp [hlookup]

theorem denotes_iff_builtin {cs : List Char} (h : cs.head? ≠ some '?') {test : Predicate} :
    Denotes (String.ofList cs.reverse) test ↔ (String.ofList cs.reverse, test) ∈ builtins := by
  refine ⟨?_, .builtin⟩
  generalize hname : String.ofList cs.reverse = name
  intro hdenotes
  cases hdenotes with
  | builtin known => exact known
  | optional inner =>
    refine absurd ?_ h
    have hcs := congrArg (fun s : String => s.toList.reverse) hname
    simp only [String.toList_ofList, List.reverse_reverse, String.toList_append] at hcs
    simp [hcs]

theorem denotes_append_iff {cs : List Char} {test : Predicate} :
    Denotes (String.ofList (cs ++ ['?'])) test ↔
      ∃ inner, Denotes (String.ofList cs) inner ∧ optional inner = test := by
  constructor
  · generalize hname : String.ofList (cs ++ ['?']) = name
    intro hdenotes
    cases hdenotes with
    | builtin known => exact absurd (hname ▸ known) builtinName_not_optional
    | optional inner =>
      rw [String.ofList_append] at hname
      obtain rfl := (String.append_left_inj "?").mp hname
      exact ⟨_, inner, rfl⟩
  · rintro ⟨inner, hinner, rfl⟩
    rw [String.ofList_append]
    exact .optional hinner

theorem ofReversed_eq_ok_iff {cs : List Char} {test : Predicate} :
    ofReversed cs = .ok test ↔ Denotes (String.ofList cs.reverse) test := by
  induction cs generalizing test with
  | nil =>
    have h : ([] : List Char).head? ≠ some '?' := nofun
    rw [ofReversed_eq_ok_iff_lookup h, lookup_builtins_eq_some_iff, denotes_iff_builtin h]
  | cons c cs ih =>
    by_cases hc : c = '?'
    · subst hc
      simp only [ofReversed, map_eq_ok_iff, ih, List.reverse_cons, denotes_append_iff]
    · have h : (c :: cs).head? ≠ some '?' := fun e => hc (Option.some.inj e)
      rw [ofReversed_eq_ok_iff_lookup h, lookup_builtins_eq_some_iff, denotes_iff_builtin h]

theorem byName_eq_ok_iff {name : String} {test : Predicate} :
    byName name = .ok test ↔ Denotes name test := by
  rw [byName, ofReversed_eq_ok_iff, List.reverse_reverse, String.ofList_toList]

theorem Denotes.unique {name : String} {test test' : Predicate} (h : Denotes name test)
    (h' : Denotes name test') : test = test' :=
  Except.ok.inj ((byName_eq_ok_iff.mpr h).symm.trans (byName_eq_ok_iff.mpr h'))

theorem denotes_optional_iff {name : String} {test : Predicate} :
    Denotes (name ++ "?") test ↔ ∃ inner, Denotes name inner ∧ optional inner = test := by
  have hname : name ++ "?" = String.ofList (name.toList ++ ['?']) := by
    rw [String.ofList_append, String.ofList_toList]
  rw [hname, denotes_append_iff, String.ofList_toList]

theorem Denotes.accepts_null {name : String} {test : Predicate} (h : Denotes (name ++ "?") test) :
    test (some .null) = true := by
  obtain ⟨inner, -, rfl⟩ := denotes_optional_iff.mp h
  rfl

def stem (name : String) : String :=
  String.ofList (name.toList.reverse.dropWhile (· == '?')).reverse

theorem lookup_builtins_eq_none_iff {name : String} :
    builtins.lookup name = none ↔ name ∉ builtinNames := by
  rw [List.lookup_eq_none_iff, ← map_fst_builtins, List.mem_map, not_exists]
  refine forall_congr' fun p => ?_
  rw [not_and, bne_iff_ne]
  exact ⟨fun h hp e => h hp e.symm, fun h hp e => h hp e.symm⟩

theorem ofReversed_eq_error_iff {cs : List Char} {unknown : String} :
    ofReversed cs = .error unknown ↔
      unknown = String.ofList (cs.dropWhile (· == '?')).reverse ∧ unknown ∉ builtinNames := by
  induction cs with
  | nil =>
    have hempty : ofReversed [] = .error "" := rfl
    rw [hempty, Except.error.injEq]
    constructor
    · rintro rfl
      exact ⟨rfl, by decide⟩
    · exact fun h => h.1.symm
  | cons c cs ih =>
    by_cases hc : c = '?'
    · subst hc
      rw [ofReversed, map_eq_error_iff, ih]
      rfl
    · have hdrop : (c :: cs).dropWhile (· == '?') = c :: cs := by
        rw [List.dropWhile_cons, if_neg (by simpa using hc)]
      rw [hdrop]
      unfold ofReversed
      split
      · next h => exact absurd (List.head_eq_of_cons_eq h) hc
      · cases hlookup : builtins.lookup (String.ofList (c :: cs).reverse) with
        | some test =>
          have hknown : String.ofList (c :: cs).reverse ∈ builtinNames :=
            mem_builtinNames_iff.mpr ⟨test, lookup_builtins_eq_some_iff.mp hlookup⟩
          simp only [hlookup, reduceCtorEq, false_iff, not_and, not_not]
          exact fun hname => hname ▸ hknown
        | none =>
          have hnot := lookup_builtins_eq_none_iff.mp hlookup
          simp only [hlookup, Except.error.injEq]
          exact ⟨fun hname => ⟨hname.symm, hname ▸ hnot⟩, fun h => h.1.symm⟩

theorem byName_eq_error_iff {name unknown : String} :
    byName name = .error unknown ↔ unknown = stem name ∧ stem name ∉ builtinNames := by
  rw [byName, ofReversed_eq_error_iff]
  constructor <;> rintro ⟨rfl, h⟩ <;> exact ⟨rfl, h⟩

structure Marked (name root : String) (marks : Nat) : Prop where
  name_eq : name = root ++ String.ofList (List.replicate marks '?')
  bare : root.toList.getLast? ≠ some '?'

namespace Marked

variable {name root : String} {marks : Nat} (h : Marked name root marks)
include h

theorem stem_eq : stem name = root := by
  have hmarks : ∀ c ∈ List.replicate marks '?', (c == '?') = true := fun c hc =>
    beq_iff_eq.mpr (List.eq_of_mem_replicate hc)
  have hroot : root.toList.reverse.dropWhile (· == '?') = root.toList.reverse := by
    have hbare := h.bare
    rw [← List.head?_reverse] at hbare
    cases hcs : root.toList.reverse with
    | nil => rfl
    | cons c cs =>
      rw [hcs, List.head?_cons] at hbare
      rw [List.dropWhile_cons, if_neg (by simpa using hbare)]
  rw [stem, h.name_eq, String.toList_append, String.toList_ofList, List.reverse_append,
    List.reverse_replicate, List.dropWhile_append_of_pos hmarks, hroot, List.reverse_reverse,
    String.ofList_toList]

theorem unique {root' : String} {marks' : Nat} (h' : Marked name root' marks') :
    root' = root ∧ marks' = marks := by
  obtain rfl : root' = root := h'.stem_eq.symm.trans h.stem_eq
  have hlength := congrArg String.length (h'.name_eq.symm.trans h.name_eq)
  simp only [String.length_append, String.length_ofList, List.length_replicate,
    Nat.add_left_cancel_iff] at hlength
  exact ⟨rfl, hlength⟩

theorem mark : Marked (name ++ "?") root (marks + 1) where
  name_eq := by
    rw [h.name_eq, List.replicate_succ', String.ofList_append, String.append_assoc]
  bare := h.bare

end Marked

end ActionSchema.Predicate
