import ActionSchema.Namespace
import Mathlib.Logic.Function.Basic

/-! A namespace keeps types apart and in order. Two namespaces keep them apart as long as neither
starts with the other and a separator. -/

namespace ActionSchema.Namespace

theorem ofString_eq_ok_iff {name : String} {ns : Namespace} :
    ofString name = .ok ns ↔ name = ns.name := by
  unfold ofString
  split
  · next c h =>
    refine ⟨nofun, ?_⟩
    rintro rfl
    have hmem := List.mem_of_find?_eq_some h
    have hblocked := List.find?_some h
    exact absurd (by simpa using hblocked) (ns.clean c hmem)
  · obtain ⟨name', hclean⟩ := ns
    rw [Except.ok.injEq, Namespace.mk.injEq]

def front (ns : Namespace) : String := if ns.isEmpty then "" else ns.name ++ separator.toString

theorem qualify_eq_front_append (ns : Namespace) (type : String) :
    ns.qualify type = ns.front ++ type := by
  unfold qualify front
  split <;> simp

theorem toList_qualify (ns : Namespace) (type : String) :
    (ns.qualify type).toList = ns.front.toList ++ type.toList := by
  rw [qualify_eq_front_append, String.toList_append]

theorem qualify_injective (ns : Namespace) : Function.Injective ns.qualify := by
  intro s t h
  rw [qualify_eq_front_append, qualify_eq_front_append] at h
  exact String.append_right_inj _ |>.mp h

theorem qualify_lt_qualify (ns : Namespace) {s t : String} (h : s < t) :
    ns.qualify s < ns.qualify t := by
  change (ns.qualify s).toList < (ns.qualify t).toList
  rw [toList_qualify, toList_qualify]
  exact List.append_left_lt h

theorem toList_qualify_of_ne {ns : Namespace} (h : ns.name ≠ "") (type : String) :
    (ns.qualify type).toList = ns.name.toList ++ separator :: type.toList := by
  have hfront : ns.front = ns.name ++ separator.toString := by
    rw [front, isEmpty, if_neg (mt String.isEmpty_iff.mp h)]
  rw [toList_qualify, hfront, String.toList_append, List.append_assoc]
  rfl

theorem qualify_ne_empty (ns : Namespace) {type : String} (h : type ≠ "") :
    ns.qualify type ≠ "" := by
  intro e
  rw [qualify_eq_front_append, String.append_eq_empty_iff] at e
  exact h e.2

theorem append_cons_eq_append_cons_iff {α : Type} {a b s t : List α} {c : α} :
    a ++ c :: s = b ++ c :: t ↔ (a = b ∧ s = t) ∨
      (∃ u, b = a ++ c :: u ∧ s = u ++ c :: t) ∨ ∃ u, a = b ++ c :: u ∧ t = u ++ c :: s := by
  constructor
  · intro h
    rcases List.append_eq_append_iff.mp h with ⟨v, hb, hs⟩ | ⟨v, ha, ht⟩
    · rcases List.cons_eq_append_iff.mp hs with ⟨rfl, htail⟩ | ⟨u, rfl, hs'⟩
      · exact .inl ⟨by simpa using hb.symm, (List.cons.inj htail).2.symm⟩
      · exact .inr (.inl ⟨u, hb, hs'⟩)
    · rcases List.cons_eq_append_iff.mp ht with ⟨rfl, htail⟩ | ⟨u, rfl, ht'⟩
      · exact .inl ⟨by simpa using ha, (List.cons.inj htail).2⟩
      · exact .inr (.inr ⟨u, ha, ht'⟩)
  · rintro (⟨rfl, rfl⟩ | ⟨u, rfl, rfl⟩ | ⟨u, rfl, rfl⟩) <;> simp

/-- A type reads in one namespace as another does in a longer one: `user_LOGIN` in `app` and `LOGIN`
in `app_user`. -/
def Shadows (ns ns' : Namespace) (type type' : String) : Prop :=
  ∃ u, ns'.name = ns.name ++ "_" ++ u ∧ type = u ++ "_" ++ type'

theorem shadows_iff {ns ns' : Namespace} {type type' : String} : ns.Shadows ns' type type' ↔
    ∃ u, ns'.name.toList = ns.name.toList ++ separator :: u ∧
      type.toList = u ++ separator :: type'.toList := by
  constructor
  · rintro ⟨u, hname, rfl⟩
    exact ⟨u.toList, by simp [hname, separator], by simp [separator]⟩
  · rintro ⟨u, hname, htype⟩
    refine ⟨String.ofList u, String.toList_inj.mp ?_, String.toList_inj.mp ?_⟩
    · simpa [separator] using hname
    · simpa [separator] using htype

theorem qualify_eq_qualify_iff {ns ns' : Namespace} (h : ns.name ≠ "") (h' : ns'.name ≠ "")
    {type type' : String} : ns.qualify type = ns'.qualify type' ↔
      (ns = ns' ∧ type = type') ∨ ns.Shadows ns' type type' ∨ ns'.Shadows ns type' type := by
  have hname : ns.name.toList = ns'.name.toList ↔ ns = ns' := by
    rw [String.toList_inj, Namespace.mk.injEq]
  rw [← String.toList_inj, toList_qualify_of_ne h, toList_qualify_of_ne h',
    append_cons_eq_append_cons_iff, hname, String.toList_inj, ← shadows_iff, ← shadows_iff]

end ActionSchema.Namespace
