import ActionSchema.Table
import Mathlib.Data.List.Forall2
import Mathlib.Data.List.Induction
import Mathlib.Data.List.Perm.Basic
import Mathlib.Data.Option.Basic

/-! What a table holds. A table made from a list of entries with different keys holds just these
entries, each under its own key. -/

namespace ActionSchema.Table

namespace Entries

variable {α : Type}

theorem above_of_mem_keys {floor : Option String} {t : Entries α floor} {key : String}
    (h : key ∈ t.keys) : Above floor key := by
  obtain ⟨⟨k, v⟩, hmem, rfl⟩ := List.mem_map.mp h
  exact above_of_get? (get?_eq_some_iff_mem.mpr hmem)

theorem pairwise_keys {floor : Option String} (t : Entries α floor) :
    t.keys.Pairwise (· < ·) := by
  induction t with
  | nil => exact List.Pairwise.nil
  | cons key value above rest ih =>
    refine List.pairwise_cons.mpr ⟨fun k hk => ?_, ih⟩
    have hfloor : Above (some key) k := above_of_mem_keys hk
    exact hfloor

theorem nodup_keys {floor : Option String} (t : Entries α floor) : t.keys.Nodup :=
  t.pairwise_keys.imp fun h => String.ne_of_lt h

theorem mem_keys_iff {floor : Option String} {t : Entries α floor} {key : String} :
    key ∈ t.keys ↔ ∃ value, t.get? key = some value := by
  simp only [keys, List.mem_map, Prod.exists, get?_eq_some_iff_mem]
  constructor
  · rintro ⟨k, v, hmem, rfl⟩
    exact ⟨v, hmem⟩
  · rintro ⟨v, hmem⟩
    exact ⟨key, v, hmem, rfl⟩

theorem contains_iff_mem_keys {floor : Option String} {t : Entries α floor} {key : String} :
    t.contains key = true ↔ key ∈ t.keys := by
  rw [contains, Option.isSome_iff_exists, mem_keys_iff]

theorem length_keys {floor : Option String} (t : Entries α floor) : t.keys.length = t.size :=
  List.length_map ..

theorem keys_perm_iff {floor : Option String} {t : Entries α floor} {ks : List String} :
    t.keys.Perm ks ↔ ks.Nodup ∧ ∀ key, key ∈ t.keys ↔ key ∈ ks := by
  constructor
  · intro hperm
    exact ⟨hperm.nodup_iff.mp t.nodup_keys, fun _ => hperm.mem_iff⟩
  · rintro ⟨hnodup, hmem⟩
    exact (List.perm_ext_iff_of_nodup t.nodup_keys hnodup).mpr hmem

theorem get?_eq_none_iff {floor : Option String} {t : Entries α floor} {key : String} :
    t.get? key = none ↔ key ∉ t.keys := by
  rw [mem_keys_iff, ← Option.isSome_iff_exists, Option.not_isSome_iff_eq_none]

end Entries

variable {α : Type}

theorem ofList_concat (entries : List (String × α)) (key : String) (value : α) :
    ofList (entries ++ [(key, value)]) = (ofList entries).insert key value := by
  simp only [ofList, List.foldl_append, List.foldl_cons, List.foldl_nil]

theorem mem_keys_insert {t : Table α} {key x : String} {value : α} :
    x ∈ (t.insert key value).keys ↔ x = key ∨ x ∈ t.keys := by
  rw [Entries.mem_keys_iff, Entries.mem_keys_iff, get?_insert]
  by_cases h : key = x
  · simp [h]
  · simp [h, Ne.symm h]

theorem mem_keys_ofList {entries : List (String × α)} {key : String} :
    key ∈ (ofList entries).keys ↔ key ∈ entries.map Prod.fst := by
  induction entries using List.reverseRecOn with
  | nil => simp [ofList, Entries.keys, Entries.toList, empty]
  | append_singleton entries e ih =>
    rw [ofList_concat, mem_keys_insert, ih]
    simp [or_comm]

theorem keys_ofList_perm {entries : List (String × α)} (h : (entries.map Prod.fst).Nodup) :
    (ofList entries).keys.Perm (entries.map Prod.fst) :=
  (List.perm_ext_iff_of_nodup (Entries.nodup_keys _) h).mpr fun _ => mem_keys_ofList

theorem size_ofList {entries : List (String × α)} (h : (entries.map Prod.fst).Nodup) :
    (ofList entries).size = entries.length := by
  rw [← Entries.length_keys, (keys_ofList_perm h).length_eq, List.length_map]

theorem get?_ofList {entries : List (String × α)} (h : (entries.map Prod.fst).Nodup)
    {key : String} {value : α} (hmem : (key, value) ∈ entries) :
    (ofList entries).get? key = some value := by
  induction entries using List.reverseRecOn with
  | nil => simp at hmem
  | append_singleton entries e ih =>
    rw [List.map_append, List.nodup_append] at h
    obtain ⟨hnodup, -, hdisjoint⟩ := h
    rw [ofList_concat, get?_insert]
    rcases List.mem_append.mp hmem with hold | hnew
    · have hne : key ≠ e.1 := hdisjoint key (List.mem_map_of_mem hold) e.1 (by simp)
      rw [if_neg hne.symm, ih hnodup hold]
    · obtain rfl := List.mem_singleton.mp hnew
      simp

theorem mem_of_get?_ofList {entries : List (String × α)} {key : String} {value : α}
    (h : (ofList entries).get? key = some value) : (key, value) ∈ entries := by
  induction entries using List.reverseRecOn with
  | nil => cases h
  | append_singleton entries e ih =>
    rw [ofList_concat, get?_insert] at h
    split at h
    · next hkey => exact List.mem_append_right _ (by simp [← hkey, ← Option.some.inj h])
    · exact List.mem_append_left _ (ih h)

theorem mem_of_mem_toList_ofList {entries : List (String × α)} {e : String × α}
    (h : e ∈ (ofList entries).toList) : e ∈ entries :=
  mem_of_get?_ofList (Entries.get?_eq_some_iff_mem.mpr h)

theorem get?_ofList_eq_some_iff {entries : List (String × α)} (h : (entries.map Prod.fst).Nodup)
    {key : String} {value : α} : (ofList entries).get? key = some value ↔ (key, value) ∈ entries :=
  ⟨mem_of_get?_ofList, get?_ofList h⟩

theorem get?_ofList_eq_none_iff {entries : List (String × α)} {key : String} :
    (ofList entries).get? key = none ↔ key ∉ entries.map Prod.fst := by
  rw [Entries.get?_eq_none_iff, mem_keys_ofList]

theorem get?_ofList_append (before after : List (String × α)) (key : String) :
    (ofList (before ++ after)).get? key =
      ((ofList after).get? key).or ((ofList before).get? key) := by
  induction after using List.reverseRecOn with
  | nil =>
    have hempty : (ofList ([] : List (String × α))).get? key = none := rfl
    rw [List.append_nil, hempty, Option.none_or]
  | append_singleton after e ih =>
    rw [← List.append_assoc, ofList_concat, ofList_concat, get?_insert, get?_insert, ih]
    by_cases h : e.1 = key
    · rw [if_pos h, if_pos h, Option.some_or]
    · rw [if_neg h, if_neg h]

theorem get?_ofList_iff_last {entries : List (String × α)} {key : String} {value : α} :
    (ofList entries).get? key = some value ↔
      ∃ before after, entries = before ++ (key, value) :: after ∧ key ∉ after.map Prod.fst := by
  constructor
  · intro h
    induction entries using List.reverseRecOn with
    | nil => cases h
    | append_singleton entries e ih =>
      rw [ofList_concat, get?_insert] at h
      split at h
      · next hkey =>
        obtain rfl := Option.some.inj h
        exact ⟨entries, [], by rw [← hkey], List.not_mem_nil⟩
      · next hkey =>
        obtain ⟨before, after, rfl, hafter⟩ := ih h
        refine ⟨before, after ++ [e], by rw [List.append_assoc, List.cons_append], ?_⟩
        rw [List.map_append, List.mem_append, List.map_singleton, List.mem_singleton]
        exact not_or.mpr ⟨hafter, Ne.symm hkey⟩
  · rintro ⟨before, after, rfl, hafter⟩
    have hnone := get?_ofList_eq_none_iff.mpr hafter
    rw [List.append_cons, get?_ofList_append, hnone, Option.none_or, ofList_concat, get?_insert,
      if_pos rfl]

theorem ofList_toList (t : Table α) : ofList t.toList = t := by
  apply Entries.ext
  intro key
  apply Option.ext
  intro value
  rw [get?_ofList_eq_some_iff t.nodup_keys, ← Entries.get?_eq_some_iff_mem]

def restrict (t : Table α) (keys : List String) : Table α :=
  ofList (t.toList.filter fun e => keys.contains e.1)

theorem get?_restrict (t : Table α) (keys : List String) (key : String) :
    (t.restrict keys).get? key = if key ∈ keys then t.get? key else none := by
  have hnodup : ((t.toList.filter fun e => keys.contains e.1).map Prod.fst).Nodup :=
    t.nodup_keys.sublist (List.filter_sublist.map Prod.fst)
  apply Option.ext
  intro value
  rw [restrict, get?_ofList_eq_some_iff hnodup, List.mem_filter, List.contains_iff_mem]
  by_cases hkey : key ∈ keys
  · rw [if_pos hkey, and_iff_left hkey, Entries.get?_eq_some_iff_mem]
  · rw [if_neg hkey]
    exact ⟨fun h => absurd h.2 hkey, nofun⟩

theorem ofList_perm {entries entries' : List (String × α)} (h : (entries.map Prod.fst).Nodup)
    (hperm : entries.Perm entries') : ofList entries = ofList entries' := by
  have h' : (entries'.map Prod.fst).Nodup := (hperm.map Prod.fst).nodup_iff.mp h
  apply Entries.ext
  intro key
  apply Option.ext
  intro value
  rw [get?_ofList_eq_some_iff h, get?_ofList_eq_some_iff h', hperm.mem_iff]

theorem rel_get?_ofList {β : Type} {R : α → β → Prop} {es : List (String × α)}
    {es' : List (String × β)} (h : List.Forall₂ (fun e e' => e.1 = e'.1 ∧ R e.2 e'.2) es es')
    (key : String) : Option.Rel R ((ofList es).get? key) ((ofList es').get? key) := by
  suffices hfold : ∀ (s : Table α) (t : Table β),
      (∀ key, Option.Rel R (s.get? key) (t.get? key)) → ∀ key,
        Option.Rel R ((es.foldl (fun s e => s.insert e.1 e.2) s).get? key)
          ((es'.foldl (fun t e => t.insert e.1 e.2) t).get? key) from
    hfold empty empty (fun _ => .none) key
  induction h with
  | nil => exact fun s t hst => hst
  | cons hhead htail ih =>
    intro s t hst
    apply ih
    intro key
    rw [get?_insert, get?_insert, hhead.1]
    split
    · exact .some hhead.2
    · exact hst key

theorem get?_ofList_rename {f : String → String} (hf : Function.Injective f)
    (entries : List (String × α)) (key : String) :
    (ofList (entries.map fun e => (f e.1, e.2))).get? (f key) = (ofList entries).get? key := by
  induction entries using List.reverseRecOn with
  | nil => rfl
  | append_singleton entries e ih =>
    rw [List.map_append, List.map_singleton, ofList_concat, ofList_concat, get?_insert,
      get?_insert, ih]
    simp only [hf.eq_iff]

end ActionSchema.Table
