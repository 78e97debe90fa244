import ActionSchema.Record
import ActionSchema.Proofs.Except
import ActionSchema.Proofs.Namespace
import ActionSchema.Proofs.Table
import Mathlib.Data.List.Nodup

/-! Records by name. A record may stand as entries in any order, or as an array of its fields. As
long as its fields do not get in each other's way, either comes to the same: every field is read
from what stands under its name, and nothing stands under a name twice. -/

namespace ActionSchema.Record

variable {ν δ α : Type}

def readField (read : ν → Except Fault α) : Option ν → Except Fault (Option α)
  | some value => (read value).map some
  | none => .ok none

def Required (Shows : ν → α → Prop) (slot : Option ν) (a : α) : Prop :=
  ∃ value, slot = some value ∧ Shows value a

def Defaulted (Shows : ν → α → Prop) (default : α) : Option ν → α → Prop
  | some value, a => Shows value a
  | none, a => a = default

section Slot

variable {read : ν → Except Fault α} {Shows : ν → α → Prop} {slot : Option ν} {a : α}

theorem readField_required_iff (hread : ∀ value, read value = .ok a ↔ Shows value a) :
    (∃ x, readField read slot = .ok x ∧ x = some a) ↔ Required Shows slot a := by
  cases slot <;> simp [readField, Required, hread]

theorem readField_defaulted_iff (hread : ∀ value, read value = .ok a ↔ Shows value a)
    {default : α} : (∃ x, readField read slot = .ok x ∧ x.getD default = a) ↔
      Defaulted Shows default slot a := by
  cases slot with
  | none => simp [readField, Defaulted, eq_comm]
  | some value => simp [readField, Defaulted, hread]

end Slot

theorem toOption_once_twice {field : String} {slot : Option α} {x y : Except Fault α}
    {f : Option α → δ} {take : δ → Except Fault δ} {g : Option α → Option α → δ}
    (htake : ∀ a, take (f a) = once field a y >>= fun b => pure (g a b)) :
    ((once field slot x >>= fun a => pure (f a)) >>= take).toOption = none := by
  simp only [bind_assoc, pure_bind, htake]
  cases slot with
  | some a => rfl
  | none => cases x <;> rfl

theorem require_eq_ok_iff {missing : String → Fault} {field : String} {slot : Option α} {a : α} :
    require missing field slot = .ok a ↔ slot = some a := by
  cases slot <;> simp [require]

namespace Draft

variable (d : Draft ν δ)

/-- Fields may be taken in any order, but none of them twice. -/
structure Independent : Prop where
  distinct : d.fields.Nodup
  swap : ∀ f ∈ d.fields, ∀ g ∈ d.fields, f ≠ g → ∀ draft v w,
    (d.take draft f v >>= (d.take · g w)).toOption = (d.take draft g w >>= (d.take · f v)).toOption
  once : ∀ f ∈ d.fields, ∀ draft v w, (d.take draft f v >>= (d.take · f w)).toOption = none

def Admits (src : Source ν) (e : String × ν) : Prop :=
  e.1 ∈ d.fields ∨ d.closed = false ∧ src.skip e.2 = .ok ()

def known (entries : List (String × ν)) : List (String × ν) :=
  entries.filter (d.fields.contains ·.1)

inductive Lists (src : Source ν) (value : ν) : List (String × ν) → Prop
  | named {entries : List (String × ν)}
    (fields : src.fields d.name value = .ok (.named (entries.map fun e => (some e.1, e.2))))
    (admits : ∀ e ∈ entries, d.Admits src e) (apart : ((d.known entries).map Prod.fst).Nodup) :
    Lists src value entries
  | inOrder {items : List ν} (fields : src.fields d.name value = .ok (.inOrder items))
    (fits : items.length ≤ d.fields.length) : Lists src value (d.fields.zip items)

def Presents (src : Source ν) (value : ν) (slot : String → Option ν) : Prop :=
  ∃ entries, d.Lists src value entries ∧
    ∀ f ∈ d.fields, ∀ x, slot f = some x ↔ (f, x) ∈ entries

def takeField (slot : String → Option ν) (draft : δ) (field : String) : Except Fault δ :=
  match slot field with
  | some value => d.take draft field value
  | none => .ok draft

def ofFields (slot : String → Option ν) : Except Fault δ :=
  d.fields.foldlM (d.takeField slot) d.empty

variable {d}

theorem takeField_eq {read : ν → Except Fault α} {store : Option α → δ} {draft : δ}
    {slot : String → Option ν} {field : String}
    (htake : ∀ value, d.take draft field value =
      (read value).map some >>= fun a => pure (store a))
    (hstore : store none = draft) :
    d.takeField slot draft field = readField read (slot field) >>= fun a => pure (store a) := by
  unfold takeField
  cases slot field with
  | none => exact congrArg Except.ok hstore.symm
  | some value => exact htake value

section Take

variable {entries entries' : List (String × ν)} {draft draft' : δ}

theorem mem_known {e : String × ν} : e ∈ d.known entries ↔ e ∈ entries ∧ e.1 ∈ d.fields := by
  rw [known, List.mem_filter, List.contains_iff_mem]

theorem known_cons (e : String × ν) (entries : List (String × ν)) :
    d.known (e :: entries) = if e.1 ∈ d.fields then e :: d.known entries else d.known entries := by
  simp only [known, List.filter_cons, List.contains_iff_mem]

theorem toOption_foldlM_perm (hind : d.Independent) (hperm : entries.Perm entries')
    (hfields : ∀ e ∈ entries, e.1 ∈ d.fields) (draft : δ) :
    (entries.foldlM d.takeItem draft).toOption = (entries'.foldlM d.takeItem draft).toOption := by
  induction hperm generalizing draft with
  | nil => rfl
  | cons e hperm ih =>
    rw [List.foldlM_cons, List.foldlM_cons, toOption_bind, toOption_bind]
    refine Option.bind_congr fun draft' _ => ?_
    exact ih (fun e he => hfields e (List.mem_cons_of_mem _ he)) draft'
  | swap e e' entries =>
    have he := hfields e (by simp)
    have he' := hfields e' (by simp)
    have hswap : (d.take draft e'.1 e'.2 >>= (d.take · e.1 e.2)).toOption =
        (d.take draft e.1 e.2 >>= (d.take · e'.1 e'.2)).toOption := by
      -- two entries for one field fail in either order
      by_cases hne : e'.1 = e.1
      · rw [hne, hind.once _ he, hind.once _ he]
      · exact hind.swap _ he' _ he hne draft e'.2 e.2
    simp only [List.foldlM_cons, ← bind_assoc]
    exact toOption_bind_congr hswap _
  | trans hperm hperm' ih ih' =>
    rw [ih hfields, ih' fun e he => hfields e (hperm.mem_iff.mpr he)]

theorem foldlM_takeItem_twice (hind : d.Independent) {f : String} (hf : f ∈ d.fields) (v w : ν)
    (entries : List (String × ν)) (draft : δ) :
    (((f, v) :: (f, w) :: entries).foldlM d.takeItem draft).toOption = none := by
  have htwice : (d.takeItem draft (f, v) >>= (d.takeItem · (f, w))).toOption = none :=
    hind.once f hf draft v w
  simp only [List.foldlM_cons, ← bind_assoc]
  rw [toOption_bind, htwice, Option.bind_none]

theorem nodup_of_foldlM_takeItem (hind : d.Independent) (hfields : ∀ e ∈ entries, e.1 ∈ d.fields)
    (h : entries.foldlM d.takeItem draft = .ok draft') : (entries.map Prod.fst).Nodup := by
  induction entries generalizing draft with
  | nil => exact List.nodup_nil
  | cons e entries ih =>
    rw [List.map_cons, List.nodup_cons]
    constructor
    · -- the second entry for a field could be brought next to the first
      intro hmem
      obtain ⟨⟨f, w⟩, hw, rfl⟩ := List.mem_map.mp hmem
      obtain ⟨front, back, rfl⟩ := List.append_of_mem hw
      have hperm : (e :: (front ++ (e.1, w) :: back)).Perm (e :: (e.1, w) :: (front ++ back)) :=
        List.perm_middle.cons e
      have hnone := foldlM_takeItem_twice hind (hfields e List.mem_cons_self) e.2 w
        (front ++ back) draft
      rw [← toOption_foldlM_perm hind hperm hfields, h] at hnone
      cases hnone
    · rw [List.foldlM_cons, bind_eq_ok_iff] at h
      obtain ⟨draft₁, -, h⟩ := h
      exact ih (fun e he => hfields e (List.mem_cons_of_mem _ he)) h

theorem toOption_foldlM_takeItem (hind : d.Independent)
    (hfields : ∀ e ∈ entries, e.1 ∈ d.fields) (apart : (entries.map Prod.fst).Nodup)
    {slot : String → Option ν} (hslot : ∀ f ∈ d.fields, ∀ x, slot f = some x ↔ (f, x) ∈ entries) :
    (entries.foldlM d.takeItem d.empty).toOption = (d.ofFields slot).toOption := by
  -- the slots hold the entries, in the order of the fields
  have hnodup : (d.fields.filterMap fun f => (slot f).map (f, ·)).Nodup := by
    refine List.Nodup.filterMap (fun f g e hf hg => ?_) hind.distinct
    obtain ⟨v, -, rfl⟩ := Option.map_eq_some_iff.mp hf
    obtain ⟨w, -, hpair⟩ := Option.map_eq_some_iff.mp hg
    exact (congrArg Prod.fst hpair).symm
  have hperm : entries.Perm (d.fields.filterMap fun f => (slot f).map (f, ·)) := by
    refine (List.perm_ext_iff_of_nodup (apart.of_map _) hnodup).mpr fun ⟨f, x⟩ => ?_
    simp only [List.mem_filterMap, Option.map_eq_some_iff, Prod.mk.injEq]
    constructor
    · intro hmem
      have hf := hfields _ hmem
      exact ⟨f, hf, x, (hslot f hf x).mpr hmem, rfl, rfl⟩
    · rintro ⟨f, hf, x, hx, rfl, rfl⟩
      exact (hslot f hf x).mp hx
  rw [toOption_foldlM_perm hind hperm hfields, List.foldlM_filterMap, ofFields]
  refine congrArg Except.toOption (congrArg (List.foldlM · d.empty d.fields) ?_)
  funext draft f
  unfold takeField
  cases slot f <;> rfl

theorem exists_slot (apart : (entries.map Prod.fst).Nodup) :
    ∃ slot : String → Option ν, ∀ f x, slot f = some x ↔ (f, x) ∈ entries :=
  ⟨(Table.ofList entries).get?, fun _ _ => Table.get?_ofList_eq_some_iff apart⟩

end Take

section Entries

variable {src : Source ν} {draft draft' : δ}

theorem takeEntry_some {key : String} {x : ν} (h : d.Admits src (key, x)) (draft : δ) :
    d.takeEntry src draft (some key, x) =
      if key ∈ d.fields then d.takeItem draft (key, x) else .ok draft := by
  by_cases hkey : key ∈ d.fields
  · rw [takeEntry, if_pos hkey, if_pos (List.contains_iff_mem.mpr hkey)]
    rfl
  · obtain ⟨hopen, hskip⟩ := h.resolve_left hkey
    rw [takeEntry, if_neg hkey, if_neg (mt List.contains_iff_mem.mp hkey), hopen]
    change (src.skip x >>= fun _ => pure draft) = _
    rw [hskip]
    rfl

theorem exists_of_takeEntry_eq_ok {e : Option String × ν}
    (h : d.takeEntry src draft e = .ok draft') :
    ∃ key, e.1 = some key ∧ d.Admits src (key, e.2) := by
  obtain ⟨_ | key, x⟩ := e
  · cases h
  · refine ⟨key, rfl, ?_⟩
    by_cases hkey : key ∈ d.fields
    · exact .inl hkey
    · rw [takeEntry, if_neg (mt List.contains_iff_mem.mp hkey)] at h
      split at h
      · cases h
      · next hopen =>
        obtain ⟨_, hskip, -⟩ := bind_eq_ok_iff.mp h
        exact .inr ⟨by simpa using hopen, hskip⟩

theorem exists_of_foldlM_takeEntry {es : List (Option String × ν)}
    (h : es.foldlM (d.takeEntry src) draft = .ok draft') : ∃ entries : List (String × ν),
      es = entries.map (fun e => (some e.1, e.2)) ∧ ∀ e ∈ entries, d.Admits src e := by
  induction es generalizing draft with
  | nil => exact ⟨[], rfl, nofun⟩
  | cons e es ih =>
    rw [List.foldlM_cons, bind_eq_ok_iff] at h
    obtain ⟨draft₁, hentry, hrest⟩ := h
    obtain ⟨key, hkey, hadmits⟩ := exists_of_takeEntry_eq_ok hentry
    obtain ⟨entries, rfl, hall⟩ := ih hrest
    obtain ⟨_, x⟩ := e
    cases hkey
    exact ⟨(key, x) :: entries, rfl, List.forall_mem_cons.mpr ⟨hadmits, hall⟩⟩

theorem foldlM_takeEntry {entries : List (String × ν)} (h : ∀ e ∈ entries, d.Admits src e)
    (draft : δ) :
    (entries.map fun e => (some e.1, e.2)).foldlM (d.takeEntry src) draft =
      (d.known entries).foldlM d.takeItem draft := by
  induction entries generalizing draft with
  | nil => rfl
  | cons e entries ih =>
    obtain ⟨he, hrest⟩ := List.forall_mem_cons.mp h
    rw [List.map_cons, List.foldlM_cons, takeEntry_some he, funext (ih hrest), known_cons]
    by_cases hkey : e.1 ∈ d.fields
    · rw [if_pos hkey, if_pos hkey, List.foldlM_cons]
    · rw [if_neg hkey, if_neg hkey]
      rfl

theorem map_fst_zip_sublist (names : List String) (items : List ν) :
    ((names.zip items).map Prod.fst).Sublist names := by
  induction names generalizing items with
  | nil => exact List.nil_sublist _
  | cons name names ih =>
    cases items with
    | nil => exact List.nil_sublist _
    | cons item items => exact (ih items).cons_cons name

theorem fill_named {value : ν} {es : List (Option String × ν)}
    (h : src.fields d.name value = .ok (.named es)) :
    (∃ missing, d.fill src value = .ok (draft, missing)) ↔
      es.foldlM (d.takeEntry src) d.empty = .ok draft := by
  have hfill : d.fill src value = es.foldlM (d.takeEntry src) d.empty >>= fun draft =>
      pure (draft, .missingField) := by
    rw [fill, h]
    rfl
  simp only [hfill, bind_eq_ok_iff, pure_eq_ok_iff, Prod.mk.injEq]
  constructor
  · rintro ⟨_, _, hwalk, rfl, -⟩
    exact hwalk
  · exact fun hwalk => ⟨_, _, hwalk, rfl, rfl⟩

theorem fill_inOrder {value : ν} {items : List ν}
    (h : src.fields d.name value = .ok (.inOrder items)) :
    (∃ missing, d.fill src value = .ok (draft, missing)) ↔
      (d.fields.zip items).foldlM d.takeItem d.empty = .ok draft ∧
        items.length ≤ d.fields.length := by
  have hfill : d.fill src value = (d.fields.zip items).foldlM d.takeItem d.empty >>= fun draft =>
      if d.fields.length < items.length then .error (src.surplus items.length)
      else pure (draft, fun field =>
        .tooShort (d.fields.idxOf field) d.name d.fields.length) := by
    rw [fill, h]
    change Except.bind ((d.fields.zip items).foldlM d.takeItem d.empty) _ = Except.bind _ _
    refine congrArg (Except.bind _) (funext fun draft => ?_)
    split <;> rfl
  simp only [hfill, bind_eq_ok_iff]
  -- surplus items are noticed only after the fields are taken
  by_cases hlong : d.fields.length < items.length
  · simp only [if_pos hlong, reduceCtorEq, and_false, exists_false, Nat.not_le.mpr hlong]
  · simp only [if_neg hlong, pure_eq_ok_iff, Prod.mk.injEq, Nat.not_lt.mp hlong, and_true]
    constructor
    · rintro ⟨_, _, hwalk, rfl, -⟩
      exact hwalk
    · exact fun hwalk => ⟨_, _, hwalk, rfl, rfl⟩

variable {value : ν} {slot : String → Option ν}

theorem exists_presents_of_fill (hind : d.Independent) {missing : String → Fault}
    (h : d.fill src value = .ok (draft, missing)) : ∃ slot, d.Presents src value slot := by
  obtain ⟨fields, hfields, -⟩ := bind_eq_ok_iff.mp h
  cases fields with
  | named es =>
    have hwalk := (fill_named hfields).mp ⟨missing, h⟩
    -- the walk got to its end: every key could be read, and no field was given twice
    obtain ⟨entries, rfl, admits⟩ := exists_of_foldlM_takeEntry hwalk
    rw [foldlM_takeEntry admits] at hwalk
    have apart := nodup_of_foldlM_takeItem hind (fun e he => (mem_known.mp he).2) hwalk
    obtain ⟨slot, hslot⟩ := exists_slot apart
    refine ⟨slot, entries, .named hfields admits apart, fun f hf x => ?_⟩
    rw [hslot, mem_known]
    exact and_iff_left hf
  | inOrder items =>
    have fits := ((fill_inOrder hfields).mp ⟨missing, h⟩).2
    obtain ⟨slot, hslot⟩ := exists_slot (hind.distinct.sublist (map_fst_zip_sublist d.fields items))
    exact ⟨slot, _, .inOrder hfields fits, fun f _ => hslot f⟩

theorem fill_of_presents (hind : d.Independent) (h : d.Presents src value slot) :
    (∃ missing, d.fill src value = .ok (draft, missing)) ↔ d.ofFields slot = .ok draft := by
  obtain ⟨entries, hlists, hslot⟩ := h
  cases hlists with
  | named hfields admits apart =>
    have hslot' : ∀ f ∈ d.fields, ∀ x, slot f = some x ↔ (f, x) ∈ d.known entries := by
      intro f hf x
      rw [hslot f hf, mem_known]
      exact (and_iff_left hf).symm
    have hwalk := toOption_foldlM_takeItem hind (fun e he => (mem_known.mp he).2) apart hslot'
    rw [fill_named hfields, foldlM_takeEntry admits, ← toOption_eq_some_iff, hwalk,
      toOption_eq_some_iff]
  | @inOrder items hfields fits =>
    have hsublist := map_fst_zip_sublist d.fields items
    have hwalk := toOption_foldlM_takeItem hind
      (fun e he => hsublist.subset (List.mem_map_of_mem he)) (hind.distinct.sublist hsublist) hslot
    rw [fill_inOrder hfields, and_iff_left fits, ← toOption_eq_some_iff, hwalk,
      toOption_eq_some_iff]

/-- A record is read from a value that presents it, field by field, and from no other. -/
theorem fill_bind_eq_ok_iff (hind : d.Independent)
    {finish : δ × (String → Fault) → Except Fault α} {Makes : δ → α → Prop} {a : α}
    (hfinish : ∀ draft missing, finish (draft, missing) = .ok a ↔ Makes draft a) :
    d.fill src value >>= finish = .ok a ↔
      ∃ slot, d.Presents src value slot ∧ ∃ draft, d.ofFields slot = .ok draft ∧ Makes draft a := by
  rw [bind_eq_ok_iff]
  constructor
  · rintro ⟨⟨draft, missing⟩, h, hmakes⟩
    obtain ⟨slot, hpresents⟩ := exists_presents_of_fill hind h
    have hfields := (fill_of_presents hind hpresents).mp ⟨missing, h⟩
    exact ⟨slot, hpresents, draft, hfields, (hfinish draft missing).mp hmakes⟩
  · rintro ⟨slot, hpresents, draft, hfields, hmakes⟩
    obtain ⟨missing, h⟩ := (fill_of_presents hind hpresents).mpr hfields
    exact ⟨(draft, missing), h, (hfinish draft missing).mpr hmakes⟩

end Entries

end Draft

namespace Source

variable (src : Source ν)

inductive ShowsOptional : ν → Option String → Prop
  | absent {value : ν} (absent : src.present? value = .ok none) : ShowsOptional value none
  | text {value content : ν} {text : String} (present : src.present? value = .ok (some content))
    (string : src.string content = .ok text) : ShowsOptional value (some text)

/-- Values of the source that stand for JSON values answer as these do. -/
structure Holds (R : ν → Json → Prop) : Prop where
  string : ∀ {x : ν} {text : String}, R x (.str text) → src.string x = .ok text
  present? : ∀ {x : ν} {text : String}, R x (.str text) → src.present? x = .ok (some x)
  items : ∀ {x : ν} {values : List Json}, R x (.arr values) →
    ∃ items, src.items x = .ok items ∧ List.Forall₂ R items values
  fields : ∀ (record : String) {x : ν} {fields : Table Json}, R x (.obj fields) →
    ∃ entries : List (String × ν),
      src.fields record x = .ok (.named (entries.map fun e => (some e.1, e.2))) ∧
      (entries.map Prod.fst).Nodup ∧
      ∀ key, Option.Rel R ((Table.ofList entries).get? key) (fields.get? key)

def ShowsList (Shows : ν → α → Prop) (value : ν) (list : List α) : Prop :=
  ∃ items, src.items value = .ok items ∧ List.Forall₂ Shows items list

end Source

variable {src : Source ν} {value : ν}

theorem readOptional_eq_ok_iff {text : Option String} :
    readOptional src value = .ok text ↔ src.ShowsOptional value text := by
  rw [readOptional, bind_eq_ok_iff]
  constructor
  · rintro ⟨_ | content, hpresent, htext⟩
    · cases htext
      exact .absent hpresent
    · obtain ⟨text, hstring, ⟨⟩⟩ := bind_eq_ok_iff.mp htext
      exact .text hpresent hstring
  · intro h
    cases h with
    | absent habsent => exact ⟨_, habsent, rfl⟩
    | text hpresent hstring => exact ⟨_, hpresent, bind_eq_ok_iff.mpr ⟨_, hstring, rfl⟩⟩

theorem readField_string_iff {slot : Option ν} {text : String} :
    (∃ x, readField src.string slot = .ok x ∧ x = some text) ↔
      Required (src.string · = .ok ·) slot text :=
  readField_required_iff fun _ => Iff.rfl

theorem readField_optional_iff {slot : Option ν} {text : Option String} :
    (∃ x, readField (readOptional src) slot = .ok x ∧ x.getD none = text) ↔
      Defaulted src.ShowsOptional none slot text :=
  readField_defaulted_iff fun _ => readOptional_eq_ok_iff

theorem readList_eq_ok_iff {read : ν → Except Fault α} {Shows : ν → α → Prop}
    (hread : ∀ value a, read value = .ok a ↔ Shows value a) {list : List α} :
    readList src read value = .ok list ↔ src.ShowsList Shows value list := by
  simp only [readList, bind_eq_ok_iff, mapM_eq_ok_iff, hread, Source.ShowsList]

theorem readNamespace_eq_ok_iff {ns : Namespace} :
    readNamespace src value = .ok ns ↔ src.string value = .ok ns.name := by
  simp only [readNamespace, bind_eq_ok_iff, mapError_eq_ok_iff, Namespace.ofString_eq_ok_iff,
    exists_eq_right]

section Holds

variable {R : ν → Json → Prop} (holds : src.Holds R)

include holds

theorem exists_presents_ofFields {d : Draft ν δ} {fields : List (String × Json)} {x : ν}
    (h : R x (.ofFields fields)) (hfields : ∀ e ∈ fields, e.1 ∈ d.fields) :
    ∃ slot, d.Presents src x slot ∧ ∀ f, Option.Rel R (slot f) ((Table.ofList fields).get? f) := by
  obtain ⟨entries, hentries, apart, hrel⟩ := holds.fields d.name h
  have hslot (f : String) (x : ν) : (Table.ofList entries).get? f = some x ↔ (f, x) ∈ entries :=
    Table.get?_ofList_eq_some_iff apart
  refine ⟨_, ⟨entries, .named hentries ?_ ?_, fun f _ => hslot f⟩, hrel⟩
  · intro e he
    have hkey := hrel e.1
    rw [(hslot e.1 e.2).mpr he] at hkey
    cases hget : (Table.ofList fields).get? e.1 with
    | none =>
      rw [hget] at hkey
      cases hkey
    | some value => exact .inl (hfields _ (Table.mem_of_get?_ofList hget))
  · exact apart.sublist (List.filter_sublist.map Prod.fst)

variable {slot : Option ν}

theorem required_str {text : String} (h : Option.Rel R slot (some (.str text))) :
    Required (src.string · = .ok ·) slot text := by
  cases h with
  | some h => exact ⟨_, rfl, holds.string h⟩

theorem defaulted_optional {text : Option String} (h : Option.Rel R slot (text.map .str)) :
    Defaulted src.ShowsOptional none slot text := by
  cases text with
  | none =>
    cases h
    rfl
  | some text =>
    cases h with
    | some h => exact .text (holds.present? h) (holds.string h)

theorem showsList_map {Shows : ν → α → Prop} {toJson : α → Json} {list : List α} {x : ν}
    (h : R x (.arr (list.map toJson))) (hitem : ∀ a x, R x (toJson a) → Shows x a) :
    src.ShowsList Shows x list := by
  obtain ⟨items, hitems, hall⟩ := holds.items h
  rw [List.forall₂_map_right_iff] at hall
  exact ⟨items, hitems, hall.imp fun x a => hitem a x⟩

theorem defaulted_list {Shows : ν → α → Prop} {toJson : α → Json} {list : List α}
    (h : Option.Rel R slot (if list.isEmpty then none else some (.arr (list.map toJson))))
    (hitem : ∀ a x, R x (toJson a) → Shows x a) :
    Defaulted (src.ShowsList Shows) [] slot list := by
  cases list with
  | nil =>
    cases h
    rfl
  | cons a list =>
    cases h with
    | some h => exact showsList_map holds h hitem

end Holds

theorem presents_obj_iff {d : Draft Json δ} {fields : Table Json} {slot : String → Option Json} :
    d.Presents Json.source (.obj fields) slot ↔
      (d.closed = true → ∀ key ∈ fields.keys, key ∈ d.fields) ∧
        ∀ f ∈ d.fields, slot f = fields.get? f := by
  constructor
  · rintro ⟨entries, hlists, hslot⟩
    cases hlists with
    | named hentries admits apart =>
      -- the keys of an object can all be read, so its entries are the ones that are listed
      have hinj : Function.Injective fun e : String × Json => (some e.1, e.2) := by
        rintro ⟨k, v⟩ ⟨k', v'⟩ ⟨⟩
        rfl
      obtain rfl : fields.toList = entries :=
        hinj.list_map (Fields.named.inj (Except.ok.inj hentries))
      constructor
      · intro hclosed key hkey
        obtain ⟨e, he, rfl⟩ := List.mem_map.mp hkey
        exact (admits e he).resolve_right fun hopen => by simp [hclosed] at hopen
      · intro f hf
        apply Option.ext
        intro value
        rw [hslot f hf, ← Table.Entries.get?_eq_some_iff_mem]
    | inOrder hitems => cases hitems
  · rintro ⟨known, hslot⟩
    refine ⟨fields.toList, .named rfl ?_ ?_, ?_⟩
    · intro e he
      by_cases hclosed : d.closed = true
      · exact .inl (known hclosed e.1 (List.mem_map_of_mem he))
      · exact .inr ⟨by simpa using hclosed, rfl⟩
    · exact fields.nodup_keys.sublist (List.filter_sublist.map Prod.fst)
    · intro f hf value
      rw [hslot f hf, Table.Entries.get?_eq_some_iff_mem]

theorem holds_json : Json.source.Holds Eq where
  string := by
    rintro _ text rfl
    rfl
  present? := by
    rintro _ text rfl
    rfl
  items := by
    rintro _ values rfl
    exact ⟨values, rfl, List.forall₂_same.mpr fun _ _ => rfl⟩
  fields := by
    rintro record _ fields rfl
    refine ⟨fields.toList, rfl, fields.nodup_keys, fun key => ?_⟩
    rw [Table.ofList_toList]
    cases fields.get? key with
    | none => exact .none
    | some value => exact .some rfl

end ActionSchema.Record
