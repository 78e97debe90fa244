import ActionSchema.Proofs.RecordFields

/-! Texts of JSON values. A value without numbers is written as a text that says it again. -/

namespace ActionSchema.Json

/-- The outline holds the value, with its entries in any order but no key twice. -/
inductive Outline.Says : Outline → Json → Prop
  | null : Says .null .null
  | bool (value : Bool) : Says (.bool value) (.bool value)
  | num (value : Number) : Says (.num (some value)) (.num value)
  | str (value : String) : Says (.str (some value)) (.str value)
  | arr {items : List Outline} {values : List Json} (parts : List.Forall₂ Says items values) :
    Says (.arr items) (.arr values)
  | obj {entries : List (String × Outline)} {fields : Table Json}
    (apart : (entries.map Prod.fst).Nodup)
    (parts : ∀ key, Option.Rel Says ((Table.ofList entries).get? key) (fields.get? key)) :
    Says (.obj (entries.map fun e => .mk (some e.1) e.2)) (.obj fields)

def SaidBy (value : Json) (text : String) : Prop :=
  ∃ outline, Outline.ofText text.toList = (outline, true) ∧ outline.Says value

mutual

def isNumberless : Json → Bool
  | num _ => false
  | arr items => itemsNumberless items
  | obj fields => fieldsNumberless fields
  | _ => true

def itemsNumberless : List Json → Bool
  | [] => true
  | item :: rest => item.isNumberless && itemsNumberless rest

def fieldsNumberless {floor : Option String} : Table.Entries Json floor → Bool
  | .nil => true
  | .cons _ value _ rest => value.isNumberless && fieldsNumberless rest

end

theorem itemsNumberless_iff {items : List Json} :
    itemsNumberless items ↔ ∀ item ∈ items, item.isNumberless := by
  induction items with
  | nil => simp [itemsNumberless]
  | cons item items ih => simp [itemsNumberless, ih]

theorem fieldsNumberless_iff {floor : Option String} {fields : Table.Entries Json floor} :
    fieldsNumberless fields ↔ ∀ e ∈ fields.toList, e.2.isNumberless := by
  induction fields with
  | nil => simp [fieldsNumberless, Table.Entries.toList]
  | cons key value above rest ih =>
    rw [fieldsNumberless, Bool.and_eq_true, ih, Table.Entries.toList, List.forall_mem_cons]

theorem isNumberless_ofFields {fields : List (String × Json)}
    (h : ∀ e ∈ fields, e.2.isNumberless) : (ofFields fields).isNumberless :=
  fieldsNumberless_iff.mpr fun e he => h e (Table.mem_of_mem_toList_ofList he)

section Print

theorem toList_stringText (s : String) :
    (stringText s).toList = '"' :: (s.toList.flatMap (fun c => (escape c).toList) ++ ['"']) := by
  simp [stringText, String.toList_join, List.flatMap_map]

theorem toList_toText_arr (items : List Json) :
    (arr items).toText.toList = '[' :: (itemsText items).toList ++ [']'] := by
  simp [toText]

theorem toList_toText_obj (fields : Table Json) :
    (obj fields).toText.toList = '\x7b' :: (fieldsText fields).toList ++ ['\x7d'] := by
  simp [toText]

theorem toList_itemsText_cons (item next : Json) (items : List Json) :
    (itemsText (item :: next :: items)).toList =
      item.toText.toList ++ ',' :: (itemsText (next :: items)).toList := by
  simp [itemsText]

def moreFields {key : String} : Table.Entries Json (some key) → List Char
  | .nil => []
  | .cons key value above rest => ',' :: (fieldsText (.cons key value above rest)).toList

theorem toList_fieldsText_cons {floor : Option String} (key : String) (value : Json)
    (above : Table.Above floor key) (fields : Table.Entries Json (some key)) :
    (fieldsText (.cons key value above fields)).toList =
      '"' :: (key.toList.flatMap (fun c => (escape c).toList) ++
        '"' :: ':' :: (value.toText.toList ++ moreFields fields)) := by
  cases fields <;> simp [fieldsText, toList_stringText, moreFields]

open Outline

theorem toText_head {v : Json} (h : v.isNumberless) :
    ∃ c tail, v.toText.toList = c :: tail ∧ isBlank c = false ∧ c ≠ ']' := by
  cases v with
  | null => exact ⟨'n', _, rfl, by decide, by decide⟩
  | bool value => cases value <;> exact ⟨_, _, rfl, by decide, by decide⟩
  | num value => cases h
  | str value => exact ⟨'"', _, toList_stringText value, by decide, by decide⟩
  | arr items => exact ⟨'[', _, toList_toText_arr items, by decide, by decide⟩
  | obj fields => exact ⟨'\x7b', _, toList_toText_obj fields, by decide, by decide⟩

theorem itemsText_head {item : Json} (h : item.isNumberless) (items : List Json) :
    ∃ c tail, (itemsText (item :: items)).toList = c :: tail ∧ isBlank c = false ∧ c ≠ ']' := by
  obtain ⟨c, tail, htext, hc⟩ := toText_head h
  cases items with
  | nil => exact ⟨c, tail, htext, hc⟩
  | cons next items =>
    rw [toList_itemsText_cons, htext]
    exact ⟨c, _, rfl, hc⟩

end Print

namespace Outline

section Strings

theorem hexUnit?_digitChar : ∀ n < 0x20,
    hexUnit? '0' '0' (Nat.digitChar (n / 16)) (Nat.digitChar (n % 16)) = some n := by
  decide

theorem readString_plain {c : Char} (hquote : c ≠ '"') (hslash : c ≠ '\\')
    (hcontrol : ¬ c.toNat < 0x20) (s : Chars) (tail : List Char) :
    readString s (c :: tail) = readString (s.push c) tail := by
  have hplain : ¬ (c.toNat < 0x20 ∨ c = '\\') := not_or.mpr ⟨hcontrol, hslash⟩
  rw [readString, if_neg hplain]
  · exact hquote
  · rintro _ _ _ _ _ rfl
    exact absurd rfl hslash
  · rintro _ _ rfl
    exact absurd rfl hslash

theorem readString_escape (c : Char) (front tail : List Char) :
    readString ⟨front, none, true⟩ ((escape c).toList ++ tail) =
      readString ⟨c :: front, none, true⟩ tail := by
  unfold escape
  split <;> try simp [readString, simpleEscape?, Chars.push]
  next hquote hslash _ _ _ _ _ =>
    split
    · next hcontrol =>
      have hunit : (⟨front, none, true⟩ : Chars).pushUnit c.toNat = ⟨c :: front, none, true⟩ := by
        rw [Chars.pushUnit, if_neg (by omega), if_neg (by omega), Chars.push, Char.ofNat_toNat]
        rfl
      simp [readString, hexUnit?_digitChar c.toNat hcontrol, hunit]
    · next hcontrol =>
      rw [String.toList_singleton]
      exact readString_plain hquote hslash hcontrol _ _

theorem readString_escapes (cs front tail : List Char) :
    readString ⟨front, none, true⟩ (cs.flatMap (fun c => (escape c).toList) ++ '"' :: tail) =
      some (some (String.ofList (front.reverse ++ cs)), tail) := by
  induction cs generalizing front with
  | nil => simp [readString, Chars.text?]
  | cons c cs ih =>
    rw [List.flatMap_cons, List.append_assoc, readString_escape, ih, List.reverse_cons,
      List.append_assoc]
    rfl

theorem readString_stringText (s : String) (tail : List Char) :
    readString {} (s.toList.flatMap (fun c => (escape c).toList) ++ '"' :: tail) =
      some (some s, tail) := by
  rw [readString_escapes]
  simp

end Strings

section Step

variable {fuel : Nat} {cs tail tail' rest : List Char} {c : Char} {o : Outline} {os : List Outline}
  {key : Option String} {es : List Entry}

theorem skipBlanks_cons (h : isBlank c = false) (cs : List Char) :
    skipBlanks (c :: cs) = c :: cs := by
  rw [skipBlanks, List.dropWhile_cons, h]
  rfl

theorem readValue_arr (hblank : isBlank c = false) (hclose : c ≠ ']')
    (h : readItems fuel (c :: cs) = (os, some rest)) :
    readValue (fuel + 1) ('[' :: c :: cs) = (.arr os, some rest) := by
  rw [readValue, skipBlanks_cons rfl]
  simp only [skipBlanks_cons hblank]
  split
  · next heq =>
    cases heq
    exact absurd rfl hclose
  · rw [h]

theorem readItems_cons (hitem : readValue fuel cs = (o, some (',' :: tail)))
    (hitems : readItems fuel tail = (os, some rest)) :
    readItems (fuel + 1) cs = (o :: os, some rest) := by
  have hcomma : skipBlanks (',' :: tail) = ',' :: tail := skipBlanks_cons rfl tail
  simp only [readItems, hitem, hcomma, hitems]

theorem readItems_last (hitem : readValue fuel cs = (o, some (']' :: rest))) :
    readItems (fuel + 1) cs = ([o], some rest) := by
  have hclose : skipBlanks (']' :: rest) = ']' :: rest := skipBlanks_cons rfl rest
  simp only [readItems, hitem, hclose]

theorem readValue_obj (h : readEntries fuel ('"' :: cs) = (es, some rest)) :
    readValue (fuel + 1) ('\x7b' :: '"' :: cs) = (.obj es, some rest) := by
  have hquote : skipBlanks ('"' :: cs) = '"' :: cs := skipBlanks_cons rfl cs
  rw [readValue, skipBlanks_cons rfl]
  simp only [hquote]
  split
  · next heq => cases heq
  · rw [h]

theorem readEntries_cons (hkey : readString {} cs = some (key, ':' :: tail))
    (hvalue : readValue fuel tail = (o, some (',' :: tail')))
    (hentries : readEntries fuel tail' = (es, some rest)) :
    readEntries (fuel + 1) ('"' :: cs) = (.mk key o :: es, some rest) := by
  have hquote : skipBlanks ('"' :: cs) = '"' :: cs := skipBlanks_cons rfl cs
  have hcolon : skipBlanks (':' :: tail) = ':' :: tail := skipBlanks_cons rfl tail
  have hcomma : skipBlanks (',' :: tail') = ',' :: tail' := skipBlanks_cons rfl tail'
  simp only [readEntries, hquote, hkey, hcolon, hvalue, hcomma, hentries]

theorem readEntries_last (hkey : readString {} cs = some (key, ':' :: tail))
    (hvalue : readValue fuel tail = (o, some ('\x7d' :: rest))) :
    readEntries (fuel + 1) ('"' :: cs) = ([.mk key o], some rest) := by
  have hquote : skipBlanks ('"' :: cs) = '"' :: cs := skipBlanks_cons rfl cs
  have hcolon : skipBlanks (':' :: tail) = ':' :: tail := skipBlanks_cons rfl tail
  have hclose : skipBlanks ('\x7d' :: rest) = '\x7d' :: rest := skipBlanks_cons rfl rest
  simp only [readEntries, hquote, hkey, hcolon, hvalue, hclose]

end Step

structure ReadsBack (fuel : Nat) : Prop where
  value : ∀ v : Json, v.isNumberless → v.toText.toList.length ≤ fuel → ∀ rest,
    ∃ o, readValue fuel (v.toText.toList ++ rest) = (o, some rest) ∧ o.Says v
  items : ∀ item items, itemsNumberless (item :: items) →
    (itemsText (item :: items)).toList.length < fuel → ∀ rest,
    ∃ os, readItems fuel ((itemsText (item :: items)).toList ++ ']' :: rest) = (os, some rest) ∧
      List.Forall₂ Says os (item :: items)
  fields : ∀ {floor : Option String} (key value) (above : Table.Above floor key) (fields),
    fieldsNumberless (.cons key value above fields) →
    (fieldsText (.cons key value above fields)).toList.length < fuel → ∀ rest,
    ∃ es : List (String × Outline),
      readEntries fuel ((fieldsText (.cons key value above fields)).toList ++ '\x7d' :: rest) =
        (es.map fun e => .mk (some e.1) e.2, some rest) ∧
      List.Forall₂ (fun e e' => e.1 = e'.1 ∧ e.2.Says e'.2) es ((key, value) :: fields.toList)

theorem readsBack_zero : ReadsBack 0 where
  value := by
    intro v h hfuel
    -- every text has a first character, so none is short enough
    obtain ⟨c, tail, htext, -⟩ := toText_head h
    rw [htext] at hfuel
    cases hfuel
  items := nofun
  fields := nofun

theorem says_obj {es : List (String × Outline)} {fields : Table Json}
    (h : List.Forall₂ (fun e e' => e.1 = e'.1 ∧ e.2.Says e'.2) es fields.toList) :
    Says (.obj (es.map fun e => .mk (some e.1) e.2)) (.obj fields) := by
  have hkeys : es.map Prod.fst = fields.keys := by
    rw [← List.forall₂_eq_eq_eq, List.forall₂_map_left_iff, Table.Entries.keys,
      List.forall₂_map_right_iff]
    exact h.imp fun _ _ he => he.1
  -- a table has no key twice, and neither have the entries that say it
  refine .obj (hkeys ▸ fields.nodup_keys) fun key => ?_
  rw [← Table.ofList_toList fields]
  exact Table.rel_get?_ofList h key

section Succ

variable {fuel : Nat} (hback : ReadsBack fuel)

include hback

theorem readValue_succ (v : Json) (h : v.isNumberless)
    (hfuel : v.toText.toList.length ≤ fuel + 1) (rest : List Char) :
    ∃ o, readValue (fuel + 1) (v.toText.toList ++ rest) = (o, some rest) ∧ o.Says v := by
  cases v with
  | null =>
    refine ⟨_, ?_, .null⟩
    simp [toText, readValue, skipBlanks, isBlank, readScalar, dropWord?, readScalar.close]
  | bool value =>
    refine ⟨_, ?_, .bool value⟩
    cases value <;>
      simp [toText, readValue, skipBlanks, isBlank, readScalar, dropWord?, readScalar.close]
  | num value => cases h
  | str value =>
    refine ⟨_, ?_, .str value⟩
    simp [toText, toList_stringText, readValue, skipBlanks, isBlank, readScalar,
      readString_stringText, readScalar.close]
  | arr items =>
    cases items with
    | nil =>
      -- the closing bracket follows at once, so no item is read
      refine ⟨_, ?_, .arr .nil⟩
      simp [toText, itemsText, readValue, skipBlanks, isBlank]
    | cons item items =>
      rw [toList_toText_arr] at hfuel ⊢
      simp only [List.length_append, List.length_cons, List.length_nil] at hfuel
      obtain ⟨os, hitems, hsays⟩ := hback.items item items h (by omega) rest
      obtain ⟨c, tail, htext, hblank, hclose⟩ := itemsText_head (Bool.and_eq_true_iff.mp h).1 items
      rw [htext] at hitems
      rw [htext, List.append_assoc]
      exact ⟨_, readValue_arr hblank hclose hitems, .arr hsays⟩
  | obj fields =>
    cases fields with
    | nil =>
      have hnil : Says (.obj (([] : List (String × Outline)).map fun e => .mk (some e.1) e.2))
          (.obj .nil) := says_obj .nil
      refine ⟨_, ?_, hnil⟩
      simp [toText, fieldsText, readValue, skipBlanks, isBlank]
    | cons key value above fields =>
      rw [toList_toText_obj] at hfuel ⊢
      simp only [List.length_append, List.length_cons, List.length_nil] at hfuel
      obtain ⟨es, hfields, hsays⟩ := hback.fields key value above fields h (by omega) rest
      rw [toList_fieldsText_cons] at hfields ⊢
      rw [List.append_assoc]
      exact ⟨_, readValue_obj hfields, says_obj hsays⟩

theorem readItems_succ (item : Json) (items : List Json) (h : itemsNumberless (item :: items))
    (hfuel : (itemsText (item :: items)).toList.length < fuel + 1) (rest : List Char) :
    ∃ os, readItems (fuel + 1) ((itemsText (item :: items)).toList ++ ']' :: rest) =
      (os, some rest) ∧ List.Forall₂ Says os (item :: items) := by
  obtain ⟨hitem, hitems⟩ := Bool.and_eq_true_iff.mp h
  cases items with
  | nil =>
    obtain ⟨o, hvalue, hsays⟩ := hback.value item hitem (Nat.le_of_lt_succ hfuel) (']' :: rest)
    exact ⟨[o], readItems_last hvalue, .cons hsays .nil⟩
  | cons next items =>
    rw [toList_itemsText_cons] at hfuel ⊢
    rw [List.length_append, List.length_cons] at hfuel
    rw [List.append_assoc]
    obtain ⟨o, hvalue, hsays⟩ := hback.value item hitem (by omega)
      (',' :: ((itemsText (next :: items)).toList ++ ']' :: rest))
    obtain ⟨os, hnext, hall⟩ := hback.items next items hitems (by omega) rest
    exact ⟨o :: os, readItems_cons hvalue hnext, .cons hsays hall⟩

theorem readEntries_succ {floor : Option String} (key : String) (value : Json)
    (above : Table.Above floor key) (fields : Table.Entries Json (some key))
    (h : fieldsNumberless (.cons key value above fields))
    (hfuel : (fieldsText (.cons key value above fields)).toList.length < fuel + 1)
    (rest : List Char) : ∃ es : List (String × Outline),
      readEntries (fuel + 1)
          ((fieldsText (.cons key value above fields)).toList ++ '\x7d' :: rest) =
        (es.map fun e => .mk (some e.1) e.2, some rest) ∧
      List.Forall₂ (fun e e' => e.1 = e'.1 ∧ e.2.Says e'.2) es ((key, value) :: fields.toList) := by
  obtain ⟨hvalue, hfields⟩ := Bool.and_eq_true_iff.mp h
  have hkey (tail : List Char) := readString_stringText key (':' :: tail)
  rw [toList_fieldsText_cons] at hfuel ⊢
  simp only [List.length_cons, List.length_append] at hfuel
  cases fields with
  | nil =>
    obtain ⟨o, hread, hsays⟩ := hback.value value hvalue (by omega) ('\x7d' :: rest)
    simp only [moreFields, List.append_nil, List.cons_append, List.append_assoc]
    exact ⟨[(key, o)], readEntries_last (hkey _) hread, .cons ⟨rfl, hsays⟩ .nil⟩
  | cons next value' above' fields =>
    rw [moreFields, List.length_cons] at hfuel
    simp only [moreFields, List.cons_append, List.append_assoc]
    obtain ⟨o, hread, hsays⟩ := hback.value value hvalue (by omega)
      (',' :: ((fieldsText (.cons next value' above' fields)).toList ++ '\x7d' :: rest))
    obtain ⟨es, hnext, hall⟩ := hback.fields next value' above' fields hfields (by omega) rest
    exact ⟨(key, o) :: es, readEntries_cons (hkey _) hread hnext, .cons ⟨rfl, hsays⟩ hall⟩

end Succ

theorem readsBack (fuel : Nat) : ReadsBack fuel := by
  -- every part of a value is read with one unit less than the value
  induction fuel with
  | zero => exact readsBack_zero
  | succ fuel ih => exact ⟨readValue_succ ih, readItems_succ ih, readEntries_succ ih⟩

end Outline

theorem saidBy_toText {v : Json} (h : v.isNumberless) : v.SaidBy v.toText := by
  obtain ⟨o, hread, hsays⟩ :=
    (Outline.readsBack (2 * v.toText.toList.length + 2)).value v h (by omega) []
  refine ⟨o, ?_, hsays⟩
  rw [List.append_nil] at hread
  rw [Outline.ofText, hread]
  rfl

theorem Outline.holds_source : Outline.source.Holds Says where
  string := by
    rintro _ _ ⟨⟩
    rfl
  present? := by
    rintro _ _ ⟨⟩
    rfl
  items := by
    rintro _ values ⟨⟩
    exact ⟨_, rfl, ‹_›⟩
  fields := by
    rintro record _ fields ⟨⟩
    rename_i entries apart parts
    refine ⟨entries, ?_, apart, parts⟩
    simp [source, List.map_map, Function.comp_def]

theorem readText_eq_ok_iff {α : Type} {read : Outline → Except Record.Fault α} {text : String}
    {a : α} : readText read text = .ok a ↔
      ∃ outline, Outline.ofText text.toList = (outline, true) ∧ read outline = .ok a := by
  rw [readText]
  obtain ⟨outline, ends⟩ := Outline.ofText text.toList
  cases ends <;> simp

end ActionSchema.Json
