/-! Finite maps from strings. A table keeps its keys in increasing order, and the order is part of
its type, so two tables that answer every lookup alike are equal (`Table.ext`). -/

namespace ActionSchema

namespace Table

def Above : Option String → String → Prop
  | none, _ => True
  | some floor, key => floor < key

/-- Entries in increasing order of their keys, all of them above `floor`. -/
inductive Entries (α : Type) : Option String → Type
  | nil {floor : Option String} : Entries α floor
  | cons {floor : Option String} (key : String) (value : α) (above : Above floor key)
      (rest : Entries α (some key)) : Entries α floor

end Table

abbrev Table (α : Type) := Table.Entries α none

namespace Table

theorem above_trans {floor : Option String} {k l : String} (h : Above floor k) (hkl : k < l) :
    Above floor l := by
  cases floor with
  | none => trivial
  | some f => exact String.lt_trans h hkl

theorem not_above_self (key : String) : ¬ Above (some key) key := String.lt_irrefl key

theorem key_eq_of_not_lt {k l : String} (h : ¬ k < l) (h' : ¬ l < k) : k = l :=
  String.le_antisymm (String.not_lt.mp h') (String.not_lt.mp h)

namespace Entries

variable {α β : Type} {floor : Option String}

def toList {floor : Option String} : Entries α floor → List (String × α)
  | nil => []
  | cons key value _ rest => (key, value) :: rest.toList

def keys (t : Entries α floor) : List String := t.toList.map Prod.fst

def values (t : Entries α floor) : List α := t.toList.map Prod.snd

def size (t : Entries α floor) : Nat := t.toList.length

def isEmpty (t : Entries α floor) : Bool := t.toList.isEmpty

def get? {floor : Option String} : Entries α floor → String → Option α
  | nil, _ => none
  | cons k value _ rest, key => if k = key then some value else rest.get? key

def contains (t : Entries α floor) (key : String) : Bool := (t.get? key).isSome

def put {floor : Option String} (key : String) (value : α) (h : Above floor key) :
    Entries α floor → Entries α floor
  | nil => cons key value h nil
  | cons k v hk rest =>
    if lt : key < k then cons key value h (cons k v lt rest)
    else if gt : k < key then cons k v hk (rest.put key value gt)
    else cons k value hk rest

def map (f : α → β) {floor : Option String} : Entries α floor → Entries β floor
  | nil => nil
  | cons key value above rest => cons key (f value) above (rest.map f)

theorem above_of_get? {floor : Option String} {t : Entries α floor} {key : String} {v : α}
    (h : t.get? key = some v) : Above floor key := by
  induction t with
  | nil => simp [get?] at h
  | cons k w above rest ih =>
    rw [get?] at h
    split at h
    · next e => exact e ▸ above
    · exact above_trans above (ih h)

theorem get?_eq_none_of_not_above {floor : Option String} {t : Entries α floor} {key : String}
    (h : ¬ Above floor key) : t.get? key = none := by
  cases e : t.get? key with
  | none => rfl
  | some v => exact absurd (above_of_get? e) h

@[simp] theorem get?_put {floor : Option String} (t : Entries α floor) (key : String) (value : α)
    (h : Above floor key) (x : String) :
    (t.put key value h).get? x = if key = x then some value else t.get? x := by
  induction t with
  | nil => simp [put, get?]
  | cons k v hk rest ih =>
    rw [put]
    split
    · simp [get?]
    · split
      · next lt gt =>
        have hne : k ≠ key := fun e => String.lt_irrefl k (e ▸ gt)
        by_cases hx : k = x
        · subst hx; simp [get?, hne.symm]
        · simpa [get?, hx] using ih gt
      · next lt gt =>
        obtain rfl := key_eq_of_not_lt lt gt
        by_cases hx : key = x <;> simp [get?, hx]

theorem get?_eq_some_iff_mem {floor : Option String} {t : Entries α floor} {key : String} {v : α} :
    t.get? key = some v ↔ (key, v) ∈ t.toList := by
  induction t with
  | nil => simp [get?, toList]
  | cons k w above rest ih =>
    by_cases hk : k = key
    · subst hk
      have hrest : rest.get? k = none := get?_eq_none_of_not_above (not_above_self k)
      have hmem : (k, v) ∉ rest.toList := fun m => by simp [ih.mpr m] at hrest
      simp [get?, toList, hmem, eq_comm]
    · simp [get?, toList, hk, Ne.symm hk, ih]

theorem ext {floor : Option String} {s t : Entries α floor}
    (h : ∀ key, s.get? key = t.get? key) : s = t := by
  induction s with
  | nil =>
    cases t with
    | nil => rfl
    | cons k v above rest => simpa [get?] using h k
  | cons k v above rest ih =>
    cases t with
    | nil => simpa [get?] using h k
    | cons l w above' rest' =>
      -- the lesser of two first keys would be missing from the other table
      have hkl : ¬ k < l := fun lt => by
        have hne : l ≠ k := fun e => String.lt_irrefl l (e ▸ lt)
        have hnone : rest'.get? k = none :=
          get?_eq_none_of_not_above fun gt => String.lt_irrefl k (String.lt_trans lt gt)
        simpa [get?, hne, hnone] using h k
      have hlk : ¬ l < k := fun lt => by
        have hne : k ≠ l := fun e => String.lt_irrefl k (e ▸ lt)
        have hnone : rest.get? l = none :=
          get?_eq_none_of_not_above fun gt => String.lt_irrefl l (String.lt_trans lt gt)
        simpa [get?, hne, hnone] using h l
      obtain rfl := key_eq_of_not_lt hkl hlk
      have hv : v = w := by simpa [get?] using h k
      have hrest : rest = rest' := ih fun x => by
        by_cases hx : k = x
        · subst hx
          rw [get?_eq_none_of_not_above (not_above_self k),
            get?_eq_none_of_not_above (not_above_self k)]
        · simpa [get?, hx] using h x
      rw [hv, hrest]

end Entries

variable {α : Type}

def empty : Table α := .nil

def insert (t : Table α) (key : String) (value : α) : Table α := t.put key value trivial

/-- Later entries win. -/
def ofList (entries : List (String × α)) : Table α :=
  entries.foldl (fun t e => t.insert e.1 e.2) empty

@[simp] theorem get?_empty (key : String) : (empty : Table α).get? key = none := rfl

@[simp] theorem get?_insert (t : Table α) (key : String) (value : α) (x : String) :
    (t.insert key value).get? x = if key = x then some value else t.get? x :=
  Entries.get?_put t key value trivial x

end Table

end ActionSchema
