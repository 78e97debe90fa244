import ActionSchema.Action
import ActionSchema.Proofs.RecordFields

/-! Actions as JSON objects. Reading one comes to the two lookups by which an object is taken apart;
whatever stands under other keys is passed over. An action also reads from an array that has its
type, and its payload if there is one, in that order. -/

namespace ActionSchema

def Json.Untyped (value : Json) : Prop :=
  (¬ ∃ fields type, value = .obj fields ∧ fields.get? "type" = some (.str type)) ∨
    ∃ fields, value = .obj fields ∧ fields.get? "type" = some (.str "")

theorem Json.Untyped.unformat_type {value : Json} (h : value.Untyped) :
    (Format.json.unformat value).type = "" := by
  change ((value.get? "type").bind Json.str?).getD "" = ""
  rcases h with hnot | ⟨fields, rfl, htype⟩
  · cases hstr : (value.get? "type").bind Json.str? with
    | none => rfl
    | some type =>
      obtain ⟨field, hfield, hstr⟩ := Option.bind_eq_some_iff.mp hstr
      cases value with
      | obj fields =>
        cases field with
        | str _ => exact absurd ⟨fields, _, rfl, hfield⟩ hnot
        | _ => cases hstr
      | _ => cases hfield
  · rw [Json.get?, htype]
    rfl

namespace Action

open Record

theorem independent_draft : (draft Json.source).Independent where
  distinct := by
    show ["type", "payload"].Nodup
    decide
  swap := by
    intro f hf g hg hne d v w
    simp only [draft, List.mem_cons, List.not_mem_nil, or_false] at hf hg
    rcases hf with rfl | rfl <;> rcases hg with rfl | rfl <;> first
      | exact absurd rfl hne
      | exact toOption_bind_comm (fun _ => rfl) (fun _ => rfl) (fun _ _ => rfl)
  once := by
    intro f hf d v w
    simp only [draft, List.mem_cons, List.not_mem_nil, or_false] at hf
    rcases hf with rfl | rfl <;> exact toOption_once_twice fun _ => rfl

theorem ofFields_draft (slot : String → Option Json) :
    (draft Json.source).ofFields slot = do
      return ⟨← readField Json.source.string (slot "type"), slot "payload"⟩ := by
  have htype : (draft Json.source).takeField slot {} "type" =
      readField Json.source.string (slot "type") >>= fun type => pure { type } :=
    Record.Draft.takeField_eq (fun _ => rfl) rfl
  have hpayload (type : Option String) :
      (draft Json.source).takeField slot { type } "payload" = pure ⟨type, slot "payload"⟩ := by
    unfold Record.Draft.takeField
    cases slot "payload" <;> rfl
  show List.foldlM ((draft Json.source).takeField slot) {} ["type", "payload"] = _
  simp only [List.foldlM_cons, List.foldlM_nil, htype, hpayload, bind_assoc, pure_bind]

variable {fields : Table Json} {items : List Json} {a : Action}

theorem readField_string_eq_ok_iff {slot : Option Json} {text : String} :
    readField Json.source.string slot = .ok (some text) ↔ slot = some (.str text) := by
  cases slot with
  | none => exact ⟨nofun, nofun⟩
  | some value => cases value <;> simp [readField, Json.source, Except.map]

structure Draft.Makes (d : Draft) (a : Action) : Prop where
  type : d.type = some a.type
  payload : d.payload = a.payload

theorem ofJson_obj_eq_ok_iff : ofJson (.obj fields) = .ok a ↔
    fields.get? "type" = some (.str a.type) ∧ fields.get? "payload" = a.payload := by
  have hfinish (d : Draft) (missing : String → Fault) :
      (do return ⟨← require missing "type" d.type, d.payload⟩ : Except Fault Action) = .ok a ↔
        d.Makes a := by
    simp only [bind_eq_ok_iff, require_eq_ok_iff, pure_eq_ok_iff]
    constructor
    · rintro ⟨type, htype, rfl⟩
      exact ⟨htype, rfl⟩
    · rintro ⟨htype, hpayload⟩
      exact ⟨a.type, htype, by rw [hpayload]⟩
  refine (Record.Draft.fill_bind_eq_ok_iff independent_draft hfinish).trans ?_
  rw [← readField_string_eq_ok_iff]
  constructor
  · rintro ⟨slot, hpresents, d, hd, hmakes⟩
    obtain ⟨-, hslot⟩ := presents_obj_iff.mp hpresents
    rw [ofFields_draft, hslot "type" (by simp [draft]), hslot "payload" (by simp [draft])] at hd
    obtain ⟨type, hstring, ⟨⟩⟩ := bind_eq_ok_iff.mp hd
    obtain rfl : type = some a.type := hmakes.type
    exact ⟨hstring, hmakes.payload⟩
  · rintro ⟨hstring, hpayload⟩
    -- other keys are passed over, so every object presents its own lookups
    have hopen : (draft Json.source).closed = false := rfl
    have hpresents : (draft Json.source).Presents Json.source (.obj fields) fields.get? := by
      apply presents_obj_iff.mpr
      simp [hopen]
    refine ⟨fields.get?, hpresents, ⟨some a.type, fields.get? "payload"⟩, ?_, rfl, hpayload⟩
    rw [ofFields_draft, hstring]
    rfl

theorem unformat_of_ofJson (h : ofJson (.obj fields) = .ok a) :
    Format.json.unformat (.obj fields) = a := by
  obtain ⟨htype, hpayload⟩ := ofJson_obj_eq_ok_iff.mp h
  simp only [Format.json, Json.get?, htype, hpayload, Option.bind_some, Json.str?,
    Option.getD_some]

theorem unformat_type_of_ofJson_error {fault : Fault} (h : ofJson (.obj fields) = .error fault) :
    (Format.json.unformat (.obj fields)).type = "" := by
  apply Json.Untyped.unformat_type
  left
  rintro ⟨_, type, ⟨⟩, htype⟩
  have hok : ofJson (.obj fields) = .ok ⟨type, fields.get? "payload"⟩ :=
    ofJson_obj_eq_ok_iff.mpr ⟨htype, rfl⟩
  rw [hok] at h
  cases h

theorem toJson_eq_format (a : Action) : a.toJson = Format.json.format a := by
  obtain ⟨type, payload⟩ := a
  cases payload <;> simp only [toJson, Format.json, Json.ofFields, Table.ofList, List.foldl]

theorem get?_toJson (a : Action) : ∃ own : Table Json, a.toJson = .obj own ∧ ∀ key, own.get? key =
    if key = "type" then some (.str a.type) else if key = "payload" then a.payload else none := by
  obtain ⟨type, payload⟩ := a
  refine ⟨_, rfl, fun key => ?_⟩
  simp only [eq_comm (a := key)]
  by_cases htype : "type" = key
  · subst htype
    cases payload <;> simp [Table.ofList]
  · cases payload <;> simp [Table.ofList, htype]

theorem toJson_eq_restrict_iff : a.toJson = .obj (fields.restrict ["type", "payload"]) ↔
    fields.get? "type" = some (.str a.type) ∧ fields.get? "payload" = a.payload := by
  obtain ⟨own, hown, hget⟩ := get?_toJson a
  rw [hown, Json.obj.injEq]
  constructor
  · rintro rfl
    have htype := hget "type"
    have hpayload := hget "payload"
    simp only [Table.get?_restrict] at htype hpayload
    exact ⟨by simpa using htype, by simpa using hpayload⟩
  · rintro ⟨htype, hpayload⟩
    apply Table.Entries.ext
    intro key
    rw [hget, Table.get?_restrict]
    by_cases hkey : key = "type"
    · subst hkey
      simp [htype]
    · by_cases hkey' : key = "payload"
      · subst hkey'
        simp [hpayload]
      · simp [hkey, hkey']

theorem ofJson_toJson (a : Action) : ofJson a.toJson = .ok a := by
  obtain ⟨own, hown, hget⟩ := get?_toJson a
  rw [hown, ofJson_obj_eq_ok_iff, hget, hget]
  exact ⟨rfl, rfl⟩

theorem length_le_of_ofJson (h : ofJson (.arr items) = .ok a) : items.length ≤ 2 := by
  obtain ⟨⟨d, missing⟩, hfill, -⟩ := bind_eq_ok_iff.mp h
  exact ((Record.Draft.fill_inOrder rfl).mp ⟨missing, hfill⟩).2

theorem ofJson_arr_eq_ok_iff : ofJson (.arr items) = .ok a ↔
    items = .str a.type :: a.payload.toList := by
  constructor
  · intro h
    have hlength := length_le_of_ofJson h
    match items with
    | [] => cases h
    | [first] =>
      cases first with
      | str _ =>
        cases h
        rfl
      | _ => cases h
    | [first, payload] =>
      cases first with
      | str _ =>
        cases h
        rfl
      | _ => cases h
    | _ :: _ :: _ :: _ => simp at hlength
  · obtain ⟨type, payload⟩ := a
    rintro rfl
    cases payload <;> rfl

/-- Writing and reading an action undo each other, up to the entries that no action has. -/
theorem json_form_is_faithful :
    (∀ a : Action, ofJson a.toJson = .ok a ∧
      a.toJson.get? "type" = some (.str a.type) ∧ a.toJson.get? "payload" = a.payload) ∧
    (∀ (fields : Table Json) (a : Action),
      ofJson (.obj fields) = .ok a ↔ a.toJson = .obj (fields.restrict ["type", "payload"])) ∧
    (∀ fields : Table Json,
      (∃ a, ofJson (.obj fields) = .ok a) ↔ ∃ type, fields.get? "type" = some (.str type)) ∧
    (∀ type, ofJson (.arr [.str type]) = .ok ⟨type, none⟩ ∧
      ofJson (.ofFields [("type", .str type)]) = .ok ⟨type, none⟩) ∧
    (∀ type payload, ofJson (.arr [.str type, payload]) = .ok ⟨type, some payload⟩ ∧
      ofJson (.ofFields [("type", .str type), ("payload", payload)]) =
        .ok ⟨type, some payload⟩) ∧
    ∀ items, (∃ a, ofJson (.arr items) = .ok a) ↔
      ∃ type rest, items = .str type :: rest ∧ rest.length ≤ 1 := by
  refine ⟨fun a => ⟨ofJson_toJson a, ?_⟩, fun fields a => ?_, fun fields => ?_,
    fun type => ⟨rfl, ofJson_toJson ⟨type, none⟩⟩,
    fun type payload => ⟨rfl, ofJson_toJson ⟨type, some payload⟩⟩, fun items => ?_⟩
  · obtain ⟨own, hown, hget⟩ := get?_toJson a
    rw [hown, Json.get?, Json.get?, hget, hget]
    exact ⟨rfl, rfl⟩
  · rw [ofJson_obj_eq_ok_iff, toJson_eq_restrict_iff]
  · simp only [ofJson_obj_eq_ok_iff]
    constructor
    · rintro ⟨a, htype, -⟩
      exact ⟨a.type, htype⟩
    · rintro ⟨type, htype⟩
      exact ⟨⟨type, fields.get? "payload"⟩, htype, rfl⟩
  · simp only [ofJson_arr_eq_ok_iff]
    constructor
    · rintro ⟨a, rfl⟩
      exact ⟨a.type, a.payload.toList, rfl, Option.length_toList_le⟩
    · rintro ⟨type, rest, rfl, hrest⟩
      cases rest with
      | nil => exact ⟨⟨type, none⟩, rfl⟩
      | cons payload rest =>
        obtain rfl : rest = [] := by simpa using hrest
        exact ⟨⟨type, some payload⟩, rfl⟩

end Action

end ActionSchema
