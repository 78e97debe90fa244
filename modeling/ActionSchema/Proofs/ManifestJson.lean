import ActionSchema.Manifest.Compile
import ActionSchema.Proofs.JsonText

/-! Manifests in JSON. A value is read as a manifest exactly if it shows that manifest, and a
manifest shows in the value it is written to. -/

namespace ActionSchema

open Record

section Read

variable {ν : Type} (src : Source ν)

namespace ArgEntry

structure Fields (entry : ArgEntry) (slot : String → Option ν) : Prop where
  id : Required (src.string · = .ok ·) (slot "id") entry.id
  doc : Defaulted src.ShowsOptional none (slot "doc") entry.doc
  predicate : Required (src.string · = .ok ·) (slot "type") entry.predicate

def Shows (value : ν) (entry : ArgEntry) : Prop :=
  ∃ slot, (draft src).Presents src value slot ∧ entry.Fields src slot

structure Draft.Makes (d : Draft) (entry : ArgEntry) : Prop where
  id : d.id = some entry.id
  doc : d.doc.getD none = entry.doc
  predicate : d.predicate = some entry.predicate

theorem independent_draft : (draft src).Independent where
  distinct := by
    show ["id", "doc", "type"].Nodup
    decide
  swap := by
    intro f hf g hg hne d v w
    simp only [draft, List.mem_cons, List.not_mem_nil, or_false] at hf hg
    rcases hf with rfl | rfl | rfl <;> rcases hg with rfl | rfl | rfl <;> first
      | exact absurd rfl hne
      | exact toOption_bind_comm (fun _ => rfl) (fun _ => rfl) (fun _ _ => rfl)
  once := by
    intro f hf d v w
    simp only [draft, List.mem_cons, List.not_mem_nil, or_false] at hf
    rcases hf with rfl | rfl | rfl <;> exact toOption_once_twice fun _ => rfl

theorem ofFields_draft (slot : String → Option ν) :
    (draft src).ofFields slot = do
      let id ← readField src.string (slot "id")
      let doc ← readField (readOptional src) (slot "doc")
      let predicate ← readField src.string (slot "type")
      return ⟨id, doc, predicate⟩ := by
  have hid : (draft src).takeField slot {} "id" =
      readField src.string (slot "id") >>= fun id => pure { id } :=
    Record.Draft.takeField_eq (fun _ => rfl) rfl
  have hdoc (id : Option String) : (draft src).takeField slot { id } "doc" =
      readField (readOptional src) (slot "doc") >>= fun doc => pure { id, doc } :=
    Record.Draft.takeField_eq (fun _ => rfl) rfl
  have hpredicate (id : Option String) (doc : Option (Option String)) :
      (draft src).takeField slot { id, doc } "type" =
        readField src.string (slot "type") >>= fun predicate => pure { id, doc, predicate } :=
    Record.Draft.takeField_eq (fun _ => rfl) rfl
  show List.foldlM ((draft src).takeField slot) {} ["id", "doc", "type"] = _
  simp only [List.foldlM_cons, List.foldlM_nil, hid, hdoc, hpredicate, bind_assoc, pure_bind]

theorem exists_makes_iff {entry : ArgEntry} {slot : String → Option ν} :
    (∃ d, (draft src).ofFields slot = .ok d ∧ d.Makes entry) ↔ entry.Fields src slot := by
  simp only [ofFields_draft, bind_eq_ok_iff, pure_eq_ok_iff]
  constructor
  · rintro ⟨_, ⟨id, hid, doc, hdoc, predicate, hpredicate, rfl⟩, hmakes⟩
    exact ⟨readField_string_iff.mp ⟨id, hid, hmakes.id⟩,
      readField_optional_iff.mp ⟨doc, hdoc, hmakes.doc⟩,
      readField_string_iff.mp ⟨predicate, hpredicate, hmakes.predicate⟩⟩
  · rintro ⟨hid, hdoc, hpredicate⟩
    obtain ⟨id, hid, hid'⟩ := readField_string_iff.mpr hid
    obtain ⟨doc, hdoc, hdoc'⟩ := readField_optional_iff.mpr hdoc
    obtain ⟨predicate, hpredicate, hpredicate'⟩ := readField_string_iff.mpr hpredicate
    exact ⟨_, ⟨id, hid, doc, hdoc, predicate, hpredicate, rfl⟩, hid', hdoc', hpredicate'⟩

theorem read_eq_ok_iff {value : ν} {entry : ArgEntry} :
    read src value = .ok entry ↔ Shows src value entry := by
  refine (Record.Draft.fill_bind_eq_ok_iff (independent_draft src) ?_).trans
    (exists_congr fun slot => and_congr_right fun _ => exists_makes_iff src)
  intro d missing
  simp only [bind_eq_ok_iff, require_eq_ok_iff, pure_eq_ok_iff]
  constructor
  · rintro ⟨id, hid, predicate, hpredicate, rfl⟩
    exact ⟨hid, rfl, hpredicate⟩
  · rintro ⟨hid, hdoc, hpredicate⟩
    refine ⟨_, hid, _, hpredicate, ?_⟩
    rw [hdoc]

end ArgEntry

namespace ActionEntry

structure Fields (entry : ActionEntry) (slot : String → Option ν) : Prop where
  type : Required (src.string · = .ok ·) (slot "type") entry.type
  doc : Defaulted src.ShowsOptional none (slot "doc") entry.doc
  payload : Defaulted src.ShowsOptional none (slot "payload") entry.payload
  args : Defaulted (src.ShowsList (ArgEntry.Shows src)) [] (slot "args") entry.args

def Shows (value : ν) (entry : ActionEntry) : Prop :=
  ∃ slot, (draft src).Presents src value slot ∧ entry.Fields src slot

structure Draft.Makes (d : Draft) (entry : ActionEntry) : Prop where
  type : d.type = some entry.type
  doc : d.doc.getD none = entry.doc
  payload : d.payload.getD none = entry.payload
  args : d.args.getD [] = entry.args

theorem independent_draft : (draft src).Independent where
  distinct := by
    show ["type", "doc", "payload", "args"].Nodup
    decide
  swap := by
    intro f hf g hg hne d v w
    simp only [draft, List.mem_cons, List.not_mem_nil, or_false] at hf hg
    rcases hf with rfl | rfl | rfl | rfl <;> rcases hg with rfl | rfl | rfl | rfl <;> first
      | exact absurd rfl hne
      | exact toOption_bind_comm (fun _ => rfl) (fun _ => rfl) (fun _ _ => rfl)
  once := by
    intro f hf d v w
    simp only [draft, List.mem_cons, List.not_mem_nil, or_false] at hf
    rcases hf with rfl | rfl | rfl | rfl <;> exact toOption_once_twice fun _ => rfl

theorem ofFields_draft (slot : String → Option ν) :
    (draft src).ofFields slot = do
      let type ← readField src.string (slot "type")
      let doc ← readField (readOptional src) (slot "doc")
      let payload ← readField (readOptional src) (slot "payload")
      let args ← readField (readList src (ArgEntry.read src)) (slot "args")
      return ⟨type, doc, payload, args⟩ := by
  have htype : (draft src).takeField slot {} "type" =
      readField src.string (slot "type") >>= fun type => pure { type } :=
    Record.Draft.takeField_eq (fun _ => rfl) rfl
  have hdoc (type : Option String) : (draft src).takeField slot { type } "doc" =
      readField (readOptional src) (slot "doc") >>= fun doc => pure { type, doc } :=
    Record.Draft.takeField_eq (fun _ => rfl) rfl
  have hpayload (type : Option String) (doc : Option (Option String)) :
      (draft src).takeField slot { type, doc } "payload" =
        readField (readOptional src) (slot "payload") >>= fun payload =>
          pure { type, doc, payload } :=
    Record.Draft.takeField_eq (fun _ => rfl) rfl
  have hargs (type : Option String) (doc payload : Option (Option String)) :
      (draft src).takeField slot { type, doc, payload } "args" =
        readField (readList src (ArgEntry.read src)) (slot "args") >>= fun args =>
          pure { type, doc, payload, args } :=
    Record.Draft.takeField_eq (fun _ => rfl) rfl
  show List.foldlM ((draft src).takeField slot) {} ["type", "doc", "payload", "args"] = _
  simp only [List.foldlM_cons, List.foldlM_nil, htype, hdoc, hpayload, hargs, bind_assoc,
    pure_bind]

theorem exists_makes_iff {entry : ActionEntry} {slot : String → Option ν} :
    (∃ d, (draft src).ofFields slot = .ok d ∧ d.Makes entry) ↔ entry.Fields src slot := by
  have hread (value : ν) : readList src (ArgEntry.read src) value = .ok entry.args ↔
      src.ShowsList (ArgEntry.Shows src) value entry.args :=
    readList_eq_ok_iff fun _ _ => ArgEntry.read_eq_ok_iff src
  simp only [ofFields_draft, bind_eq_ok_iff, pure_eq_ok_iff]
  constructor
  · rintro ⟨_, ⟨type, htype, doc, hdoc, payload, hpayload, args, hargs, rfl⟩, hmakes⟩
    exact ⟨readField_string_iff.mp ⟨type, htype, hmakes.type⟩,
      readField_optional_iff.mp ⟨doc, hdoc, hmakes.doc⟩,
      readField_optional_iff.mp ⟨payload, hpayload, hmakes.payload⟩,
      readField_defaulted_iff hread |>.mp ⟨args, hargs, hmakes.args⟩⟩
  · rintro ⟨htype, hdoc, hpayload, hargs⟩
    obtain ⟨type, htype, htype'⟩ := readField_string_iff.mpr htype
    obtain ⟨doc, hdoc, hdoc'⟩ := readField_optional_iff.mpr hdoc
    obtain ⟨payload, hpayload, hpayload'⟩ := readField_optional_iff.mpr hpayload
    obtain ⟨args, hargs, hargs'⟩ := (readField_defaulted_iff hread).mpr hargs
    exact ⟨_, ⟨type, htype, doc, hdoc, payload, hpayload, args, hargs, rfl⟩, htype', hdoc',
      hpayload', hargs'⟩

theorem read_eq_ok_iff {value : ν} {entry : ActionEntry} :
    read src value = .ok entry ↔ Shows src value entry := by
  refine (Record.Draft.fill_bind_eq_ok_iff (independent_draft src) ?_).trans
    (exists_congr fun slot => and_congr_right fun _ => exists_makes_iff src)
  intro d missing
  simp only [bind_eq_ok_iff, require_eq_ok_iff, pure_eq_ok_iff]
  constructor
  · rintro ⟨type, htype, rfl⟩
    exact ⟨htype, rfl, rfl, rfl⟩
  · rintro ⟨htype, hdoc, hpayload, hargs⟩
    refine ⟨_, htype, ?_⟩
    rw [hdoc, hpayload, hargs]

end ActionEntry

namespace Manifest

structure Fields (m : Manifest) (slot : String → Option ν) : Prop where
  ns : Defaulted (fun value ns => src.string value = .ok ns.name) Namespace.none
    (slot "namespace") m.ns
  actions : Defaulted (src.ShowsList (ActionEntry.Shows src)) [] (slot "actions") m.actions

def Shows (value : ν) (m : Manifest) : Prop :=
  ∃ slot, (draft src).Presents src value slot ∧ m.Fields src slot

structure Draft.Makes (d : Draft) (m : Manifest) : Prop where
  ns : d.ns.getD Namespace.none = m.ns
  actions : d.actions.getD [] = m.actions

theorem independent_draft : (draft src).Independent where
  distinct := by
    show ["namespace", "actions"].Nodup
    decide
  swap := by
    intro f hf g hg hne d v w
    simp only [draft, List.mem_cons, List.not_mem_nil, or_false] at hf hg
    rcases hf with rfl | rfl <;> rcases hg with rfl | rfl <;> first
      | exact absurd rfl hne
      | exact toOption_bind_comm (fun _ => rfl) (fun _ => rfl) (fun _ _ => rfl)
  once := by
    intro f hf d v w
    simp only [draft, List.mem_cons, List.not_mem_nil, or_false] at hf
    rcases hf with rfl | rfl <;> exact toOption_once_twice fun _ => rfl

theorem ofFields_draft (slot : String → Option ν) :
    (draft src).ofFields slot = do
      let ns ← readField (readNamespace src) (slot "namespace")
      let actions ← readField (readList src (ActionEntry.read src)) (slot "actions")
      return ⟨ns, actions⟩ := by
  have hns : (draft src).takeField slot {} "namespace" =
      readField (readNamespace src) (slot "namespace") >>= fun ns => pure { ns } :=
    Record.Draft.takeField_eq (fun _ => rfl) rfl
  have hactions (ns : Option Namespace) : (draft src).takeField slot { ns } "actions" =
      readField (readList src (ActionEntry.read src)) (slot "actions") >>= fun actions =>
        pure { ns, actions } :=
    Record.Draft.takeField_eq (fun _ => rfl) rfl
  show List.foldlM ((draft src).takeField slot) {} ["namespace", "actions"] = _
  simp only [List.foldlM_cons, List.foldlM_nil, hns, hactions, bind_assoc, pure_bind]

theorem exists_makes_iff {m : Manifest} {slot : String → Option ν} :
    (∃ d, (draft src).ofFields slot = .ok d ∧ d.Makes m) ↔ m.Fields src slot := by
  have hread (value : ν) : readList src (ActionEntry.read src) value = .ok m.actions ↔
      src.ShowsList (ActionEntry.Shows src) value m.actions :=
    readList_eq_ok_iff fun _ _ => ActionEntry.read_eq_ok_iff src
  simp only [ofFields_draft, bind_eq_ok_iff, pure_eq_ok_iff]
  constructor
  · rintro ⟨_, ⟨ns, hns, actions, hactions, rfl⟩, hmakes⟩
    exact ⟨readField_defaulted_iff (fun _ => readNamespace_eq_ok_iff) |>.mp ⟨ns, hns, hmakes.ns⟩,
      readField_defaulted_iff hread |>.mp ⟨actions, hactions, hmakes.actions⟩⟩
  · rintro ⟨hns, hactions⟩
    obtain ⟨ns, hns, hns'⟩ := (readField_defaulted_iff fun _ => readNamespace_eq_ok_iff).mpr hns
    obtain ⟨actions, hactions, hactions'⟩ := (readField_defaulted_iff hread).mpr hactions
    exact ⟨_, ⟨ns, hns, actions, hactions, rfl⟩, hns', hactions'⟩

theorem read_eq_ok_iff {value : ν} {m : Manifest} :
    read src value = .ok m ↔ Shows src value m := by
  refine (Record.Draft.fill_bind_eq_ok_iff (independent_draft src) ?_).trans
    (exists_congr fun slot => and_congr_right fun _ => exists_makes_iff src)
  intro d missing
  rw [pure_eq_ok_iff]
  constructor
  · rintro rfl
    exact ⟨rfl, rfl⟩
  · rintro ⟨hns, hactions⟩
    rw [hns, hactions]

end Manifest

end Read

section Write

variable {ν : Type} {src : Source ν} {R : ν → Json → Prop} (holds : src.Holds R)

include holds

theorem ArgEntry.shows_toJson (entry : ArgEntry) {x : ν} (h : R x entry.toJson) :
    Shows src x entry := by
  obtain ⟨id, doc, predicate⟩ := entry
  obtain ⟨slot, hpresents, hslot⟩ := exists_presents_ofFields (d := draft src) holds h
    (by cases doc <;> simp [draft, optionalField])
  refine ⟨slot, hpresents, ?id, ?doc, ?predicate⟩
  case id =>
    apply required_str holds
    convert hslot "id"
    cases doc <;> simp [Table.ofList, optionalField]
  case doc =>
    apply defaulted_optional holds
    convert hslot "doc"
    cases doc <;> simp [Table.ofList, optionalField]
  case predicate =>
    apply required_str holds
    convert hslot "type"
    cases doc <;> simp [Table.ofList, optionalField]

theorem ActionEntry.shows_toJson (entry : ActionEntry) {x : ν} (h : R x entry.toJson) :
    Shows src x entry := by
  obtain ⟨type, doc, payload, args⟩ := entry
  obtain ⟨slot, hpresents, hslot⟩ := exists_presents_ofFields (d := draft src) holds h
    (by cases doc <;> cases payload <;> cases args <;> simp [draft, optionalField])
  refine ⟨slot, hpresents, ?type, ?doc, ?payload, ?args⟩
  case type =>
    apply required_str holds
    convert hslot "type"
    cases doc <;> cases payload <;> cases args <;> simp [Table.ofList, optionalField]
  case doc =>
    apply defaulted_optional holds
    convert hslot "doc"
    cases doc <;> cases payload <;> cases args <;> simp [Table.ofList, optionalField]
  case payload =>
    apply defaulted_optional holds
    convert hslot "payload"
    cases doc <;> cases payload <;> cases args <;> simp [Table.ofList, optionalField]
  case args =>
    refine defaulted_list holds ?_ fun arg x => ArgEntry.shows_toJson holds arg
    convert hslot "args"
    cases doc <;> cases payload <;> cases args <;> simp [Table.ofList, optionalField]

theorem Manifest.shows_toJson (m : Manifest) {x : ν} (h : R x m.toJson) : Shows src x m := by
  obtain ⟨slot, hpresents, hslot⟩ := exists_presents_ofFields (d := draft src) holds h
    (by simp [draft])
  have hns : Option.Rel R (slot "namespace") (some (.str m.ns.name)) := by
    convert hslot "namespace"
    simp [Table.ofList]
  have hactions : Option.Rel R (slot "actions")
      (some (.arr (m.actions.map ActionEntry.toJson))) := by
    convert hslot "actions"
    simp [Table.ofList]
  refine ⟨slot, hpresents, ?ns, ?actions⟩
  case ns =>
    generalize slot "namespace" = field at hns
    cases hns with
    | some hname => exact holds.string hname
  case actions =>
    generalize slot "actions" = field at hactions
    cases hactions with
    | some harr =>
      exact showsList_map holds harr fun action x => ActionEntry.shows_toJson holds action

theorem Manifest.read_toJson (m : Manifest) {x : ν} (h : R x m.toJson) : read src x = .ok m :=
  (read_eq_ok_iff src).mpr (shows_toJson holds m h)

end Write

theorem ArgEntry.isNumberless_toJson (entry : ArgEntry) : entry.toJson.isNumberless := by
  obtain ⟨id, doc, predicate⟩ := entry
  apply Json.isNumberless_ofFields
  cases doc <;> simp [optionalField, Json.isNumberless]

theorem ActionEntry.isNumberless_toJson (entry : ActionEntry) : entry.toJson.isNumberless := by
  obtain ⟨type, doc, payload, args⟩ := entry
  have hargs : (Json.arr (args.map ArgEntry.toJson)).isNumberless :=
    Json.itemsNumberless_iff.mpr (List.forall_mem_map.mpr fun arg _ => arg.isNumberless_toJson)
  apply Json.isNumberless_ofFields
  cases doc <;> cases payload <;> cases args <;> simp_all [optionalField, Json.isNumberless]

namespace Manifest

theorem isNumberless_toJson (m : Manifest) : m.toJson.isNumberless := by
  have hactions : (Json.arr (m.actions.map ActionEntry.toJson)).isNumberless :=
    Json.itemsNumberless_iff.mpr
      (List.forall_mem_map.mpr fun action _ => action.isNumberless_toJson)
  apply Json.isNumberless_ofFields
  simpa [Json.isNumberless] using hactions

theorem ofJsonText_of_saidBy {m : Manifest} {text : String} (h : m.toJson.SaidBy text) :
    ofJsonText text = .ok m := by
  obtain ⟨outline, htext, hsays⟩ := h
  exact Json.readText_eq_ok_iff.mpr ⟨outline, htext, read_toJson Json.Outline.holds_source m hsays⟩

/-- A manifest outlasts being written as JSON and read again. What is read as a manifest at all is a
value, or a text of one, that shows it; so this manifest outlasts it too. -/
theorem json_round_trips :
    (∀ m : Manifest, ofJson m.toJson = .ok m ∧ m.toJson.SaidBy m.toJson.toText ∧
      ∀ text, m.toJson.SaidBy text → ofJsonText text = .ok m) ∧
    (∀ (value : Json) (m : Manifest), ofJson value = .ok m ↔ Shows Json.source value m) ∧
    (∀ (text : String) (m : Manifest), ofJsonText text = .ok m ↔
      ∃ outline, Json.Outline.ofText text.toList = (outline, true) ∧
        Shows Json.Outline.source outline m) ∧
    ∀ m : Manifest, ((∃ value, ofJson value = .ok m) ∨ ∃ text, ofJsonText text = .ok m) →
      ∀ text, m.toJson.SaidBy text → ∃ m', ofJsonText text = .ok m' ∧
        ofJson m.toJson = .ok m' ∧ m' = m ∧
          ∀ {A : Type} (format : Format A), m'.compileWith format = m.compileWith format := by
  have hvalue (m : Manifest) : ofJson m.toJson = .ok m := read_toJson holds_json m rfl
  refine ⟨fun m => ⟨hvalue m, ?_, fun text => ofJsonText_of_saidBy⟩, ?_, ?_, ?_⟩
  · exact Json.saidBy_toText m.isNumberless_toJson
  · exact fun value m => read_eq_ok_iff Json.source
  · intro text m
    rw [ofJsonText, Json.readText_eq_ok_iff]
    simp only [read_eq_ok_iff]
  · intro m _ text htext
    exact ⟨m, ofJsonText_of_saidBy htext, hvalue m, rfl, fun _ => rfl⟩

example : ofJsonText "\x7b\"actions\": [[\"PING\", null]]\x7d" =
    .ok ⟨.none, [⟨"PING", none, none, []⟩]⟩ := by
  cbv

end Manifest

end ActionSchema
