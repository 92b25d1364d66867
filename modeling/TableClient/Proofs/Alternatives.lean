import Mathlib.Data.List.Forall2
import TableClient.Wire
/-! One record or a batch, told apart by its form. A batch is an array, and so is a record that is
written as its parts. What stands first in the array decides: the id of a record is a text or null,
and a record is neither. Only the empty array has both forms. -/
namespace TableClient

namespace Json.Source

/-- What stands under a key that does not repeat. -/
inductive Under (key : String) : List (String × Source) → Option Source → Prop
  | missing : key ∉ Members.keys members → Under key members none
  | single : key ∉ Members.keys front → key ∉ Members.keys back →
      Under key (front ++ (key, part) :: back) (some part)

theorem filter_key_eq_nil_iff {members : List (String × Source)} :
    members.filter (fun (name, _) => name = key) = [] ↔ key ∉ Members.keys members := by
  simp only [List.filter_eq_nil_iff, Members.keys, List.mem_map, decide_eq_true_eq]
  constructor
  · rintro each ⟨member, held, same⟩
    exact each member held same
  · intro absent member held same
    exact absent ⟨member, held, same⟩

theorem once?_eq_some_iff {members : List (String × Source)} {part : Option Source} :
    once? members key = some part ↔ Under key members part := by
  constructor
  · intro read
    unfold once? at read
    split at read
    case h_1 none =>
      cases read
      exact .missing (filter_key_eq_nil_iff.mp none)
    case h_2 name value one =>
      cases read
      obtain ⟨front, back, rfl, before, same, behind⟩ := List.filter_eq_cons_iff.mp one
      obtain rfl : name = key := by simpa using same
      have absent := filter_key_eq_nil_iff.mp (List.filter_eq_nil_iff.mpr before)
      exact .single absent (filter_key_eq_nil_iff.mp behind)
    case h_3 => cases read
  · rintro (absent | ⟨absent, absent'⟩)
    · simp [once?, filter_key_eq_nil_iff.mpr absent]
    · simp [once?, filter_key_eq_nil_iff.mpr absent, filter_key_eq_nil_iff.mpr absent']

/-- A list is read if each of its items is. -/
theorem mapM_eq_some_iff {item : Source → Option α} {parts : List Source} {values : List α} :
    parts.mapM item = some values ↔
      List.Forall₂ (fun part value => item part = some value) parts values := by
  induction parts generalizing values with
  | nil => simp [eq_comm]
  | cons part rest ih =>
    rw [List.mapM_cons, List.forall₂_cons_left_iff]
    simp only [Option.bind_eq_bind, Option.bind_eq_some_iff, Option.pure_def, Option.some.injEq, ih]
    constructor
    · rintro ⟨value, first, later, behind, rfl⟩
      exact ⟨value, later, first, behind, rfl⟩
    · rintro ⟨value, later, first, behind, rfl⟩
      exact ⟨value, first, later, behind, rfl⟩

end Json.Source

open Json (Source)

namespace Record

inductive IdFormed : Option Source → Option String → Prop
  | missing : IdFormed none none
  | null : IdFormed (some .null) none
  | text : IdFormed (some (.string name)) (some name)

inductive FieldsFormed : Option Source → Fields → Prop
  | missing : FieldsFormed none []
  | object : Source.memberValues? members = some pairs →
      FieldsFormed (some (.object members)) (Members.ofPairs pairs)

/-- What stands for a record: an object with its two parts under their keys, or an array of the
two in order, from whose end they may be missing. -/
inductive Formed : Source → Record → Prop
  | object : Source.Under "id" members first → Source.Under "fields" members second →
      IdFormed first name → FieldsFormed second bag → Formed (.object members) ⟨name, bag⟩
  | array : parts.length ≤ 2 → IdFormed parts[0]? name → FieldsFormed parts[1]? bag →
      Formed (.array parts) ⟨name, bag⟩

variable {part : Source} {record : Record}

theorem idPart?_eq_some_iff {part : Option Source} {name : Option String} :
    idPart? part = some name ↔ IdFormed part name := by
  constructor
  · intro read
    match part with
    | none | some .null | some (.string _) =>
      cases read
      constructor
    | some (.bool _) | some (.number _) | some (.array _) | some (.object _) | some .unreadable =>
      cases read
  · rintro (_ | _ | _) <;> rfl

theorem fieldsPart?_eq_some_iff {part : Option Source} {bag : Fields} :
    fieldsPart? part = some bag ↔ FieldsFormed part bag := by
  constructor
  · intro read
    match part with
    | none =>
      cases read
      exact .missing
    | some (.object members) =>
      obtain ⟨pairs, values, rfl⟩ := Option.map_eq_some_iff.mp read
      exact .object values
    | some .null | some (.bool _) | some (.number _) | some (.string _) | some (.array _)
    | some .unreadable => cases read
  · rintro (_ | values)
    · rfl
    · exact Option.map_eq_some_iff.mpr ⟨_, values, rfl⟩

theorem ofParts?_eq_some_iff {first second : Option Source} :
    ofParts? first second = some record ↔
      IdFormed first record.id ∧ FieldsFormed second record.fields := by
  simp only [ofParts?, Option.bind_eq_bind, Option.bind_eq_some_iff, Option.pure_def,
    Option.some.injEq, idPart?_eq_some_iff, fieldsPart?_eq_some_iff]
  constructor
  · rintro ⟨name, named, bag, held, rfl⟩
    exact ⟨named, held⟩
  · rintro ⟨named, held⟩
    exact ⟨_, named, _, held, rfl⟩

theorem formed_array_iff {parts : List Source} :
    Formed (.array parts) record ↔
      parts.length ≤ 2 ∧ IdFormed parts[0]? record.id ∧ FieldsFormed parts[1]? record.fields := by
  constructor
  · rintro (_ | ⟨short, named, held⟩)
    exact ⟨short, named, held⟩
  · rintro ⟨short, named, held⟩
    exact .array short named held

/-- What is read as a record is what has the form of one. -/
theorem ofSource?_eq_some_iff (part : Source) (record : Record) :
    ofSource? part = some record ↔ Formed part record := by
  match part with
  | .object members =>
    simp only [ofSource?, Option.bind_eq_bind, Option.bind_eq_some_iff, Source.once?_eq_some_iff,
      ofParts?_eq_some_iff]
    constructor
    · rintro ⟨_, single, _, single', named, held⟩
      exact .object single single' named held
    · rintro ⟨single, single', named, held⟩
      exact ⟨_, single, _, single', named, held⟩
  -- An array names no parts, so its length tells which are missing.
  | .array [] | .array [_] | .array [_, _] =>
    rw [ofSource?, ofParts?_eq_some_iff, formed_array_iff]
    simp
  | .array (_ :: _ :: _ :: _) => simp [ofSource?, formed_array_iff]
  | .null | .bool _ | .number _ | .string _ | .unreadable => exact iff_of_false nofun nofun

/-- An id is no record. -/
theorem not_formed_of_idFormed {name : Option String} (named : IdFormed (some part) name) :
    ¬ Formed part record := by
  cases named with
  | null | text => nofun

end Record

namespace OneOrMany

/-- What stands for one item or a batch: an item, or an array of items. -/
inductive Formed (item : Source → α → Prop) : Source → OneOrMany α → Prop
  | one : item part value → Formed item part (.one value)
  | many : List.Forall₂ item parts values → Formed item (.array parts) (.many values)

def oneFirst? (item : Source → Option α) (source : Source) : Option (OneOrMany α) :=
  if source.isReadable then
    match oneOfSource? item source with
    | some items => some items
    | none => manyOfSource? item source
  else none

section

variable {item : Source → Option α} {form : Source → α → Prop} {part : Source}

theorem formed_many_iff {values : List α} :
    Formed form part (.many values) ↔
      ∃ parts, part = .array parts ∧ List.Forall₂ form parts values := by
  constructor
  · rintro (_ | each)
    exact ⟨_, rfl, each⟩
  · rintro ⟨parts, rfl, each⟩
    exact .many each

/-- The order of the alternatives tells exactly where both can be read. -/
theorem ofSource?_eq_oneFirst?_iff :
    ofSource? item part = oneFirst? item part ↔
      ¬ (part.isReadable ∧ (manyOfSource? item part).isSome ∧ (oneOfSource? item part).isSome) := by
  unfold ofSource? oneFirst? manyOfSource? oneOfSource?
  by_cases readable : part.isReadable
  · cases part.array? item with
    | none => cases item part <;> simp
    | some values => cases item part <;> simp [readable]
  · simp [readable]

variable (reads : ∀ part value, item part = some value ↔ form part value)
include reads

theorem oneOfSource?_eq_some_iff {items : OneOrMany α} :
    oneOfSource? item part = some items ↔ ∃ value, form part value ∧ .one value = items := by
  simp only [oneOfSource?, Option.map_eq_some_iff, reads]

theorem manyOfSource?_eq_some_iff {items : OneOrMany α} :
    manyOfSource? item part = some items ↔
      ∃ values, Formed form part (.many values) ∧ .many values = items := by
  have each : ∀ values, part.array? item = some values ↔ Formed form part (.many values) := by
    intro values
    rw [formed_many_iff]
    cases part with
    | array parts => simp [Source.array?, Source.mapM_eq_some_iff, reads]
    | _ => simp [Source.array?]
  simp only [manyOfSource?, Option.map_eq_some_iff, each]

theorem exists_many {parts : List Source} (each : ∀ part ∈ parts, (item part).isSome) :
    ∃ values, Formed form (.array parts) (.many values) := by
  induction parts with
  | nil => exact ⟨[], .many .nil⟩
  | cons part rest ih =>
    obtain ⟨value, first⟩ := Option.isSome_iff_exists.mp (each part List.mem_cons_self)
    obtain ⟨values, later⟩ := ih fun other member => each other (List.mem_cons_of_mem _ member)
    obtain ⟨_, ⟨⟩, later⟩ := formed_many_iff.mp later
    exact ⟨value :: values, .many (.cons ((reads part value).mp first) later)⟩

theorem many_unique {values others : List α} (formed : Formed form part (.many values))
    (formed' : Formed form part (.many others)) : others = values := by
  have read := (manyOfSource?_eq_some_iff reads).mpr ⟨values, formed, rfl⟩
  have again := (manyOfSource?_eq_some_iff reads).mpr ⟨others, formed', rfl⟩
  exact many.inj (Option.some.inj (again.symm.trans read))

/-- A value is read as what it has the form of, and as a batch if it has that form. -/
theorem ofSource?_eq_some_iff {items : OneOrMany α} :
    ofSource? item part = some items ↔ part.isReadable ∧ Formed form part items ∧
      ∀ values, Formed form part (.many values) → .many values = items := by
  unfold ofSource?
  by_cases readable : part.isReadable
  · rw [if_pos readable, and_iff_right readable]
    cases batch : manyOfSource? item part with
    | some read =>
      obtain ⟨values, formed, rfl⟩ := (manyOfSource?_eq_some_iff reads).mp batch
      constructor
      · rintro ⟨⟩
        exact ⟨formed, fun _ formed' => congrArg many (many_unique reads formed formed')⟩
      · rintro ⟨-, first⟩
        exact congrArg some (first values formed)
    | none =>
      -- Nothing is a batch here, so what is left of the form is one item.
      have unread : ∀ values, ¬ Formed form part (.many values) := by
        intro values formed
        have read := (manyOfSource?_eq_some_iff reads).mpr ⟨values, formed, rfl⟩
        cases batch.symm.trans read
      constructor
      · intro single
        obtain ⟨value, formed, rfl⟩ := (oneOfSource?_eq_some_iff reads).mp single
        exact ⟨.one formed, fun values formed' => absurd formed' (unread values)⟩
      · rintro ⟨formed, -⟩
        cases formed with
        | one formed => exact (oneOfSource?_eq_some_iff reads).mpr ⟨_, formed, rfl⟩
        | many each => exact absurd (.many each) (unread _)
  · simp [readable]

end

end OneOrMany

namespace Wire

open OneOrMany

/-- What stands under the one key of the answer to a write: in an object, or alone in an array. -/
inductive Enveloped : Source → Source → Prop
  | object : Source.Under recordsKey members (some part) → Enveloped (.object members) part
  | array : Enveloped (.array [part]) part

variable {part : Source} {record : Record} {records : List Record}

theorem writtenOfSource?_of_enveloped {answer : Source} (enveloped : Enveloped answer part) :
    writtenOfSource? answer = ofSource? Record.ofSource? part := by
  cases enveloped with
  | object single => simp [writtenOfSource?, Source.required?, Source.once?_eq_some_iff.mpr single]
  | array => rfl

/-- What has the form of a record and that of a batch has nothing in it: what stands first would be
an id and a record. -/
theorem nil_of_both (single : Record.Formed part record)
    (batch : Formed Record.Formed part (.many records)) : part = .array [] ∧ records = [] := by
  obtain ⟨parts, rfl, each⟩ := formed_many_iff.mp batch
  cases each with
  | nil => exact ⟨rfl, rfl⟩
  | cons first =>
    obtain ⟨-, named, -⟩ := Record.formed_array_iff.mp single
    exact absurd first (Record.not_formed_of_idFormed named)

theorem both_read_iff :
    (manyOfSource? Record.ofSource? part).isSome ∧ (oneOfSource? Record.ofSource? part).isSome ↔
      part = .array [] := by
  constructor
  · rintro ⟨batch, single⟩
    obtain ⟨_, batch⟩ := Option.isSome_iff_exists.mp batch
    obtain ⟨_, single⟩ := Option.isSome_iff_exists.mp single
    obtain ⟨_, many, -⟩ := (manyOfSource?_eq_some_iff Record.ofSource?_eq_some_iff).mp batch
    obtain ⟨_, one, -⟩ := (oneOfSource?_eq_some_iff Record.ofSource?_eq_some_iff).mp single
    exact (nil_of_both one many).1
  · rintro rfl
    exact ⟨rfl, rfl⟩

/-- The reading of one record and that of a batch both take a value only if it is the empty list. So
the order in which they are tried tells for that value alone, which is read as the empty batch, and
every other value is read as what it has the form of. A list of records is never read as one record,
and what has a form of a record never as a batch with records in it. An answer to a write is read as
what stands under its key. All this is said of values as written: keys may repeat in them, and parts
that no form asks for may be unreadable. -/
theorem written_one_way (part : Source) :
    (∀ record, Record.ofSource? part = some record ↔ Record.Formed part record) ∧
    ((manyOfSource? Record.ofSource? part).isSome ∧ (oneOfSource? Record.ofSource? part).isSome ↔
      part = .array []) ∧
    (ofSource? Record.ofSource? part = oneFirst? Record.ofSource? part ↔ part ≠ .array []) ∧
    (part = .array [] → ofSource? Record.ofSource? part = some (.many [])) ∧
    (part ≠ .array [] → ∀ records, ofSource? Record.ofSource? part = some records ↔
      part.isReadable ∧ Formed Record.Formed part records) ∧
    (∀ items, part = .array items → (∀ item ∈ items, (Record.ofSource? item).isSome) →
      ∀ record, ofSource? Record.ofSource? part ≠ some (.one record)) ∧
    (∀ record, Record.Formed part record →
      ∀ records, ofSource? Record.ofSource? part = some (.many records) → records = []) ∧
    ∀ answer, Enveloped answer part →
      writtenOfSource? answer = ofSource? Record.ofSource? part := by
  have reads := Record.ofSource?_eq_some_iff
  refine ⟨reads part, both_read_iff, ?order, ?empty, ?other, ?batch, ?single,
    fun _ => writtenOfSource?_of_enveloped⟩
  case order =>
    rw [ofSource?_eq_oneFirst?_iff, both_read_iff, not_and]
    refine ⟨fun unread empty => ?_, fun other _ => other⟩
    subst empty
    exact unread rfl rfl
  case empty =>
    rintro rfl
    rfl
  case other =>
    intro other records
    rw [OneOrMany.ofSource?_eq_some_iff reads]
    constructor
    · rintro ⟨readable, formed, -⟩
      exact ⟨readable, formed⟩
    · rintro ⟨readable, formed⟩
      refine ⟨readable, formed, fun values batch => ?_⟩
      cases formed with
      | one single => exact absurd (nil_of_both single batch).1 other
      | many each => exact congrArg many (many_unique reads (.many each) batch)
  case batch =>
    rintro items rfl each record read
    obtain ⟨-, -, first⟩ := (OneOrMany.ofSource?_eq_some_iff reads).mp read
    obtain ⟨values, batch⟩ := exists_many reads each
    cases first values batch
  case single =>
    intro record single records read
    obtain ⟨-, batch, -⟩ := (OneOrMany.ofSource?_eq_some_iff reads).mp read
    exact (nil_of_both single batch).2

/-- A list of records in both forms, and a record that is itself a list. -/
theorem written_one_way_pair :
    let pair : Source := .array [.string "r1", .object [("a", .number (.integer 1))]]
    let list : Source := .array [pair, .object [("id", .null)], .array [.null], .array []]
    let record : Record := ⟨some "r1", [("a", .number (.integer 1))]⟩
    ofSource? Record.ofSource? list = some (.many [record, ⟨none, []⟩, ⟨none, []⟩, ⟨none, []⟩]) ∧
      (∀ record, ofSource? Record.ofSource? list ≠ some (.one record)) ∧
      writtenOfSource? (.object [("records", pair)]) = some (.one record) ∧
      (∀ records, ofSource? Record.ofSource? pair = some (.many records) → records = []) ∧
      ofSource? Record.ofSource? (.array []) = some (.many []) := by
  intro pair list record
  have formed : Record.Formed pair record := ((written_one_way pair).1 record).mp rfl
  have blank : ∀ part, Record.ofSource? part = some ⟨none, []⟩ → Record.Formed part ⟨none, []⟩ :=
    fun part => ((written_one_way part).1 _).mp
  have batch : Formed Record.Formed list (.many [record, ⟨none, []⟩, ⟨none, []⟩, ⟨none, []⟩]) :=
    .many (.cons formed (.cons (blank _ rfl) (.cons (blank _ rfl) (.cons (blank _ rfl) .nil))))
  have under : Source.Under recordsKey [(recordsKey, pair)] (some pair) :=
    Source.once?_eq_some_iff.mp rfl
  obtain ⟨-, -, -, -, readList, noRecord, -, -⟩ := written_one_way list
  obtain ⟨-, -, -, -, readPair, -, noBatch, answered⟩ := written_one_way pair
  obtain ⟨-, -, -, empty, -⟩ := written_one_way (.array [])
  have read := (readPair (by simp [pair]) (.one record)).mpr ⟨rfl, .one formed⟩
  exact ⟨(readList (by simp [list]) _).mpr ⟨rfl, batch⟩, noRecord _ rfl (List.all_eq_true.mp rfl),
    (answered _ (.object under)).trans read, noBatch record formed, empty rfl⟩

end Wire
end TableClient
