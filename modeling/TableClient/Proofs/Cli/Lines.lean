import TableClient.Cli.Session
import TableClient.Proofs.Members
import TableClient.Proofs.Printer
import TableClient.Proofs.Url.Addresses
/-! The lines that records are printed as. Each stands on a line of its own unless its id breaks the
line, and the object behind the id has all other members of the record. They stand in the order of
the record, which is the order in which it is printed as JSON, exactly if not more than one member
comes behind the id: the last one takes the place of the id that is taken out. -/
namespace TableClient.Cli

/-- The id in front of a record, or a dash where it is no text. -/
def shownId (record : FlatRecord) : String :=
  ((Members.get? record idKey).bind Json.string?).getD "-"

def otherMembers (record : FlatRecord) : Members Json := record.filter fun (key, _) => key ≠ idKey

def lineOf (id : String) (members : Members Json) : List Char :=
  (padded id).toList ++ ' ' :: (Json.object members).compact.toList

/-- The records whose line is one line and has their members in order. -/
structure InLine (record : FlatRecord) : Prop where
  id : '\n' ∉ (shownId record).toList
  order : ∀ front value back, record = front ++ (idKey, value) :: back → back.length ≤ 1

variable {record : FlatRecord} {records : List FlatRecord}

theorem toList_recordLine (record : FlatRecord) :
    (recordLine record).toList =
      lineOf (shownId record) (Members.swapRemove record idKey) ++ ['\n'] := by
  simp [recordLine, lineOf, shownId]

theorem line_lineOf {id : String} (members : Members Json) :
    '\n' ∉ lineOf id members ↔ '\n' ∉ id.toList := by
  have object := Json.line_compact (.object members)
  simp [lineOf, padded, object]

theorem toList_joinLines (line : α → String) (items : List α) :
    (joinLines line items).toList = items.flatMap fun item => (line item).toList := by
  induction items with
  | nil => rfl
  | cons item rest ih => rw [joinLines, String.toList_append, ih, List.flatMap_cons]

theorem toList_printRecords (records : List FlatRecord) :
    (printRecords .human records).toList = records.flatMap fun record =>
      lineOf (shownId record) (Members.swapRemove record idKey) ++ ['\n'] := by
  change (joinLines recordLine records).toList = _
  simp only [toList_joinLines, toList_recordLine]

/-- Items that are written without breaks are the lines of their text. -/
theorem splitOn_lines {shown : α → List Char} {items : List α}
    (plain : ∀ item ∈ items, '\n' ∉ shown item) :
    Text.splitOn (· == '\n') (items.flatMap fun item => shown item ++ ['\n']) =
      items.map shown ++ [[]] := by
  induction items with
  | nil => rfl
  | cons item rest ih =>
    have later := ih fun other inside => plain other (List.mem_cons_of_mem _ inside)
    have free : ∀ c ∈ shown item, (c == '\n') = false := by
      rintro c inside
      rw [beq_eq_false_iff_ne]
      rintro rfl
      exact plain item List.mem_cons_self inside
    have behind : Text.splitOn (· == '\n') ('\n' :: rest.flatMap fun item => shown item ++ ['\n']) =
        [] :: (rest.map shown ++ [[]]) := by
      rw [Text.splitOn, if_pos (by simp), later]
    rw [List.flatMap_cons, List.append_assoc]
    exact Text.splitOn_append free behind

/-- Only of fewer than two members the last one is the first one. -/
theorem length_le_of_closeGap {members : Members Json} (distinct : Members.Distinct members)
    (same : Json.compactMembers (Members.closeGap members) = Json.compactMembers members) :
    members.length ≤ 1 := by
  cases members using List.reverseRecOn with
  | nil => exact Nat.zero_le _
  | append_singleton front last =>
    cases front with
    | nil => exact Nat.le_refl _
    | cons head front =>
      obtain ⟨key, value⟩ := last
      rw [Members.closeGap_append_one] at same
      have moved : key = head.1 := Json.key_of_compactMembers same
      have absent := (Members.absent_of_distinct distinct).1
      exact absurd List.mem_cons_self (moved ▸ absent)

/-- The text of the members that are left is that of the others in their order exactly if the last
of them need not move. -/
theorem compact_swapRemove_iff (distinct : record.Distinct) :
    (Json.object (Members.swapRemove record idKey)).compact =
        (Json.object (otherMembers record)).compact ↔
      ∀ front value back, record = front ++ (idKey, value) :: back → back.length ≤ 1 := by
  constructor
  · rintro same front value back rfl
    obtain ⟨absent, absent'⟩ := Members.absent_of_distinct distinct
    rw [otherMembers, Members.swapRemove_append absent,
      Members.filter_append_cons absent absent'] at same
    simp only [Json.compact, String.append_left_inj, String.append_right_inj] at same
    by_cases none : back = []
    · simp [none]
    · apply length_le_of_closeGap (Members.distinct_behind distinct)
      refine Json.compactMembers_of_append ?_ none same
      exact fun empty => none (List.nil_perm.mp (empty ▸ Members.closeGap_perm back))
  · intro short
    by_cases held : idKey ∈ Members.keys record
    · obtain ⟨⟨key, value⟩, inside, same⟩ := List.mem_map.mp held
      obtain ⟨front, back, rfl⟩ := List.append_of_mem inside
      obtain rfl : key = idKey := same
      obtain ⟨absent, absent'⟩ := Members.absent_of_distinct distinct
      rw [otherMembers, Members.swapRemove_append absent, Members.filter_append_cons absent absent',
        Members.closeGap_of_short (short front value back rfl)]
    · rw [otherMembers, Members.swapRemove_of_absent held, Members.filter_of_absent held]

theorem lineOf_inj {id : String} {members members' : Members Json} :
    lineOf id members = lineOf id members' ↔
      (Json.object members).compact = (Json.object members').compact := by
  rw [lineOf, lineOf, List.append_cancel_left_eq, List.cons.injEq, String.toList_inj]
  simp

/-- Records are printed one to a line, with their other members in the order in which they are
printed as JSON, exactly if no id breaks its line and none has more than one member behind it. In
any case the lines come in the order of the records and none of their members is lost. -/
theorem lines_show_records_iff (records : List FlatRecord)
    (distinct : ∀ record ∈ records, record.Distinct) :
    (Text.splitOn (· == '\n') (printRecords .human records).toList =
        (records.map fun record => lineOf (shownId record) (otherMembers record)) ++ [[]] ↔
      ∀ record ∈ records, InLine record) ∧
    (printRecords .human records).toList = (records.flatMap fun record =>
      lineOf (shownId record) (Members.swapRemove record idKey) ++ ['\n']) ∧
    (∀ record ∈ records, (Members.swapRemove record idKey).Perm (otherMembers record)) ∧
    printRecords .json records = (Json.array (records.map .object)).pretty ++ "\n" := by
  have printed (plain : ∀ record ∈ records, '\n' ∉ (shownId record).toList) :
      Text.splitOn (· == '\n') (printRecords .human records).toList =
        (records.map fun record => lineOf (shownId record) (Members.swapRemove record idKey)) ++
          [[]] := by
    rw [toList_printRecords]
    exact splitOn_lines fun record inside => (line_lineOf _).mpr (plain record inside)
  refine ⟨⟨?_, ?_⟩, toList_printRecords records, ?_, rfl⟩
  · intro shown
    have plain : ∀ record ∈ records, '\n' ∉ (shownId record).toList := by
      intro record inside
      have part : lineOf (shownId record) (otherMembers record) ∈
          Text.splitOn (· == '\n') (printRecords .human records).toList :=
        shown ▸ List.mem_append_left _ (List.mem_map_of_mem inside)
      rw [← line_lineOf (otherMembers record)]
      exact fun held => Text.not_separator_of_mem_splitOn part held (by simp)
    rw [printed plain, List.append_cancel_right_eq, List.map_inj_left] at shown
    intro record inside
    exact ⟨plain record inside,
      (compact_swapRemove_iff (distinct record inside)).mp (lineOf_inj.mp (shown record inside))⟩
  · intro each
    rw [printed fun record inside => (each record inside).id, List.append_cancel_right_eq,
      List.map_inj_left]
    intro record inside
    exact lineOf_inj.mpr
      ((compact_swapRemove_iff (distinct record inside)).mpr (each record inside).order)
  · exact fun record inside => Members.swapRemove_perm (distinct record inside) idKey

/-- A record with one member behind its id, and one whose id is no text and stands last. -/
theorem lines_show_records_short :
    let records : List FlatRecord :=
      [[("id", .string "rec1"), ("a", .bool true)], [("b", .null), ("id", .null)]]
    (∀ record ∈ records, record.Distinct) ∧
      Text.splitOn (· == '\n') (printRecords .human records).toList =
        (records.map fun record => lineOf (shownId record) (otherMembers record)) ++ [[]] := by
  intro records
  have distinct : ∀ record ∈ records, record.Distinct := by decide
  refine ⟨distinct, (lines_show_records_iff records distinct).1.mpr ?_⟩
  have sizes : ∀ record ∈ records, record.length = 2 := by simp [records]
  have plain : ∀ record ∈ records, '\n' ∉ (shownId record).toList := by decide
  intro record inside
  refine ⟨plain record inside, ?_⟩
  rintro front value back rfl
  have size := sizes _ inside
  simp only [List.length_append, List.length_cons] at size
  omega

/-- Of two members behind the id, the second is printed first. -/
theorem second_member_printed_first :
    let record : FlatRecord := [("id", .string "rec1"), ("a", .bool true), ("b", .bool false)]
    record.Distinct ∧
      Text.splitOn (· == '\n') (printRecords .human [record]).toList ≠
        [lineOf (shownId record) (otherMembers record), []] ∧
      printRecords .human [record] =
        "rec1               \x7b\"b\":false,\"a\":true\x7d\n" ∧
      printRecords .json [record] =
        "[\n  \x7b\n    \"id\": \"rec1\",\n    \"a\": true,\n    \"b\": false\n  \x7d\n]\n" := by
  intro record
  refine ⟨by decide, ?_, ?_, ?_⟩
  · decide +kernel
  · decide +kernel
  · decide +kernel

end TableClient.Cli
