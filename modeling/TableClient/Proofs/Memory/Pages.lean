import TableClient.Proofs.Memory.Table
import TableClient.Proofs.Query.Counts
import TableClient.Proofs.Query.Params
import TableClient.Proofs.Service.Listing
/-! Pages of a table. The backend knows a ceiling and no offset, so a page is cut out of a longer
list: the ceiling is widened by the skip, and the front is dropped behind the answer. What is
left is the window that the query asks for, and windows side by side are the table. Without a
limit there is no ceiling to widen; the skip becomes one itself, and nothing is left. -/
namespace TableClient

namespace Memory

/-- The ceiling is found among the parameters that it is sent with. -/
theorem ceiling?_params (selection : Selection) :
    ceiling? selection.params = selection.maxRecords.filter (0 < ·) := by
  unfold ceiling?
  rw [Selection.get?_ceilingKey]
  cases selection.maxRecords.filter (0 < ·) with
  | none => rfl
  | some ceiling => exact Number.toCount?_ofCount ceiling

theorem listed_params {memory : Memory} {selection : Selection} {ceiling : UInt64}
    (asked : selection.maxRecords = some ceiling) (positive : 0 < ceiling) :
    memory.listed selection.params = memory.records.take ceiling.toNat := by
  rw [listed, ceiling?_params, asked, Option.filter_some, if_pos (by simpa using positive)]

end Memory

namespace Listing

/-- A query that asks for so many records behind so many others, with predicates that compile. -/
structure Window (query : Query) (limit skip : Nat) : Prop where
  compiles : ∃ formula, Filter.formula (predicates query) = .ok formula
  limited : Gives (Members.get? query "$limit") limit
  skipped : Gives (Members.get? query "$skip") skip
  limit_fits : limit < UInt64.size
  skip_fits : skip < UInt64.size

/-- A window is listed by a ceiling that covers what is dropped. -/
theorem Window.listing {query : Query} {limit skip : Nat} (window : Window query limit skip)
    (positive : 0 < limit) :
    ∃ listing ceiling, ofQuery query = .ok listing ∧ listing.skip.toNat = skip ∧
      listing.selection.maxRecords = some ceiling ∧
      ceiling.toNat = min (limit + skip) countLimit := by
  obtain ⟨formula, compiled⟩ := window.compiles
  obtain ⟨ceiling, widened, value⟩ := ceiling_of_gives window.limited window.skipped positive
    window.limit_fits window.skip_fits
  refine ⟨_, ceiling, by rw [ofQuery, compiled]; rfl, ?_, widened, value⟩
  dsimp only
  rcases Nat.eq_zero_or_pos skip with rfl | above
  · rw [count_zero window.skipped]
    rfl
  · rw [count_pos window.skipped window.skip_fits above]
    exact UInt64.toNat_ofNat_of_lt' window.skip_fits

end Listing

/-- The front of a list is cut off behind a ceiling that covers it, so what is left is a window;
a ceiling that is the largest count is above every position. -/
theorem drop_take_ceiling {records : List α} (fits : records.length < UInt64.size)
    (limit skip : Nat) :
    (records.take (min (limit + skip) countLimit)).drop skip = (records.drop skip).take limit := by
  have covers : min (min (limit + skip) countLimit) records.length =
      min (limit + skip) records.length := by
    unfold countLimit
    omega
  rw [List.take_eq_take_iff.mpr covers, List.drop_take, Nat.add_sub_cancel]

def Service.findAll (backend : Backend σ) : List Query → Action σ (List FlatRecord)
  | [] => pure []
  | query :: rest => do
    let found ← find backend query
    return found ++ (← findAll backend rest)

namespace Memory

variable {memory : Memory} {limit skip : Nat}

/-- A search drops the front of what the table lists, and leaves the table as it is. -/
theorem run_find_table (newId : Nat → String) {query : Query} {listing : Listing}
    (asked : Listing.ofQuery query = .ok listing) (memory : Memory) :
    Service.run (Service.find (backend newId) query) memory =
      (match memory.failure? .query with
        | some error => .error (.backend error)
        | none => .ok (((memory.listed listing.selection.params).map Record.flat).drop
            listing.skip.toNat), (memory.start (.query listing.selection.params)).finish) := by
  rw [Service.run_find asked, backend_call, call_query]
  cases memory.failure? .query with
  | some error => rfl
  | none => rfl

theorem run_find_window (newId : Nat → String) {query : Query}
    (window : Listing.Window query limit skip) (positive : 0 < limit)
    (fits : memory.records.length < UInt64.size) (answers : memory.failure? .query = none) :
    ∃ next, Service.run (Service.find (backend newId) query) memory =
        (.ok (((memory.records.drop skip).take limit).map Record.flat), next) ∧
      next.records = memory.records ∧ next.failures = memory.failures := by
  obtain ⟨listing, ceiling, asked, skips, limited, value⟩ := window.listing positive
  have above : 0 < ceiling := by
    rw [UInt64.lt_iff_toNat_lt, value]
    exact Nat.lt_min.mpr ⟨Nat.add_pos_left positive skip, by decide⟩
  refine ⟨(memory.start (.query listing.selection.params)).finish, ?_, rfl, rfl⟩
  rw [run_find_table newId asked, answers]
  dsimp only
  rw [listed_params limited above, value, skips, ← List.map_drop, drop_take_ceiling fits]

/-- Windows side by side, read one after the other. -/
theorem run_findAll_windows (newId : Nat → String) {pages : List Query} (positive : 0 < limit)
    (windows : ∀ index (inside : index < pages.length),
      Listing.Window pages[index] limit (skip + index * limit))
    (fits : memory.records.length < UInt64.size) (answers : memory.failure? .query = none) :
    (Service.run (Service.findAll (backend newId) pages) memory).1 =
      .ok (((memory.records.drop skip).take (pages.length * limit)).map Record.flat) := by
  induction pages generalizing memory skip with
  | nil =>
    rw [List.length_nil, Nat.zero_mul, List.take_zero]
    rfl
  | cons query rest ih =>
    have first : Listing.Window query limit skip := by
      simpa using windows 0 (Nat.zero_lt_succ _)
    have behind : ∀ index (inside : index < rest.length),
        Listing.Window rest[index] limit (skip + limit + index * limit) := by
      intro index inside
      have window := windows (index + 1) (Nat.succ_lt_succ inside)
      rwa [Nat.succ_mul, Nat.add_comm (index * limit), ← Nat.add_assoc] at window
    obtain ⟨next, found, kept, same⟩ := run_find_window newId first positive fits answers
    have fitsLater : next.records.length < UInt64.size := by rwa [kept]
    have answersLater : next.failure? .query = none := by rwa [failure?, same]
    have later := ih behind fitsLater answersLater
    rw [kept] at later
    rw [Service.findAll, Service.run_bind, found]
    dsimp only
    rw [Service.run_bind]
    cases outcome : Service.run (Service.findAll (backend newId) rest) next with
    | mk result last =>
      rw [outcome] at later
      obtain rfl : result = _ := later
      have whole : (query :: rest).length * limit = limit + rest.length * limit := by
        rw [List.length_cons, Nat.succ_mul, Nat.add_comm]
      rw [whole, List.take_add, List.drop_drop, List.map_append]
      rfl

/-- A page of a table is the window that its query asks for: the records at these positions, in the
order of the table and in their flat shape, also where no count is large enough for the sum of
limit and skip. So pages side by side, read until the table is covered, are the whole table. -/
theorem pages_tile (newId : Nat → String) (positive : 0 < limit)
    (fits : memory.records.length < UInt64.size) (answers : memory.failure? .query = none) :
    (∀ query skip, Listing.Window query limit skip →
      (Service.run (Service.find (backend newId) query) memory).1 =
        .ok (((memory.records.drop skip).take limit).map Record.flat)) ∧
    ∀ pages : List Query,
      (∀ index (inside : index < pages.length), Listing.Window pages[index] limit (index * limit)) →
      memory.records.length ≤ pages.length * limit →
      (Service.run (Service.findAll (backend newId) pages) memory).1 =
        .ok (memory.records.map Record.flat) := by
  constructor
  · intro query skip window
    obtain ⟨next, found, -⟩ := run_find_window newId window positive fits answers
    rw [found]
  · intro pages windows covers
    have windows : ∀ index (inside : index < pages.length),
        Listing.Window pages[index] limit (0 + index * limit) := by
      intro index inside
      rw [Nat.zero_add]
      exact windows index inside
    rw [run_findAll_windows newId positive windows fits answers, List.drop_zero,
      List.take_of_length_le covers]

theorem pages_tile_three :
    let newId : Nat → String := fun count => "rec" ++ Text.decimal count
    let memory := ofRecords
      [⟨some "a", []⟩, ⟨some "b", [("id", .null)]⟩, ⟨none, [("n", .null)]⟩] true
    let page : Nat → Query := fun skip => [("$limit", .string "2"),
      ("n", .object [("$gt", .number (.integer 0))]), ("$skip", .number (.integer skip))]
    0 < 2 ∧ memory.records.length < UInt64.size ∧ memory.failure? .query = none ∧
      (Service.run (Service.find (backend newId) (page 1)) memory).1 =
        .ok [[("id", .null)], [("n", .null)]] ∧
      (Service.run (Service.find (backend newId) (page countLimit)) memory).1 = .ok [] ∧
      (Service.run (Service.findAll (backend newId) [page 0, page 2]) memory).1 =
        .ok [[("id", .string "a")], [("id", .null)], [("n", .null)]] := by
  intro newId memory page
  have fits : memory.records.length < UInt64.size := by decide
  have windows : ∀ skip, skip < UInt64.size → Listing.Window (page skip) 2 skip := by
    intro skip small
    have limited : Listing.Gives (some (.string (Text.decimal 2))) 2 := .text
    exact ⟨⟨_, rfl⟩, limited, .integer, by decide, small⟩
  obtain ⟨single, tiled⟩ := pages_tile newId (by decide : 0 < 2) fits rfl
  refine ⟨by decide, fits, rfl, ?_, ?_, ?_⟩
  · exact single _ 1 (windows 1 (by decide))
  · exact single _ countLimit (windows countLimit (by decide))
  · apply tiled
    · intro index inside
      rcases index with _ | _ | index
      · exact windows 0 (by decide)
      · exact windows 2 (by decide)
      · exact absurd inside (by simp)
    · decide

/-- A skip alone finds nothing. It is its own ceiling, so the backend lists only what is dropped
from its answer, and what stands behind it in the table is never asked for. The records behind the
skip are found exactly if there are none. -/
theorem skip_alone_finds_nothing (newId : Nat → String) (memory : Memory) {query : Query}
    {listing : Listing} {skip : UInt64} (asked : Listing.ofQuery query = .ok listing)
    (skipped : Listing.count (Members.get? query "$skip") = some skip)
    (unlimited : Listing.count (Members.get? query "$limit") = none) :
    let params := listing.selection.params
    let found := Service.run (Service.find (backend newId) query) memory
    ceiling? params = some skip ∧ found.2 = (memory.start (.query params)).finish ∧
      match memory.failure? .query with
      | some error => found.1 = .error (.backend error)
      | none => found.1 = .ok [] ∧
        (found.1 = .ok ((memory.records.drop skip.toNat).map Record.flat) ↔
          memory.records.length ≤ skip.toNat) := by
  intro params found
  obtain ⟨-, -, -, limited, skips⟩ := Listing.ofQuery_ok asked
  rw [unlimited, skipped, Listing.ceiling_skip] at limited
  rw [skipped, Option.getD_some] at skips
  have positive : 0 < skip := Listing.pos_of_count skipped
  have ceiling : ceiling? params = some skip := by
    rw [ceiling?_params, limited, Option.filter_some, if_pos (by simpa using positive)]
  have runs : found = _ := run_find_table newId asked memory
  cases failure : memory.failure? .query with
  | some error =>
    rw [failure] at runs
    rw [runs]
    exact ⟨ceiling, rfl, rfl⟩
  | none =>
    have dropped : ((memory.records.take skip.toNat).map Record.flat).drop skip.toNat = [] := by
      rw [List.drop_eq_nil_iff, List.length_map]
      exact List.length_take_le _ _
    rw [failure] at runs
    dsimp only at runs
    rw [listed_params limited positive, skips, dropped] at runs
    rw [runs]
    refine ⟨ceiling, rfl, rfl, ?_⟩
    constructor
    · intro same
      have behind := Except.ok.inj same
      rwa [eq_comm, List.map_eq_nil_iff, List.drop_eq_nil_iff] at behind
    · intro short
      rw [List.drop_eq_nil_iff.mpr short]
      rfl

theorem skip_alone_finds_nothing_text :
    let memory := ofRecords [⟨some "a", []⟩, ⟨some "b", []⟩, ⟨some "c", []⟩] true
    let query : Query := [("$limit", .number (.integer 0)), ("$skip", .string "2")]
    Listing.count (Members.get? query "$skip") = some 2 ∧
      Listing.count (Members.get? query "$limit") = none ∧
      (Service.run (Service.find (backend Text.decimal) query) memory).1 = .ok [] ∧
      (Service.run (Service.find (backend Text.decimal) query) memory).1 ≠
        .ok ((memory.records.drop 2).map Record.flat) := by
  intro memory query
  have skipped : Listing.count (Members.get? query "$skip") = some 2 := by rfl
  have unlimited : Listing.count (Members.get? query "$limit") = none := by rfl
  obtain ⟨-, -, nothing, behind⟩ :=
    skip_alone_finds_nothing Text.decimal memory rfl skipped unlimited
  refine ⟨skipped, unlimited, nothing, fun same => ?_⟩
  have short : memory.records.length ≤ 2 := behind.mp same
  exact absurd short (by decide)

/-- The second of two records stands behind a skip of one, and is not found. -/
theorem skip_alone_loses_rest :
    let memory := ofRecords [⟨some "a", []⟩, ⟨some "b", []⟩] false
    let query : Query := [("$skip", .number (.integer 1))]
    let found := Service.run (Service.find (backend Text.decimal) query) memory
    (memory.records.drop 1).map Record.flat = [[("id", .string "b")]] ∧ found.1 = .ok [] ∧
      found.2.log = [.query [(Selection.ceilingKey, .ofCount 1)]] := by
  dsimp only
  refine ⟨?_, ?_, ?_⟩
  · rfl
  · rfl
  · rfl

end Memory
end TableClient
