import TableClient.Config
import TableClient.Proofs.Url.Parser
/-! The URLs of tables and of their records. Under a web root the base, the table and the id are the
last three segments of the path, each in its own encoding, and whatever stands in front of them and
behind the path is the root's own. No name can hide a slash or the mark of a query or of a fragment
in its segment, so the text of the URL tells all three. -/
namespace TableClient

namespace Text

variable {separator : Char → Bool} {front rest : List Char} {parts : List (List Char)}

/-- A text without separators is the first part, together with what it stands in front of. -/
theorem splitOn_append (free : ∀ c ∈ front, separator c = false)
    (behind : splitOn separator rest = [] :: parts) :
    splitOn separator (front ++ rest) = front :: parts := by
  induction front with
  | nil => exact behind
  | cons c front ih =>
    have later := ih fun d member => free d (List.mem_cons_of_mem _ member)
    rw [List.cons_append, splitOn, if_neg (by simp [free c List.mem_cons_self]), later]

end Text

namespace Url

namespace Path

variable {path : Path}

/-- A path is read back from its text if no segment holds a slash. -/
theorem splitOn_text (free : ∀ segment ∈ path, '/' ∉ segment) :
    Text.splitOn (· == '/') (text path) = [] :: path := by
  induction path with
  | nil => rfl
  | cons segment rest ih =>
    have later := ih fun other member => free other (List.mem_cons_of_mem _ member)
    have solid : ∀ c ∈ segment, (c == '/') = false := by
      rintro c member
      rw [beq_eq_false_iff_ne]
      rintro rfl
      exact free segment List.mem_cons_self member
    have shown : text (segment :: rest) = '/' :: (segment ++ text rest) := rfl
    rw [shown, Text.splitOn, if_pos (by simp), Text.splitOn_append solid later]

def ofName (name : String) : List Char := Percent.encode Percent.inSpecialSegment name.toList

theorem decode_ofName (name : String) : Percent.decode (ofName name) = name.toUTF8.data.toList := by
  rw [ofName, Percent.decode_encode (by decide), Percent.utf8_toList]

theorem ofName_injective : Function.Injective ofName := by
  intro name other same
  exact String.toList_inj.mp (Percent.encode_injective (by decide) same)

theorem ofName_ne_nil {name : String} (named : IsName name) : ofName name ≠ [] := by
  rw [ofName, ne_eq, Percent.encode_eq_nil_iff (by decide)]
  exact fun empty => named.present (String.toList_inj.mp empty)

/-- The characters that end a segment or a path when a URL is read. -/
def marks : List Char := ['/', '\\', '?', '#']

/-- A segment that a name becomes is ASCII without marks. -/
theorem plain_of_mem_ofName {name : String} {c : Char} (member : c ∈ ofName name) :
    c.toNat < 0x80 ∧ c ∉ marks := by
  rcases Percent.mem_encode member with ⟨ascii, shown⟩ | rfl | digit
  · refine ⟨ascii, fun marked => ?_⟩
    have hidden : ∀ mark ∈ marks, Percent.inSpecialSegment mark = false := by
      simp only [marks, List.mem_cons, List.not_mem_nil, or_false, forall_eq_or_imp, forall_eq]
      decide
    rw [hidden c marked] at shown
    cases shown
  · decide
  · have plain : ∀ digit ∈ "0123456789ABCDEF".toList, digit.toNat < 0x80 ∧ digit ∉ marks := by
      simp [marks]
    exact plain c digit

theorem slash_not_mem_ofName (name : String) : '/' ∉ ofName name :=
  fun member => (plain_of_mem_ofName member).2 List.mem_cons_self

/-- Names that are added one after the other stay. -/
theorem kept_append_ofName {name : String} (named : IsName name) (front : Path) :
    kept (front ++ [ofName name]) = front ++ [ofName name] := by
  apply kept_of_ne
  intro same
  have last := congrArg List.getLast? same
  rw [List.getLast?_append, List.getLast?_singleton, Option.some_or, List.getLast?_singleton] at last
  exact ofName_ne_nil named (Option.some.inj last)

end Path

theorem push_web {url : Url} {path : Path} {name : String} (web : url.kind = .web)
    (named : Path.IsName name) :
    ({ url with path := .segments path } : Url).push name =
      { url with path := .segments (path.kept ++ [Path.ofName name]) } := by
  have pushed : ({ url with path := .segments path } : Url).push name =
      { url with path := .segments (Path.push url.kind path name) } := rfl
  rw [pushed, web, Path.push_name named, Path.ofName]

end Url

namespace Config

open Url.Path (IsName ofName)

variable {apiRoot : String} {root : Url} {config : Config}

/-- The segments of a root that stay in front of the base. -/
def rootFront (root : Url) : Url.Path :=
  match root.path with
  | .segments path => path.popIfEmpty.kept
  | .opaqueText _ => []

theorem tableUrl_web (read : Url.parse config.apiRoot = .ok root) (web : root.kind = .web)
    (base : IsName config.baseId) (table : IsName config.table) :
    config.tableUrl = .ok { root with
      path := .segments (rootFront root ++ [ofName config.baseId, ofName config.table]) } := by
  obtain ⟨path, held⟩ := (Url.sound_parse read).segments fun other =>
    absurd (web.symm.trans other) (by decide)
  have trimmed : trimmedRoot root = { root with path := .segments path.popIfEmpty } := by
    rw [trimmedRoot, held]
  have front : rootFront root = path.popIfEmpty.kept := by
    rw [rootFront, held]
  unfold tableUrl
  rw [read]
  dsimp only
  rw [held]
  dsimp only
  rw [trimmed, Url.push_web web base, Url.push_web web table, Url.Path.kept_append_ofName base, front,
    List.append_assoc]
  rfl

theorem recordUrl_web {id : String} (web : root.kind = .web) (front : Url.Path) {table : String}
    (named : IsName table) (record : IsName id) (base : List Char) :
    recordUrl { root with path := .segments (front ++ [base, ofName table]) } id =
      { root with path := .segments (front ++ [base, ofName table, ofName id]) } := by
  have ends : front ++ [base, ofName table] = (front ++ [base]) ++ [ofName table] := by simp
  rw [recordUrl, Url.push_web web record, ends, Url.Path.kept_append_ofName named]
  simp

/-- The text of a record's URL tells the base, the table and the id. -/
theorem names_of_text {front : Url.Path} {base table id base' table' id' : String}
    (same : ({ root with path := .segments (front ++ [ofName base, ofName table, ofName id]) } :
        Url).text =
      ({ root with path := .segments (front ++ [ofName base', ofName table', ofName id']) } :
        Url).text) : base = base' ∧ table = table' ∧ id = id' := by
  have paths := Url.text_path_inj same
  rw [Url.Path.text, Url.Path.text, List.flatMap_append, List.flatMap_append] at paths
  have behind := congrArg (Text.splitOn (· == '/')) (List.append_cancel_left paths)
  have free (first second third : String) :
      ∀ segment ∈ [ofName first, ofName second, ofName third], '/' ∉ segment := by
    simp [Url.Path.slash_not_mem_ofName]
  have read (first second third : String) :=
    Url.Path.splitOn_text (free first second third)
  unfold Url.Path.text at read
  rw [read, read] at behind
  simpa [Url.Path.ofName_injective.eq_iff] using behind

/-- Under a root with a scheme of the web, every base, table and id that are names have a URL, and
its last three segments are these names, percent-encoded. All in front of these segments and the
query and fragment behind them are told by the root alone. The segments are ASCII without slash,
backslash and the marks of a query and of a fragment, so nothing in a name adds a segment or a
query, and for one root the text of the URL tells the base, the table and the id. -/
theorem record_url_addresses (read : Url.parse apiRoot = .ok root)
    (web : root.scheme = "http" ∨ root.scheme = "https") :
    ∃ front : Url.Path,
      (∀ config : Config, config.apiRoot = apiRoot → IsName config.baseId → IsName config.table →
        ∃ tableUrl, config.tableUrl = .ok tableUrl ∧ ∀ id, IsName id → ∃ base table record,
          recordUrl tableUrl id = { root with path := .segments (front ++ [base, table, record]) } ∧
          Url.Percent.decode base = config.baseId.toUTF8.data.toList ∧
          Url.Percent.decode table = config.table.toUTF8.data.toList ∧
          Url.Percent.decode record = id.toUTF8.data.toList ∧
          ∀ c ∈ base ++ table ++ record, c.toNat < 0x80 ∧ c ∉ Url.Path.marks) ∧
      ∀ config config' : Config, config.apiRoot = apiRoot → config'.apiRoot = apiRoot →
        IsName config.baseId → IsName config.table → IsName config'.baseId → IsName config'.table →
        ∀ tableUrl tableUrl', config.tableUrl = .ok tableUrl → config'.tableUrl = .ok tableUrl' →
        ∀ id id', IsName id → IsName id' →
          (recordUrl tableUrl id).text = (recordUrl tableUrl' id').text →
          config.baseId = config'.baseId ∧ config.table = config'.table ∧ id = id' := by
  have kind : root.kind = .web := by
    rcases web with scheme | scheme
    · rw [Url.kind, scheme]
      rfl
    · rw [Url.kind, scheme]
      rfl
  refine ⟨rootFront root, ?_, ?_⟩
  · intro config same base table
    refine ⟨_, tableUrl_web (same ▸ read) kind base table, fun id named => ?_⟩
    refine ⟨_, _, _, recordUrl_web kind _ table named _, Url.Path.decode_ofName _,
      Url.Path.decode_ofName _, Url.Path.decode_ofName _, fun c member => ?_⟩
    rw [List.mem_append, List.mem_append] at member
    rcases member with (inBase | inTable) | inRecord
    · exact Url.Path.plain_of_mem_ofName inBase
    · exact Url.Path.plain_of_mem_ofName inTable
    · exact Url.Path.plain_of_mem_ofName inRecord
  · intro config config' same same' base table base' table' url url' built built' id id' named named'
      texts
    rw [tableUrl_web (same ▸ read) kind base table] at built
    rw [tableUrl_web (same' ▸ read) kind base' table'] at built'
    obtain rfl := Except.ok.inj built
    obtain rfl := Except.ok.inj built'
    rw [recordUrl_web kind _ table named, recordUrl_web kind _ table' named'] at texts
    exact names_of_text texts

/-- Names that hold every mark, a percent sign and characters beyond ASCII, under a root with a
trailing slash, a query and a fragment. -/
theorem record_url_addresses_marked :
    let config : Config :=
      { ofTable "a/b" "Ünï?#\\" with apiRoot := "https://api.airtable.com/v0/?view=1#top" }
    ∃ root tableUrl front base table record,
      Url.parse config.apiRoot = .ok root ∧ root.scheme = "https" ∧
      config.tableUrl = .ok tableUrl ∧
      recordUrl tableUrl "%2e" = { root with path := .segments (front ++ [base, table, record]) } ∧
      Url.Percent.decode base = "a/b".toUTF8.data.toList ∧
      Url.Percent.decode table = "Ünï?#\\".toUTF8.data.toList ∧
      Url.Percent.decode record = "%2e".toUTF8.data.toList ∧
      (recordUrl tableUrl "%2e").text =
        "https://api.airtable.com/v0/a%2Fb/%C3%9Cn%C3%AF%3F%23%5C/%252e?view=1#top" := by
  intro config
  have base : IsName config.baseId :=
    ⟨by decide, by decide, by decide, by simp [config, ofTable, Url.Path.isDropped]⟩
  have table : IsName config.table :=
    ⟨by decide, by decide, by decide, by simp [config, ofTable, Url.Path.isDropped]⟩
  have record : IsName "%2e" :=
    ⟨by decide, by decide, by decide, by simp [Url.Path.isDropped]⟩
  obtain ⟨root, read, scheme⟩ :
      ∃ root, Url.parse "https://api.airtable.com/v0/?view=1#top" = .ok root ∧
        root.scheme = "https" := by
    refine ⟨_, rfl, ?_⟩
    rfl
  obtain ⟨front, addresses, -⟩ := record_url_addresses read (.inr scheme)
  obtain ⟨tableUrl, built, records⟩ := addresses config rfl base table
  obtain ⟨first, second, third, url, decoded, decoded', decoded'', -⟩ := records "%2e" record
  refine ⟨root, tableUrl, front, first, second, third, read, scheme, built, url, decoded, decoded',
    decoded'', ?_⟩
  have shown : config.tableUrl.map (fun url => (recordUrl url "%2e").text) =
      .ok "https://api.airtable.com/v0/a%2Fb/%C3%9Cn%C3%AF%3F%23%5C/%252e?view=1#top" := by
    dsimp only [config]
    rfl
  rw [built] at shown
  exact Except.ok.inj shown

end Config
end TableClient
