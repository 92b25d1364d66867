import TableClient.Backend.Http
import TableClient.Proofs.Url.Parser
import TableClient.Service
/-! Where the requests for a record go. An id is added to the URL of its table as any name is, so an
id that is dots, or that comes to dots or to nothing when characters are dropped, does not name a
place of its own: the request goes to the table itself or to what stands above it. -/
namespace TableClient

namespace Url

variable {url : Url} {path : Path}

/-- Another URL, whose path goes on behind that of the first. -/
def Beyond (table record : Url) : Prop :=
  record.text ≠ table.text ∧ ∃ path longer, table.path = .segments path ∧
    record.path = .segments longer ∧ Path.Continues path longer

theorem push_segments (held : url.path = .segments path) (name : String) :
    url.push name = { url with path := .segments (Path.push url.kind path name) } := by
  rw [push, held]

theorem text_push_ne (held : url.path = .segments path) {name : String}
    (continues : Path.Continues path (Path.push url.kind path name))
    (other : Path.push url.kind path name ≠ path) : (url.push name).text ≠ url.text := by
  intro same
  have own : url = { url with path := .segments path } := by rw [← held]
  rw [push_segments held] at same
  exact Path.text_ne_of_continues continues other (text_path_inj (same.trans (congrArg text own)))

theorem beyond_push_iff (held : url.path = .segments path) (settled : Path.Settled url.kind path)
    (name : String) : Beyond url (url.push name) ↔ ¬ Path.Drops path name := by
  rw [← Path.push_beyond_iff settled]
  have pushed := push_segments held name
  constructor
  · rintro ⟨other, path', longer, held', held'', continues⟩
    obtain rfl := PathForm.segments.inj (held.symm.trans held')
    rw [pushed] at held''
    obtain rfl := PathForm.segments.inj held''
    refine ⟨fun same => other ?_, continues⟩
    rw [pushed, same, ← held]
  · rintro ⟨other, continues⟩
    exact ⟨text_push_ne held continues other, path, _, held, by rw [pushed], continues⟩

end Url

namespace Config

variable {config : Config}

/-- The URL of a table has a path of segments, as its scheme allows. -/
theorem tableUrl_settled {url : Url} (built : config.tableUrl = .ok url) :
    ∃ path, url.path = .segments path ∧ Url.Path.Settled url.kind path := by
  unfold tableUrl at built
  cases read : Url.parse config.apiRoot with
  | error error =>
    rw [read] at built
    cases built
  | ok root =>
    rw [read] at built
    dsimp only at built
    cases held : root.path with
    | opaqueText text =>
      rw [held] at built
      cases built
    | segments path =>
      rw [held] at built
      obtain rfl := Except.ok.inj built
      have settled : Url.Path.Settled root.kind path := (Url.sound_parse read).settled path held
      have trimmed : trimmedRoot root = { root with path := .segments path.popIfEmpty } := by
        rw [trimmedRoot, held]
      rw [trimmed]
      refine ⟨_, rfl, ?_⟩
      exact Url.Path.settled_push (Url.Path.settled_push (Url.Path.settled_popIfEmpty settled))

end Config

namespace Http

/-- A request for a record goes to a URL behind that of the table exactly if the table's path takes
the id for a segment. -/
theorem request_beyond_table_iff {config : Config} {table : Table}
    (built : Table.ofConfig config = .ok table) (id : String) :
    ∃ path, table.url.path = .segments path ∧
      ∀ request, request = .fetch id ∨ request = .delete id →
        (Url.Beyond table.url (table.message request).url ↔ ¬ Url.Path.Drops path id) := by
  unfold Table.ofConfig at built
  cases made : config.tableUrl with
  | error error =>
    rw [made] at built
    cases built
  | ok url =>
    rw [made] at built
    obtain rfl := Except.ok.inj built
    obtain ⟨path, held, settled⟩ := Config.tableUrl_settled made
    refine ⟨path, held, ?_⟩
    rintro request (rfl | rfl)
    · exact Url.beyond_push_iff held settled id
    · exact Url.beyond_push_iff held settled id

/-- An id of slashes and dots is taken for a segment, and two dots with a tab are not. -/
theorem request_beyond_table_iff_dots :
    ∃ table path, Table.ofConfig (Config.ofTable "app1" "Tasks") = .ok table ∧
      table.url.path = .segments path ∧
      (¬ Url.Path.Drops path "a/.." ∧
        Url.Beyond table.url (table.message (.fetch "a/..")).url) ∧
      Url.Path.Drops path "..\t" ∧
        ¬ Url.Beyond table.url (table.message (.delete "..\t")).url := by
  obtain ⟨table, built, shown⟩ :
      ∃ table, Table.ofConfig (Config.ofTable "app1" "Tasks") = .ok table ∧
        table.url.path = .segments ["v0".toList, "app1".toList, "Tasks".toList] := by
    refine ⟨_, rfl, ?_⟩
    rfl
  obtain ⟨path, held, fetches⟩ := request_beyond_table_iff built "a/.."
  obtain ⟨path', held', deletes⟩ := request_beyond_table_iff built "..\t"
  obtain rfl := Url.PathForm.segments.inj (shown.symm.trans held)
  obtain rfl := Url.PathForm.segments.inj (shown.symm.trans held')
  have taken : ¬ Url.Path.Drops ["v0".toList, "app1".toList, "Tasks".toList] "a/.." := by decide
  have dropped : Url.Path.Drops ["v0".toList, "app1".toList, "Tasks".toList] "..\t" := by decide
  refine ⟨table, _, built, held, ⟨taken, (fetches _ (.inl rfl)).mpr taken⟩, dropped, ?_⟩
  exact fun beyond => (deletes _ (.inr rfl)).mp beyond dropped

def answering (answer : Answer) : Exchange (List (String × String)) := fun message sent =>
  (.ok answer, sent ++ [(message.method.name, message.url.text)])

/-- Removals by the ids `.` and `..` ask for the table itself to be deleted, and one by two dots and
a tab for the base, above the table. -/
theorem removal_asks_for_table :
    let table : Table := {
      url := {
        scheme := "https"
        authority := some { Url.Authority.none with host := some (.name "api.airtable.com") }
        isHeldApart := false
        path := .segments ["v0".toList, "app1".toList, "Tasks".toList]
        query := none
        fragment := none }
      apiKey := none }
    let http := backend (answering ⟨404, ""⟩) table
    let sent (id : String) := (Service.run (Service.remove http (some id) []) []).2
    Table.ofConfig (Config.ofTable "app1" "Tasks") = .ok table ∧
      table.url.text = "https://api.airtable.com/v0/app1/Tasks" ∧
      sent "." = [("DELETE", table.url.text)] ∧ sent ".." = [("DELETE", table.url.text)] ∧
      sent "..\t" = [("DELETE", "https://api.airtable.com/v0/app1/")] := by
  dsimp only
  refine ⟨?_, ?_, ?_, ?_, ?_⟩
  · rfl
  · rfl
  · rfl
  · rfl
  · rfl

end Http
end TableClient
