import TableClient.Proofs.Service.Exchanges
import TableClient.Proofs.Service.Listing
/-! How calls fail. The service gives up at the first request that fails and at the first
answer it cannot use, and sends nothing behind it. A failure of the backend is the result as it
is; without one a call fails only because its query is refused, because a write is answered
without a record, or because a listed record has no id to delete it by. -/
namespace TableClient

def Record.Unnamed (record : Record) : Prop :=
  ∀ text, Members.get? record.flat idKey ≠ some (.string text)

theorem Record.unnamed_iff (record : Record) :
    record.Unnamed ↔ (Members.get? record.flat idKey).bind Json.string? = none := by
  rw [Unnamed, Option.bind_eq_none_iff]
  constructor
  · intro unnamed value held
    cases value with
    | string text => exact absurd held (unnamed text)
    | _ => rfl
  · intro absent text held
    cases absent _ held

namespace Call

/-- The exchanges at which a call gives up, and its failure then. -/
inductive Stops : Call → Exchange → ServiceError → Prop
  | failed {request : Request} {failure : BackendError} :
      Stops call ⟨request, .error failure⟩ (.backend failure)
  | notCreated : Stops (.create data) ⟨.write .post payload, .ok (.many [])⟩
      (.backend (.decode "response contained no records"))
  | notUpdated : Stops (.update name data) ⟨.write .put payload, .ok (.many [])⟩
      (.backend (.decode "response contained no records"))
  | unnamed : nonEmptyId? name = none → Listing.ofQuery query = .ok listing →
      record ∈ records.drop listing.skip.toNat → record.Unnamed →
      Stops (.remove name query) ⟨.query params, .ok records⟩
        (.backend (.decode "listed record has no string id"))

theorem Stops.unique {call : Call} {exchange : Exchange} {error other : ServiceError}
    (stops : call.Stops exchange error) (again : call.Stops exchange other) : error = other := by
  cases stops with
  | failed => cases again with | failed => rfl
  | notCreated => cases again with | notCreated => rfl
  | notUpdated => cases again with | notUpdated => rfl
  | unnamed => cases again with | unnamed => rfl

/-- What stops a call when no request fails. -/
theorem Stops.of_succeeds {call : Call} {exchange : Exchange} {error : ServiceError}
    (stops : call.Stops exchange error) (succeeds : exchange.Succeeds) :
    (error = .backend (.decode "response contained no records") ∧ ∃ payload,
      (∃ data, call = .create data) ∧ exchange = ⟨.write .post payload, .ok (.many [])⟩ ∨
      (∃ name data, call = .update name data) ∧
        exchange = ⟨.write .put payload, .ok (.many [])⟩) ∨
    error = .backend (.decode "listed record has no string id") ∧
      ∃ name query listing, call = .remove name query ∧ nonEmptyId? name = none ∧
        Listing.ofQuery query = .ok listing := by
  cases stops with
  | failed =>
    obtain ⟨value, ends⟩ := succeeds
    cases ends
  | notCreated => exact .inl ⟨rfl, _, .inl ⟨⟨_, rfl⟩, rfl⟩⟩
  | notUpdated => exact .inl ⟨rfl, _, .inr ⟨⟨_, _, rfl⟩, rfl⟩⟩
  | unnamed given asked _ _ => exact .inr ⟨rfl, _, _, _, rfl, given, asked⟩

def Refused : Call → InvalidOperator → Prop
  | .find query, refusal => Listing.ofQuery query = .error refusal
  | .remove id query, refusal => nonEmptyId? id = none ∧ Listing.ofQuery query = .error refusal
  | _, _ => False

end Call

namespace Service

variable {answers : (request : Request) → σ → Except BackendError request.Answer × σ}
  {stops : Exchange → ServiceError → Prop}

/-- A write whose first record is shown gives up at an answer without any. -/
theorem heeds_shown {kind : WriteKind} {payload : List Record}
    (failed : ∀ failure, stops ⟨.write kind payload, .error failure⟩ (.backend failure))
    (empty : stops ⟨.write kind payload, .ok (.many [])⟩
      (.backend (.decode "response contained no records")))
    (passes : ∀ records : OneOrMany Record, records.toList ≠ [] →
      Passes stops [⟨.write kind payload, .ok records⟩]) :
    Heeds stops (do
      return (← first (← send (.immediate (Backend.noting answers)) (.write kind payload))).flat) := by
  apply Heeds.send failed
  intro records
  match records with
  | .one record => exact .inr ⟨passes _ (List.cons_ne_nil _ _), Heeds.pure _⟩
  | .many [] => exact .inl ⟨_, empty, rfl⟩
  | .many (record :: rest) => exact .inr ⟨passes _ (List.cons_ne_nil _ _), Heeds.pure _⟩

theorem heeds_createAll (items : List FlatRecord)
    (created : ∀ item ∈ items, Heeds stops (createOne (.immediate (Backend.noting answers)) item)) :
    Heeds stops (createAll (.immediate (Backend.noting answers)) items) := by
  induction items with
  | nil => exact Heeds.pure _
  | cons item rest ih =>
    apply Heeds.bind (created item List.mem_cons_self)
    intro flat
    apply Heeds.bind (ih fun other member => created other (List.mem_cons_of_mem _ member))
    intro others
    exact Heeds.pure _

/-- A call that shows or drops what it is answered gives up only at a failure. -/
theorem heeds_send {request : Request} {f : request.Answer → α}
    (failed : ∀ failure, stops ⟨request, .error failure⟩ (.backend failure))
    (passes : ∀ answer, Passes stops [⟨request, .ok answer⟩]) :
    Heeds stops (do return f (← send (.immediate (Backend.noting answers)) request)) := by
  apply Heeds.send failed
  intro answer
  exact .inr ⟨passes answer, Heeds.pure _⟩

theorem perform_deleteAll_cons
    (call : (request : Request) → σ → Except BackendError request.Answer × σ) (id : String)
    (rest : List String) :
    perform ((Backend.immediate call).deleteAll (id :: rest)) =
      send (.immediate call) (.delete id) >>= fun answer => do
        return answer :: (← perform ((Backend.immediate call).deleteAll rest)) := by
  apply StateT.ext
  intro state
  change run (perform _) state = run (_ >>= _) state
  rw [run_bind, send, run_perform, run_perform]
  rcases Backend.deleteInTurn_cons call id rest state with
    ⟨error, next, outcome, fails⟩ | ⟨answer, next, outcome, runs⟩
  · dsimp only [Backend.immediate]
    rw [outcome, fails]
  · dsimp only [Backend.immediate]
    rw [outcome, runs]
    dsimp only
    rw [run_bind, run_perform]
    cases Backend.deleteInTurn call rest next with
    | mk result last => cases result <;> rfl

theorem heeds_deletes (failed : ∀ id failure, stops ⟨.delete id, .error failure⟩ (.backend failure))
    (passes : ∀ id answer, Passes stops [⟨.delete id, .ok answer⟩]) (ids : List String) :
    Heeds stops (do
      let answers ← perform ((Backend.immediate (Backend.noting answers)).deleteAll ids)
      return List.zipWith Removal.ofAnswer ids answers) := by
  have deleted : Heeds stops (perform ((Backend.immediate (Backend.noting answers)).deleteAll ids)) := by
    induction ids with
    | nil => exact Heeds.pure _
    | cons id rest ih =>
      rw [perform_deleteAll_cons]
      apply Heeds.send (failed id)
      intro answer
      refine .inr ⟨passes id answer, ?_⟩
      apply Heeds.bind ih
      intro others
      exact Heeds.pure _
  apply Heeds.bind deleted
  intro answers
  exact Heeds.pure _

/-- Where the ids of all listed records can be read, none of them is unnamed. -/
theorem named_of_listedIds {records : List Record} {ids : List String}
    (reads : listedIds (records.map Record.flat) = .ok ids) :
    ∀ record ∈ records, ¬ record.Unnamed := by
  intro record listed absent
  rcases listedIds_cases (records.map Record.flat) with ⟨fails, -⟩ | ⟨names, -, same⟩
  · rw [reads] at fails
    cases fails
  · have shown := List.mem_map_of_mem (f := fun flat => (Members.get? flat idKey).bind Json.string?)
      (List.mem_map_of_mem (f := Record.flat) listed)
    rw [same, record.unnamed_iff.mp absent] at shown
    simp at shown

/-- A removal without an id gives up at a failure, and at a list with a record it cannot name. -/
theorem heeds_removeAll {query : Query} {listing : Listing}
    (asked : Listing.ofQuery query = .ok listing)
    (failed : ∀ request failure, stops ⟨request, .error failure⟩ (.backend failure))
    (unnamed : ∀ params records, (∃ record ∈ records.drop listing.skip.toNat, record.Unnamed) →
      stops ⟨.query params, .ok records⟩ (.backend (.decode "listed record has no string id")))
    (named : ∀ params records, (∀ record ∈ records.drop listing.skip.toNat, ¬ record.Unnamed) →
      Passes stops [⟨.query params, .ok records⟩])
    (deleted : ∀ id answer, Passes stops [⟨.delete id, .ok answer⟩]) :
    Heeds stops (removeAll (.immediate (Backend.noting answers)) query) := by
  rw [removeAll_eq _ asked]
  apply Heeds.send (failed _)
  intro records
  rcases listedIds_cases ((records.drop listing.skip.toNat).map Record.flat) with
    ⟨fails, flat, inside, absent⟩ | ⟨ids, reads, -⟩
  · obtain ⟨record, listed, rfl⟩ := List.mem_map.mp inside
    rw [fails]
    exact .inl ⟨_, unnamed _ records ⟨record, listed, record.unnamed_iff.mpr absent⟩, rfl⟩
  · right
    constructor
    · exact named _ records (named_of_listedIds reads)
    · rw [reads]
      exact heeds_deletes (fun id => failed (.delete id)) deleted ids

theorem error_of_map {result : Except ε α} {f : α → β} {error : ε}
    (fails : result.map f = .error error) : ∃ error, result = .error error := by
  cases result with
  | error other => exact ⟨other, rfl⟩
  | ok value => cases fails

/-- A removal that fails though every request succeeds has sent its list request alone. -/
theorem unnamed_of_succeeds {query : Query} {listing : Listing} {state : σ} {error : ServiceError}
    {next : σ × List Exchange} (asked : Listing.ofQuery query = .ok listing)
    (fails : run (remove (.immediate (Backend.noting answers)) none query) (state, []) =
      (.error error, next))
    (succeed : ∀ exchange ∈ next.2, exchange.Succeeds) :
    ∃ records, (answers (.query listing.selection.params) state).1 = .ok records ∧
      next.2 = [⟨.query listing.selection.params, .ok records⟩] ∧
      ∃ record ∈ records.drop listing.skip.toNat, record.Unnamed := by
  rw [run_remove, removeAll_eq _ asked, run_send_noting] at fails
  cases answered : (answers (.query listing.selection.params) state).1 with
  | error failure =>
    rw [answered] at fails
    obtain ⟨-, rfl⟩ := Prod.mk.inj fails
    exact absurd ⟨failure, rfl, rfl⟩ ((succeed _ (List.mem_singleton.mpr rfl)).not_fails _)
  | ok records =>
    rw [answered] at fails
    dsimp only at fails
    rcases listedIds_cases ((records.drop listing.skip.toNat).map Record.flat) with
      ⟨unreadable, flat, inside, absent⟩ | ⟨ids, readable, _⟩
    · obtain ⟨record, listed, rfl⟩ := List.mem_map.mp inside
      rw [unreadable] at fails
      obtain ⟨-, rfl⟩ := Prod.mk.inj fails
      exact ⟨records, rfl, rfl, record, listed, record.unnamed_iff.mpr absent⟩
    · rw [readable] at fails
      have deletes : Heeds Exchange.Fails (do
          let deleted ← perform ((Backend.immediate (Backend.noting answers)).deleteAll ids)
          return List.zipWith Removal.ofAnswer ids deleted) := by
        apply heeds_deletes
        · exact fun id failure => ⟨failure, rfl, rfl⟩
        · intro id answer exchange member
          obtain rfl := List.mem_singleton.mp member
          exact Exchange.Succeeds.not_fails ⟨answer, rfl⟩
      obtain ⟨failed, rfl⟩ := Prod.mk.inj fails
      obtain ⟨failure, outcome⟩ := error_of_map failed
      obtain ⟨sent, last, whole, -, stopped⟩ := deletes.fails _ _ failure _ (Prod.ext outcome rfl)
      exact absurd stopped ((succeed last (by rw [whole]; simp)).not_fails failure)

end Service

namespace Call

variable (answers : (request : Request) → σ → Except BackendError request.Answer × σ)

theorem passes_of_stops {call : Call} {exchange : Exchange}
    (never : ∀ error, ¬ call.Stops exchange error) : Service.Passes call.Stops [exchange] := by
  intro other member
  obtain rfl := List.mem_singleton.mp member
  exact never

/-- A call whose query is refused fails at once, and any other gives up where it must. -/
theorem refused_or_heeds (call : Call) :
    (∃ refusal, call.Refused refusal ∧
      ∀ state, Service.run (call.perform (.immediate (Backend.noting answers))) state =
        (.error (.query refusal), state)) ∨
    Service.Heeds call.Stops (call.perform (.immediate (Backend.noting answers))) := by
  match call with
  | .find query =>
    cases asked : Listing.ofQuery query with
    | error refusal =>
      refine .inl ⟨refusal, asked, fun state => ?_⟩
      change Service.run (Service.find _ query) state = _
      unfold Service.find
      rw [asked]
      rfl
    | ok listing =>
      right
      change Service.Heeds _ (Service.find _ query)
      unfold Service.find
      rw [asked]
      apply Service.heeds_send (fun _ => .failed)
      intro records
      apply passes_of_stops
      rintro error ⟨⟩
  | .get name =>
    right
    apply Service.heeds_send (fun _ => .failed)
    intro record
    apply passes_of_stops
    rintro error ⟨⟩
  | .patch name data =>
    right
    apply Service.heeds_send (fun _ => .failed)
    intro records
    apply passes_of_stops
    rintro error ⟨⟩
  | .update name data =>
    right
    apply Service.heeds_shown (fun _ => .failed) .notUpdated
    intro records holds
    apply passes_of_stops
    rintro error ⟨⟩
    exact holds rfl
  | .create data =>
    right
    have created : ∀ item, Service.Heeds (Call.create data).Stops
        (Service.createOne (.immediate (Backend.noting answers)) item) := by
      intro item
      apply Service.heeds_shown (fun _ => .failed) .notCreated
      intro records holds
      apply passes_of_stops
      rintro error ⟨⟩
      exact holds rfl
    cases data with
    | one item =>
      apply Service.Heeds.bind (created _)
      intro flat
      exact Service.Heeds.pure _
    | many items =>
      apply Service.Heeds.bind (Service.heeds_createAll _ fun item _ => created item)
      intro flats
      exact Service.Heeds.pure _
  | .remove name query =>
    cases given : nonEmptyId? name with
    | some id =>
      right
      change Service.Heeds _ (Service.remove _ name query)
      unfold Service.remove
      rw [given]
      apply Service.Heeds.bind
      · apply Service.heeds_send (fun _ => .failed)
        intro answer
        apply passes_of_stops
        rintro error ⟨⟩
      · intro removal
        exact Service.Heeds.pure _
    | none =>
      change (∃ refusal, _ ∧ ∀ state, Service.run (Service.remove _ name query) state = _) ∨
        Service.Heeds _ (Service.remove _ name query)
      unfold Service.remove
      rw [given]
      cases asked : Listing.ofQuery query with
      | error refusal =>
        refine .inl ⟨refusal, ⟨given, asked⟩, fun state => ?_⟩
        dsimp only
        rw [Service.run_bind, Service.run_removeAll_refused asked]
      | ok listing =>
        right
        apply Service.Heeds.bind
        · apply Service.heeds_removeAll asked (fun _ _ => .failed)
          · rintro params records ⟨record, listed, absent⟩
            exact .unnamed given asked listed absent
          · intro params records named
            apply passes_of_stops
            rintro error (_ | _ | _ | ⟨_, asked', listed, absent⟩)
            obtain rfl := Except.ok.inj (asked.symm.trans asked')
            exact named _ listed absent
          · intro id answer
            apply passes_of_stops
            rintro error ⟨⟩
        · intro removals
          exact Service.Heeds.pure _

/-- A call over any backend whose calls are complete when they are made. The notes it leaves tell
all that it has sent, and change nothing else. A request that fails, or whose answer is of no
use, is the last one, and its failure the result. If no request fails, a call fails only because
its query is refused, and nothing is sent; because a write is answered without a record; or
because a listed record has no id, and then its list request is all that is sent. -/
theorem fails_fast (call : Call) (state : σ) :
    let noted := Service.run (call.perform (.immediate (Backend.noting answers))) (state, [])
    let sent := noted.2.2
    (noted.1, noted.2.1) = Service.run (call.perform (.immediate answers)) state ∧
    (∀ front exchange back error, sent = front ++ exchange :: back → call.Stops exchange error →
      back = [] ∧ noted.1 = .error error) ∧
    ((∀ exchange ∈ sent, exchange.Succeeds) → ∀ error, noted.1 = .error error →
      (∃ refusal, call.Refused refusal ∧ error = .query refusal ∧ sent = []) ∨
      (error = .backend (.decode "response contained no records") ∧ ∃ front payload,
        (∃ data, call = .create data) ∧ sent = front ++ [⟨.write .post payload, .ok (.many [])⟩] ∨
        (∃ name data, call = .update name data) ∧
          sent = front ++ [⟨.write .put payload, .ok (.many [])⟩]) ∨
      (error = .backend (.decode "listed record has no string id") ∧
        ∃ name query listing records, call = .remove name query ∧ nonEmptyId? name = none ∧
          Listing.ofQuery query = .ok listing ∧
          sent = [⟨.query listing.selection.params, .ok records⟩] ∧
          ∃ record ∈ records.drop listing.skip.toNat, record.Unnamed)) := by
  intro noted sent
  have plain : Agree _ noted (Service.run (call.perform (.immediate answers)) state) :=
    call.matches_perform (Backend.noting_simulates answers) (state, []) state rfl
  refine ⟨Prod.ext plain.1 plain.2, ?_⟩
  rcases call.refused_or_heeds answers with ⟨refusal, refused, runs⟩ | heeds
  · have quiet : noted = (.error (.query refusal), state, []) := runs (state, [])
    have unsent : sent = [] := congrArg (fun noted => noted.2.2) quiet
    constructor
    · intro front exchange back error split
      rw [unsent] at split
      simp at split
    · intro _ error fails
      rw [quiet] at fails
      exact .inl ⟨refusal, refused, (Except.error.inj fails).symm, unsent⟩
  · cases outcome : noted.1 with
    | ok value =>
      obtain ⟨behind, same, passes⟩ := heeds.ends state [] value noted.2 (Prod.ext outcome rfl)
      constructor
      · intro front exchange back error split stops
        have inside : exchange ∈ behind := by
          rw [← List.nil_append behind, ← same]
          change exchange ∈ sent
          rw [split]
          simp
        exact absurd stops (passes exchange inside error)
      · intro _ error fails
        cases fails
    | error error =>
      obtain ⟨behind, last, same, passes, stops⟩ :=
        heeds.fails state [] error noted.2 (Prod.ext outcome rfl)
      constructor
      · intro front exchange back other split again
        obtain ⟨ends, rfl⟩ := passes.last (same.symm.trans split) again
        exact ⟨ends, by rw [stops.unique again]⟩
      · intro succeed other fails
        obtain rfl := Except.error.inj fails
        have whole : sent = behind ++ [last] := same
        have succeeds := succeed last (by rw [whole]; simp)
        rcases stops.of_succeeds succeeds with
          ⟨rfl, payload, ⟨made, rfl⟩ | ⟨made, rfl⟩⟩ | ⟨rfl, name, query, listing, rfl, given, asked⟩
        · exact .inr (.inl ⟨rfl, behind, payload, .inl ⟨made, whole⟩⟩)
        · exact .inr (.inl ⟨rfl, behind, payload, .inr ⟨made, whole⟩⟩)
        · have removes : noted = Service.run (Service.remove _ none query) (state, []) :=
            congrArg (Service.run · (state, [])) (Service.remove_of_absent _ given query)
          obtain ⟨records, -, alone, unnamed⟩ :=
            Service.unnamed_of_succeeds asked (removes.symm.trans (Prod.ext outcome rfl)) succeed
          exact .inr (.inr ⟨rfl, name, query, listing, records, rfl, given, asked, alone, unnamed⟩)

end Call
end TableClient
