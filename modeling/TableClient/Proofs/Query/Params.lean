import TableClient.Proofs.Members
import TableClient.Query.Params
/-! The keys of request parameters. Each part of a selection writes keys that no other part writes,
so what a part has written is found among all parameters. -/
namespace TableClient.Selection

variable {key : String}

theorem not_mem_formulaParam (other : key ≠ formulaKey) (formula : Option String) :
    key ∉ Members.keys (formulaParam formula) := by
  cases formula with
  | none => exact List.not_mem_nil
  | some text =>
    by_cases empty : text = ""
    · simp [formulaParam, empty, Members.keys]
    · simp [formulaParam, empty, Members.keys, other]

theorem not_mem_ceilingParam (other : key ≠ ceilingKey) (ceiling : Option UInt64) :
    key ∉ Members.keys (ceilingParam ceiling) := by
  cases ceiling with
  | none => exact List.not_mem_nil
  | some count =>
    by_cases zero : count = 0
    · simp [ceilingParam, zero, Members.keys]
    · simp [ceilingParam, zero, Members.keys, other]

theorem not_mem_fieldsParam (other : key ≠ fieldsKey) (fields : Option (List String)) :
    key ∉ Members.keys (fieldsParam fields) := by
  cases fields with
  | none => exact List.not_mem_nil
  | some fields => simp [fieldsParam, Members.keys, other]

/-- The keys of an order all start in the same way. -/
theorem not_mem_sortParams (other : key.toList.head? ≠ some 's') (index : Nat)
    (keys : List SortKey) : key ∉ Members.keys (sortParams index keys) := by
  induction keys generalizing index with
  | nil => exact List.not_mem_nil
  | cons first rest ih =>
    have apart (written : String) (start : written.toList.head? = some 's') : key ≠ written := by
      rintro rfl
      exact other start
    have field : key ≠ sortFieldKey index := apart _ (by simp [sortFieldKey])
    have direction : key ≠ sortDirectionKey index := apart _ (by simp [sortDirectionKey])
    have later : key ∉ Members.keys (sortParams (index + 1) rest) := ih (index + 1)
    simpa [sortParams, Members.keys, field, direction] using later

/-- The keys behind a formula. -/
theorem formulaKey_not_mem (ceiling : Option UInt64) (fields : Option (List String))
    (keys : List SortKey) : formulaKey ∉
    Members.keys (ceilingParam ceiling ++ (fieldsParam fields ++ sortParams 0 keys)) := by
  unfold Members.keys
  rw [List.map_append, List.map_append, List.mem_append, List.mem_append]
  rintro (member | member | member)
  · exact not_mem_ceilingParam (by decide) ceiling member
  · exact not_mem_fieldsParam (by decide) fields member
  · exact not_mem_sortParams (by decide) 0 keys member

/-- The keys behind a ceiling. -/
theorem ceilingKey_not_mem (fields : Option (List String)) (keys : List SortKey) :
    ceilingKey ∉ Members.keys (fieldsParam fields ++ sortParams 0 keys) := by
  unfold Members.keys
  rw [List.map_append, List.mem_append]
  rintro (member | member)
  · exact not_mem_fieldsParam (by decide) fields member
  · exact not_mem_sortParams (by decide) 0 keys member

/-- A formula that is not empty is found under its key, and an empty one is left out. -/
theorem get?_formulaKey (selection : Selection) :
    Members.get? selection.params formulaKey =
      (selection.formula.filter (· ≠ "")).map Json.string := by
  have behind : Members.get? (ceilingParam selection.maxRecords ++
      (fieldsParam selection.fields ++ sortParams 0 (selection.sort.getD []))) formulaKey = none :=
    Members.get?_eq_none (formulaKey_not_mem _ _ _)
  unfold params
  rw [List.append_assoc, List.append_assoc]
  cases selection.formula with
  | none => exact behind
  | some text =>
    by_cases empty : text = ""
    · simp [formulaParam, empty, behind, Option.filter_some]
    · simp [formulaParam, empty, Members.get?, Option.filter_some]

/-- A ceiling above zero is found under its key, and one of zero is left out. -/
theorem get?_ceilingKey (selection : Selection) :
    Members.get? selection.params ceilingKey =
      (selection.maxRecords.filter (0 < ·)).map Json.ofCount := by
  have behind : Members.get? (fieldsParam selection.fields ++
      sortParams 0 (selection.sort.getD [])) ceilingKey = none :=
    Members.get?_eq_none (ceilingKey_not_mem _ _)
  unfold params
  rw [List.append_assoc, List.append_assoc,
    Members.get?_append_of_absent (not_mem_formulaParam (by decide) _)]
  cases selection.maxRecords with
  | none => exact behind
  | some count =>
    by_cases zero : count = 0
    · simp [ceilingParam, zero, behind, Option.filter_some]
    · have positive : 0 < count := UInt64.pos_iff_ne_zero.mpr zero
      simp [ceilingParam, zero, positive, Members.get?, Option.filter_some]

end TableClient.Selection
